import Companion.Proofs.Passes.Contracts

/-!
# Passes — what is collected of a set

When a set was run, the units of the contracts whose passes were complete are collected.  Each unit
is looked up under its identity, in the order of publication, and a set serves each contract once.
So of each contract there is what its own pass published.

* `Generators.mem_collect_iff` and `Generators.lookup_collect`: what is collected of any runs.
* `Generators.exists_collected`: what is collected of a contract, by the calls that its pass made.
* `Generators.Reached`: the sets that a history leads to.
* `Generators.Reached.separation`: in these, contracts do not interfere, and their units are kept
  apart.
-/

namespace Companion.Generators

variable {g : Generator} {gs : Generators} {s : Snapshot} {signal : Signal} {n : Nat}
  {r : ContractRun} {runs : List ContractRun}

/-! ### What is collected -/

theorem mem_collect_iff {c : Contract} {us : List SourceUnit} :
    (c, us) ∈ collect runs ↔
      ∃ r ∈ runs, (∃ report, r.outcome = .ok report) ∧ r.contract = c ∧ r.output.inOrder = us := by
  have hok : ∀ r : ContractRun, r.outcome.toOption.isSome = true ↔
      ∃ report, r.outcome = .ok report := fun r => by
    cases r.outcome <;> simp [Except.toOption]
  simp only [collect, List.mem_map, List.mem_filter, hok, Prod.mk.injEq, and_assoc]

/-- Units are collected once for a contract, if no contract was run twice. -/
theorem nodup_collect (hn : (runs.map (·.contract)).Nodup) :
    ((collect runs).map Prod.fst).Nodup := by
  rw [collect, List.map_map]
  exact hn.sublist (List.filter_sublist.map _)

/-- In a list of contracts' units without repetition, what is found is what there is. -/
theorem lookup_eq_some_iff {l : List (Contract × List SourceUnit)} {c : Contract}
    {us : List SourceUnit} (hn : (l.map Prod.fst).Nodup) :
    l.lookup c = some us ↔ (c, us) ∈ l := by
  induction l with
  | nil => simp
  | cons x l ih =>
      obtain ⟨c', us'⟩ := x
      obtain ⟨hmem, hn⟩ := List.nodup_cons.mp hn
      by_cases hc : c = c'
      · subst hc
        have hrest : (c, us) ∉ l := fun h => hmem (List.mem_map.mpr ⟨_, h, rfl⟩)
        simp [hrest, eq_comm]
      · rw [List.lookup_cons, beq_false_of_ne hc, List.mem_cons, ← ih hn]
        simp [hc]

/-- What is collected of a contract is what its own pass published, if it was complete. -/
theorem lookup_collect (hn : (runs.map (·.contract)).Nodup) (hr : r ∈ runs) :
    (collect runs).lookup r.contract = r.outcome.toOption.map fun _ => r.output.inOrder := by
  refine Option.ext fun us => ?_
  rw [lookup_eq_some_iff (nodup_collect hn), mem_collect_iff]
  constructor
  · rintro ⟨q, hq, ⟨report, ho⟩, hc, rfl⟩
    obtain rfl := List.inj_on_of_nodup_map hn hq hr hc
    rw [ho]
    rfl
  · intro h
    obtain ⟨report, ho, rfl⟩ := Option.map_eq_some_iff.mp h
    exact ⟨r, hr, ⟨report, eq_ok_of_toOption ho⟩, rfl, rfl⟩

/-- What is collected of a contract, given its run and the calls that the pass made. -/
structure Collected (units : List (Contract × List SourceUnit)) (g : Generator) (s : Snapshot)
    (r : ContractRun) (calls : Calls) : Prop where
  /-- Nothing is, if the pass ended early. -/
  failed : ∀ failure, r.outcome = .error failure → units.lookup r.contract = none
  /-- If the pass was complete, all that it offered the sink is, first the annotation's unit and
  then those of the classes, each once. -/
  complete : ∀ report, r.outcome = .ok report →
    units.lookup r.contract = some (g.announced s) ∧
    calls = Calls.accepted (g.announced s) ∧
    (g.announced s).map (·.identity) = report.definition :: report.published ∧
    ((g.announced s).map (·.identity)).Nodup

/-- A contract's run, and what is collected of it. -/
theorem exists_collected (hn : (gs.map (·.contract)).Nodup) (s : Snapshot) (signal : Signal)
    (hg : gs[n]? = some g) :
    ∃ r p calls, (run s signal gs).1[n]? = some r ∧ r.contract = g.contract ∧
      (g.passWith s UnitStore.sink.recorded (gs.heard s signal n) id).run (.empty, []) =
        (p, r.output, calls) ∧ r.outcome = p.outcome ∧
      Collected (collect (run s signal gs).1) g s r calls := by
  obtain ⟨calls, p, out, he, ha⟩ :=
    g.exists_ends s UnitStore.sink (gs.heard s signal n) id .empty
  have hrun := Generator.passWith_of_ends he ha
  have hr : (run s signal gs).1[n]? = some ⟨g.contract, out, p.outcome⟩ := by
    rw [(getElem?_run gs s signal n).1, hg, Option.map_some]
    simp only [runOne, Generator.pass, hrun]
  have hn' : ((run s signal gs).1.map (·.contract)).Nodup := by
    rwa [(map_contract_run gs s signal).1]
  have hlookup := lookup_collect hn' (List.mem_of_getElem? hr)
  refine ⟨_, p, calls, hr, rfl, Generator.passWith_recorded_eq_iff.mpr ⟨he, ha⟩, rfl, ?_, ?_⟩
  · intro failure ho
    have ho' : p.outcome = .error failure := ho
    rw [hlookup, ho']
    rfl
  · intro report ho
    have ho' : p.outcome = .ok report := ho
    obtain ⟨rfl, hnodup⟩ := he.of_ok ho'
    obtain ⟨-, rfl⟩ := UnitStore.answers_empty_iff.mp ha
    refine ⟨?_, rfl, ?_, hnodup⟩
    · rw [hlookup, ho']
      exact congrArg some (UnitStore.inOrder_eq hnodup)
    · obtain rfl := he.eq_complete ho'
      cases ho'
      exact congrArg (_ :: ·) (List.map_map ..)

/-! ### Histories of sets -/

/-- The sets that a history leads to: a set is made of generators that remember nothing, one for
each annotation; the templates or the tokens of one are replaced; the set is run over snapshots; and
its generators are used by themselves, with sinks of all sorts. -/
inductive Reached : Generators → Prop where
  | create {gs : Generators} :
      gs.map (·.marker) = Annotation.all → (∀ g ∈ gs, g.memo = {}) → Reached gs
  | withCatalog {gs : Generators} {n : Nat} {g : Generator} (catalog : Catalog) :
      Reached gs → gs[n]? = some g → Reached (gs.set n (g.withCatalog catalog))
  | withTokens {gs : Generators} {n : Nat} {g : Generator} (tokens : TokenSource) :
      Reached gs → gs[n]? = some g → Reached (gs.set n (g.withTokens tokens))
  | executed {gs : Generators} (s : Snapshot) (signal : Signal) :
      Reached gs → Reached (run s signal gs).2.1
  | passed {σ : Type} {gs : Generators} {n : Nat} {g : Generator} {s : Snapshot}
      {sink : Sink (StateM σ)} {signal : Signal} {turn : Nat → Nat} {a b : σ} {p : Generator.Pass} :
      Reached gs → gs[n]? = some g → (g.passWith s sink signal turn).run a = (p, b) →
      Reached (gs.set n p.generator)

theorem Fresh.reached {settings : Settings} {random : RandomTokens}
    (h : Fresh settings random gs) : Reached gs := by
  refine .create h.map_marker fun g hg => ?_
  obtain ⟨a, -, catalog, rfl⟩ := h.exists_of_mem hg
  rfl

/-- A generator that is put in the place of one with the same contract leaves the contracts. -/
theorem map_contract_set (hg : gs[n]? = some g) (g' : Generator)
    (hcontract : g'.contract = g.contract) :
    (gs.set n g').map (·.contract) = gs.map (·.contract) := by
  obtain ⟨hn, rfl⟩ := List.getElem?_eq_some_iff.mp hg
  calc (gs.set n g').map (·.contract)
      = (gs.set n gs[n]).map (·.contract) := by rw [List.map_set, List.map_set, hcontract]
    _ = gs.map (·.contract) := by rw [List.set_getElem_self]

theorem Reached.map_contract (h : Reached gs) : gs.map (·.contract) = Contract.all := by
  induction h with
  | @create gs hm _ =>
      calc gs.map (·.contract) = (gs.map (·.marker)).map (·.contract) := (List.map_map ..).symm
        _ = Contract.all := by rw [hm]; rfl
  | @withCatalog gs n g catalog _ hg ih => rw [map_contract_set hg (g.withCatalog catalog) rfl, ih]
  | @withTokens gs n g tokens _ hg ih => rw [map_contract_set hg (g.withTokens tokens) rfl, ih]
  | executed s signal _ ih => rw [(map_contract_run _ s signal).2, ih]
  | @passed σ gs n g s sink signal turn a b p _ hg hrun ih =>
      obtain ⟨calls, he, -⟩ := Generator.passWith_eq_iff.mp hrun
      rw [map_contract_set hg _ (congrArg Annotation.contract he.frame.1), ih]

theorem Reached.nodup_contract (h : Reached gs) : (gs.map (·.contract)).Nodup := by
  rw [h.map_contract]
  decide

/-- **Contracts do not interfere, and their units are kept apart.**  After every history of a set:

* Let the set, and another one with the same generator for a contract, go through paired histories
  of executions: over snapshots that differ at most in annotations of other names, with hosts that
  give the contract the same answers.  Then the contract does the same in both, whatever becomes of
  the others.  Hosts that give one answer throughout each execution give it to every contract.
* What is collected of an execution is, for each contract whose pass was complete and for no other,
  what this pass published, in the order of publication. -/
theorem Reached.separation (h : Reached gs) :
    (∀ n g gs' jobs jobs', gs[n]? = some g → gs'[n]? = some g →
      (Paired g.marker g.settings.annotationNamespace n gs jobs gs' jobs' →
        SameAt n gs jobs gs' jobs') ∧
      (List.Forall₂ (fun x y => x.1.Similar g.marker g.settings.annotationNamespace y.1 ∧
          ∃ b, (∀ i, x.2.answer i = b) ∧ ∀ i, y.2.answer i = b) jobs jobs' →
        SameAt n gs jobs gs' jobs')) ∧
    ∀ s signal,
      ((collect (run s signal gs).1).map Prod.fst).Nodup ∧
      (∀ c, c ∈ (collect (run s signal gs).1).map Prod.fst ↔
        ∃ r ∈ (run s signal gs).1, r.contract = c ∧ ∃ report, r.outcome = .ok report) ∧
      ∀ n g, gs[n]? = some g →
        ∃ r p calls, (run s signal gs).1[n]? = some r ∧ r.contract = g.contract ∧
          (g.passWith s UnitStore.sink.recorded (gs.heard s signal n) id).run (.empty, []) =
            (p, r.output, calls) ∧ r.outcome = p.outcome ∧
          Collected (collect (run s signal gs).1) g s r calls := by
  refine ⟨fun n g gs' jobs jobs' hg hg' => ⟨noninterference hg hg', fun hjobs =>
    noninterference hg hg' (paired_of_constant hjobs gs gs')⟩, fun s signal => ?_⟩
  have hn : ((run s signal gs).1.map (·.contract)).Nodup := by
    rw [(map_contract_run gs s signal).1]
    exact h.nodup_contract
  refine ⟨nodup_collect hn, fun c => ?_, fun n g hg =>
    exists_collected h.nodup_contract s signal hg⟩
  rw [List.mem_map]
  constructor
  · rintro ⟨⟨_, us⟩, hmem, rfl⟩
    obtain ⟨r, hr, ho, rfl, -⟩ := mem_collect_iff.mp hmem
    exact ⟨r, hr, rfl, ho⟩
  · rintro ⟨r, hr, rfl, ho⟩
    exact ⟨_, mem_collect_iff.mpr ⟨r, hr, ho, rfl, rfl⟩, rfl⟩

/-- The theorem at a class that asks for a list, and then for a read-only list too, for which there
is no template: that contract fails, and the list is the same. -/
theorem separation_carts :
    let int := Attribute.listOf "AutoCollection" "int"
    let readOnly : Attribute := { int with name := "GenerateReadOnlyList" }
    let catalog : Catalog := ⟨fun v => if v.contract = .list then some (.row v) else none⟩
    let gs := create { namespaceTokens := .sequential } catalog fun _ => Text.hex 32
    let s : Snapshot := { declarations := [.cart (some "Shop") [int]] }
    let s' : Snapshot := { declarations := [.cart (some "Shop") [readOnly, int]] }
    Reached gs ∧ s.Similar .list "AutoCollection" s' ∧
      SameAt 1 gs [(s, .never)] gs [(s', .never)] ∧
      (run s .never gs).1.map (·.outcome.toOption.isSome) = [true, true] ∧
      (run s' .never gs).1.map (·.outcome.toOption.isSome) = [false, true] ∧
      (collect (run s' .never gs).1).map (fun x => (x.1, x.2.map (·.identity))) =
        [(.list, ["GenerateList.Attribute.g.cs", "Shop.Cart.g.cs"])] ∧
      ∃ g r calls, gs[1]? = some g ∧ Collected (collect (run s' .never gs).1) g s' r calls := by
  intro int readOnly catalog gs s s'
  have h : Reached gs := (fresh_create ..).reached
  have hs : s.Similar .list "AutoCollection" s' :=
    .cons ⟨rfl, by decide +kernel⟩ .nil
  obtain ⟨hsame, hcollect⟩ := h.separation
  obtain ⟨-, -, hcollected⟩ := hcollect s' .never
  obtain ⟨r, p, calls, -, -, -, -, hr⟩ := hcollected 1 _ rfl
  exact ⟨h, hs,
    (hsame 1 _ gs _ _ rfl rfl).2 (.cons ⟨hs, false, fun _ => rfl, fun _ => rfl⟩ .nil),
    by decide +kernel, by decide +kernel, by decide +kernel, _, r, calls, rfl, hr⟩

end Companion.Generators
