import Companion.Generators
import Companion.Proofs.Passes.Histories
import Companion.Proofs.Passes.Keys
import Companion.Proofs.Passes.Stores
import Mathlib.Data.List.Forall2

/-!
# Passes — one contract beside the others

The contracts of a set run over the same declarations, one after the other.  Each looks for its
annotation twice, by the full name and by the simple one, and for no other.  So a contract does not
notice which other annotations there are, and what becomes of the other contracts; all that reaches
it from them is how often the host was asked already.

* `Annotation.Concerns`: the annotations that a contract looks at.
* `Snapshot.Similar`: two snapshots that differ at most in other annotations.
* `Generators.runOne_congr`: over these, a contract's pass is the same.
* `Generators.getElem?_run`: what a contract does in a set is what it does by itself, with the
  answers that are left to it (`Generators.heard`).
* `Generators.run_eq_map`: if the host never asks to stop, each contract runs by itself.
* `Generators.noninterference`: over two histories of executions, a contract does the same.
-/

namespace Companion

/-! ### Annotations that a contract does not look at -/

/-- The attached annotation has the contract's simple name or its full name. -/
def Annotation.Concerns (a : Annotation) (scope : String) (x : Attribute) : Prop :=
  x.name = a.name ∨ x.metadataName = a.metadataName scope

instance (a : Annotation) (scope : String) : DecidablePred (a.Concerns scope) :=
  fun _ => inferInstanceAs (Decidable (_ ∨ _))

/-- The declarations are the same but for annotations that do not concern the contract: these may be
added, removed, reordered and edited. -/
structure Declaration.Similar (a : Annotation) (scope : String) (d d' : Declaration) : Prop where
  /-- All but the annotations is the same. -/
  rest : d' = { d with attributes := d'.attributes }
  /-- The annotations that concern the contract are the same, in the same order. -/
  concerned : d'.attributes.filter (a.Concerns scope) = d.attributes.filter (a.Concerns scope)

/-- The snapshots have similar declarations, one by one. -/
def Snapshot.Similar (a : Annotation) (scope : String) (s s' : Snapshot) : Prop :=
  List.Forall₂ (Declaration.Similar a scope) s.declarations s'.declarations

section Lists

variable {α β γ : Type} {l : List α}

theorem filterMap_eq_of_forall₂ {R : α → β → Prop} {f : α → Option γ} {f' : β → Option γ}
    {l' : List β} (h : List.Forall₂ R l l') (hf : ∀ x y, R x y → f' y = f x) :
    l'.filterMap f' = l.filterMap f := by
  induction h with
  | nil => rfl
  | cons hx _ ih => rw [List.filterMap_cons, List.filterMap_cons, hf _ _ hx, ih]

/-- What is looked for among some elements is found among these alone. -/
theorem find?_eq_of_filter_eq {P q : α → Bool} {l' : List α} (h : l'.filter P = l.filter P)
    (hq : ∀ x, q x = true → P x = true) : l'.find? q = l.find? q := by
  have hfind : ∀ l : List α, (l.filter P).find? q = l.find? q := fun l => by
    rw [List.find?_filter]
    refine congrArg l.find? (funext fun x => Bool.eq_iff_iff.mpr ?_)
    rw [decide_eq_true_eq]
    exact and_iff_right_of_imp (hq x)
  rw [← hfind, h, hfind]

end Lists

namespace Generator

variable {g : Generator} {s s' : Snapshot} {signal signal' : Signal} {turn : Nat → Nat}
  {d d' : Declaration} {failure : Failure} {ready : List Ready}

/-- The declarations are similar for the generator's contract. -/
abbrev SimilarTo (g : Generator) (d d' : Declaration) : Prop :=
  d.Similar g.marker g.settings.annotationNamespace d'

/-- What is looked for among the annotations that concern the contract is found in both. -/
theorem SimilarTo.find? {q : Attribute → Bool} (h : g.SimilarTo d d')
    (hq : ∀ x, q x = true → g.marker.Concerns g.settings.annotationNamespace x) :
    d'.attributes.find? q = d.attributes.find? q :=
  find?_eq_of_filter_eq h.concerned fun x hx => decide_eq_true (hq x hx)

theorem SimilarTo.isAnnotated (h : g.SimilarTo d d') : g.isAnnotated d' = g.isAnnotated d := by
  rw [Bool.eq_iff_iff, Generator.isAnnotated, Generator.isAnnotated, Declaration.hasAttribute,
    Declaration.hasAttribute, List.any_eq_true, List.any_eq_true, ← List.find?_isSome,
    ← List.find?_isSome, h.find? fun x hx => .inr (beq_iff_eq.mp hx)]

theorem SimilarTo.find?_name (h : g.SimilarTo d d') :
    (d'.attributes.find? fun x => x.name == g.marker.name) =
      d.attributes.find? fun x => x.name == g.marker.name :=
  h.find? fun _ hx => .inl (beq_iff_eq.mp hx)

/-- What the class asks for, or why it is not served, is the same. -/
theorem SimilarTo.request (h : g.SimilarTo d d') :
    (g.request (.ofDeclaration d')).map (·.key) = (g.request (.ofDeclaration d)).map (·.key) := by
  have hfind := h.find?_name
  -- the two classes differ in their annotations only
  rw [h.rest] at hfind ⊢
  generalize d'.attributes = as at hfind ⊢
  cases hp : (Candidate.ofDeclaration d).isPartial with
  | false =>
      rw [request_of_not_partial hp,
        request_of_not_partial (c := .ofDeclaration { d with attributes := as }) hp]
      rfl
  | true =>
      rw [request_of_attribute? hp,
        request_of_attribute? (c := .ofDeclaration { d with attributes := as }) hp]
      simp only [Candidate.attribute?, Candidate.ofDeclaration] at hfind ⊢
      rw [hfind]
      cases d.attributes.find? fun x => x.name == g.marker.name with
      | none => rfl
      | some x =>
          simp only [Except.bind, requestFrom, Parameters.ofArguments]
          cases x.named.text? g.marker.elementParameter <;> rfl

theorem SimilarTo.keyOf? (h : g.SimilarTo d d') : g.keyOf? d' = g.keyOf? d := by
  rw [keyOf?_eq, keyOf?_eq, h.isAnnotated, h.find?_name, h.rest]

theorem SimilarTo.warningOf? (h : g.SimilarTo d d') : g.warningOf? d' = g.warningOf? d := by
  rw [Generator.warningOf?, Generator.warningOf?, h.isAnnotated, h.rest]
  rfl

theorem SimilarTo.errorOf? (h : g.SimilarTo d d') : g.errorOf? d' = g.errorOf? d := by
  have hrequest := h.request
  have hkind : d'.kind = d.kind := by rw [h.rest]
  rw [Generator.errorOf?, Generator.errorOf?, h.isAnnotated, hkind]
  generalize g.request (.ofDeclaration d) = r, g.request (.ofDeclaration d') = r' at hrequest
  cases r with
  | ok r =>
      cases r' with
      | ok r' => rfl
      | error x' => cases hrequest
  | error x =>
      cases r' with
      | ok r' => cases hrequest
      | error x' =>
          cases hrequest
          rfl

/-- The snapshots are similar for the generator's contract. -/
abbrev SimilarOver (g : Generator) (s s' : Snapshot) : Prop :=
  s.Similar g.marker g.settings.annotationNamespace s'

theorem SimilarOver.keys (h : g.SimilarOver s s') : g.keys s' = g.keys s := by
  rw [keys_eq, keys_eq]
  exact filterMap_eq_of_forall₂ h fun _ _ => SimilarTo.keyOf?

theorem SimilarOver.diagnostics (h : g.SimilarOver s s') : g.diagnostics s' = g.diagnostics s := by
  simp only [Generator.diagnostics, skipped_eq, rejected_eq]
  rw [filterMap_eq_of_forall₂ h fun _ _ => SimilarTo.warningOf?,
    filterMap_eq_of_forall₂ h fun _ _ => SimilarTo.errorOf?]

/-! ### One contract -/

theorem announced_of_keys_eq (h : g.keys s' = g.keys s) : g.announced s' = g.announced s := by
  rw [announced, announced, prepared_of_keys_eq h]

/-- Over the same keys and with the same reports, what is prepared is the same. -/
theorem batch_units_congr (turn : Nat → Nat) (hk : g.keys s' = g.keys s)
    (hd : g.diagnostics s' = g.diagnostics s) (ha : signal.Agrees signal') :
    (g.batch s' signal' turn).units = (g.batch s signal turn).units := by
  rcases batch_of_keys_eq turn hk ha with hu | ⟨x, hu, hu'⟩
  · exact hu
  · rw [hu, hu', hd]

theorem batch_signal_answer (g : Generator) (s : Snapshot) (signal : Signal) (turn : Nat → Nat) :
    (g.batch s signal turn).signal.answer = signal.answer := by
  cases hm : g.missing? (g.requests s) with
  | some v => rw [batch_of_missing hm]
  | none =>
      rw [batch_of_complete hm]
      rfl

end Generator

namespace Generators

variable {g g' : Generator} {gs gs' : Generators} {s s' : Snapshot} {signal signal' : Signal}
  {failure : Failure} {ready : List Ready} {n : Nat}

theorem runOne_of_error (h : (g.batch s signal id).units = .error failure) :
    runOne g s signal =
      (⟨g.contract, ⟨[g.definition]⟩, .error failure⟩, { g with tokens := g.tokensAfter s },
        (g.batch s signal id).signal) := by
  simp only [runOne, Generator.pass, Generator.run_store_of_error h]

theorem runOne_of_ok (h : (g.batch s signal id).units = .ok ready) :
    let p := { g with tokens := g.tokensAfter s }.complete s ⟨ready, g.memo.overlay ready⟩
      (g.batch s signal id).signal
    runOne g s signal = (⟨g.contract, ⟨g.announced s⟩, p.outcome⟩, p.generator, p.signal) := by
  simp only [runOne, Generator.pass, Generator.run_store_of_ok h]

/-- Over the same keys and with the same reports, and for hosts that agree, a contract's pass is the
same: what it publishes, how it ends, and what it leaves remembered and drawn. -/
theorem runOne_congr (hk : g.keys s' = g.keys s) (hd : g.diagnostics s' = g.diagnostics s)
    (ha : signal.Agrees signal') :
    (runOne g s' signal').1 = (runOne g s signal).1 ∧
      (runOne g s' signal').2.1 = (runOne g s signal).2.1 := by
  have hunits := Generator.batch_units_congr id hk hd ha
  have htokens := Generator.tokensAfter_of_keys_eq hk
  cases hb : (g.batch s signal id).units with
  | error failure =>
      rw [runOne_of_error hb, runOne_of_error (hunits.trans hb), htokens]
      exact ⟨rfl, rfl⟩
  | ok ready =>
      have hd' : { g with tokens := g.tokensAfter s }.diagnostics s' =
        { g with tokens := g.tokensAfter s }.diagnostics s := hd
      rw [runOne_of_ok hb, runOne_of_ok (hunits.trans hb), htokens,
        Generator.announced_of_keys_eq hk]
      simp only [Generator.complete, hd', and_self]

theorem runOne_answer (g : Generator) (s : Snapshot) (signal : Signal) :
    (runOne g s signal).2.2.answer = signal.answer := by
  rw [← g.batch_signal_answer s signal id]
  cases hb : (g.batch s signal id).units with
  | error failure => rw [runOne_of_error hb]
  | ok ready =>
      rw [runOne_of_ok hb]
      rfl

/-- A contract's pass leaves its annotation and its settings. -/
theorem runOne_frame (g : Generator) (s : Snapshot) (signal : Signal) :
    (runOne g s signal).2.1.marker = g.marker ∧
      (runOne g s signal).2.1.settings = g.settings := by
  cases hb : (g.batch s signal id).units with
  | error failure =>
      rw [runOne_of_error hb]
      exact ⟨rfl, rfl⟩
  | ok ready =>
      rw [runOne_of_ok hb]
      exact ⟨rfl, rfl⟩

/-! ### One contract after the other -/

/-- The host's answers that are left when it is the turn of the `n`-th contract, counted from
zero. -/
def heard (gs : Generators) (s : Snapshot) (signal : Signal) (n : Nat) : Signal :=
  (run s signal (gs.take n)).2.2

theorem run_answer (gs : Generators) (s : Snapshot) (signal : Signal) :
    (run s signal gs).2.2.answer = signal.answer := by
  induction gs generalizing signal with
  | nil => rfl
  | cons g gs ih => exact (ih _).trans (runOne_answer g s signal)

theorem heard_answer (gs : Generators) (s : Snapshot) (signal : Signal) (n : Nat) :
    (gs.heard s signal n).answer = signal.answer := run_answer _ s signal

/-- A contract does in a set what it does by itself, with the answers that are left to it. -/
theorem getElem?_run (gs : Generators) (s : Snapshot) (signal : Signal) (n : Nat) :
    (run s signal gs).1[n]? = gs[n]?.map (fun g => (runOne g s (gs.heard s signal n)).1) ∧
      (run s signal gs).2.1[n]? =
        gs[n]?.map fun g => (runOne g s (gs.heard s signal n)).2.1 := by
  induction gs generalizing signal n with
  | nil => exact ⟨rfl, rfl⟩
  | cons g gs ih =>
      cases n with
      | zero => exact ⟨rfl, rfl⟩
      | succ n => exact ih (runOne g s signal).2.2 n

/-- If the host never asks to stop, each contract runs by itself. -/
theorem run_eq_map (gs : Generators) (s : Snapshot) (h : ∀ i, signal.answer i = false) :
    (run s signal gs).1 = gs.map fun g => (runOne g s .never).1 := by
  refine List.ext_getElem? fun n => ?_
  rw [(getElem?_run gs s signal n).1, List.getElem?_map]
  refine congrArg (gs[n]?.map ·) (funext fun g => ?_)
  refine (runOne_congr rfl rfl (Signal.agrees_of_constant (fun _ => rfl) fun i => ?_)).1
  rw [heard_answer, h]

/-! ### The contracts of a set -/

/-- An execution keeps the contracts of the set, and there is a run of each. -/
theorem map_contract_run (gs : Generators) (s : Snapshot) (signal : Signal) :
    (run s signal gs).1.map (·.contract) = gs.map (·.contract) ∧
      (run s signal gs).2.1.map (·.contract) = gs.map (·.contract) := by
  induction gs generalizing signal with
  | nil => exact ⟨rfl, rfl⟩
  | cons g gs ih =>
      obtain ⟨hruns, hleft⟩ := ih (runOne g s signal).2.2
      have hframe : (runOne g s signal).2.1.contract = g.contract :=
        congrArg Annotation.contract (runOne_frame g s signal).1
      exact ⟨congrArg (g.contract :: ·) hruns, congrArg₂ List.cons hframe hleft⟩

/-- The set was just made: it has a generator for each annotation, with the settings, some templates
and the annotation's random tokens. -/
def Fresh (settings : Settings) (random : RandomTokens) (gs : Generators) : Prop :=
  List.Forall₂ (fun a g => ∃ catalog, g = Generator.create a settings catalog (random a))
    Annotation.all gs

variable {settings : Settings} {random : RandomTokens}

theorem fresh_create (settings : Settings) (catalog : Catalog) (random : RandomTokens) :
    Fresh settings random (create settings catalog random) :=
  List.forall₂_map_right_iff.mpr (List.forall₂_same.mpr fun _ _ => ⟨catalog, rfl⟩)

theorem Fresh.exists_of_mem (h : Fresh settings random gs) (hg : g ∈ gs) :
    ∃ a ∈ Annotation.all, ∃ catalog, g = Generator.create a settings catalog (random a) := by
  obtain ⟨i, hi, rfl⟩ := List.getElem_of_mem hg
  have hlength := h.length_eq
  exact ⟨_, List.getElem_mem (hlength ▸ hi), h.get (hlength ▸ hi) hi⟩

theorem Fresh.map_marker (h : Fresh settings random gs) : gs.map (·.marker) = Annotation.all := by
  have hmarker : List.Forall₂ (fun a g => g.marker = a) Annotation.all gs :=
    h.imp fun _ _ ⟨_, he⟩ => congrArg Generator.marker he
  exact List.forall₂_eq_eq_eq ▸ List.forall₂_map_left_iff.mpr hmarker.flip

theorem Fresh.map_contract (h : Fresh settings random gs) :
    gs.map (·.contract) = Contract.all := by
  calc gs.map (·.contract) = (gs.map (·.marker)).map (·.contract) := (List.map_map ..).symm
    _ = Contract.all := by rw [h.map_marker]; rfl

/-- No contract is served twice. -/
theorem Fresh.nodup_contract (h : Fresh settings random gs) :
    (gs.map (·.contract)).Nodup := by
  rw [h.map_contract]
  decide

/-! ### Histories of executions -/

/-- Executions over snapshots, one after the other: the runs of each, and the set left. -/
def runEach : Generators → List (Snapshot × Signal) → List (List ContractRun) × Generators
  | gs, [] => ([], gs)
  | gs, (s, signal) :: jobs =>
    let (runs, gs, _) := run s signal gs
    let (later, gs) := runEach gs jobs
    (runs :: later, gs)

/-- Two histories of executions.  Each execution of the one is over a snapshot that differs from
that of the other at most in annotations that do not concern the contract in `n`-th place, and the
host gives this contract the same answers. -/
inductive Paired (a : Annotation) (scope : String) (n : Nat) :
    Generators → List (Snapshot × Signal) → Generators → List (Snapshot × Signal) → Prop where
  | nil (gs gs' : Generators) : Paired a scope n gs [] gs' []
  | cons {gs gs' : Generators} {s s' : Snapshot} {signal signal' : Signal}
      {jobs jobs' : List (Snapshot × Signal)} : s.Similar a scope s' →
      (gs.heard s signal n).Agrees (gs'.heard s' signal' n) →
      Paired a scope n (run s signal gs).2.1 jobs (run s' signal' gs').2.1 jobs' →
      Paired a scope n gs ((s, signal) :: jobs) gs' ((s', signal') :: jobs')

/-- Hosts that give one and the same answer throughout each execution give it to every contract. -/
theorem paired_of_constant {a : Annotation} {scope : String} {jobs jobs' : List (Snapshot × Signal)}
    (h : List.Forall₂ (fun x y => x.1.Similar a scope y.1 ∧
      ∃ b, (∀ i, x.2.answer i = b) ∧ ∀ i, y.2.answer i = b) jobs jobs') (gs gs' : Generators) :
    Paired a scope n gs jobs gs' jobs' := by
  induction h generalizing gs gs' with
  | nil => exact .nil gs gs'
  | @cons x y jobs jobs' hxy _ ih =>
      obtain ⟨hs, b, hx, hy⟩ := hxy
      refine .cons hs (Signal.agrees_of_constant (b := b) ?_ ?_) (ih _ _)
      · rw [heard_answer]
        exact hx
      · rw [heard_answer]
        exact hy

/-- In both histories the contract in `n`-th place does the same: what it publishes, how its passes
end, and what it remembers and has drawn in the end. -/
def SameAt (n : Nat) (gs : Generators) (jobs : List (Snapshot × Signal)) (gs' : Generators)
    (jobs' : List (Snapshot × Signal)) : Prop :=
  ∃ (runs : List ContractRun) (left : Generator),
    (runEach gs jobs).1.map (·[n]?) = runs.map some ∧
    (runEach gs' jobs').1.map (·[n]?) = runs.map some ∧
    (runEach gs jobs).2[n]? = some left ∧ (runEach gs' jobs').2[n]? = some left

/-- Two sets that have the same generator in one place, and whatever generators in the others, do
the same there over paired histories. -/
theorem noninterference {jobs jobs' : List (Snapshot × Signal)} (hg : gs[n]? = some g)
    (hg' : gs'[n]? = some g)
    (h : Paired g.marker g.settings.annotationNamespace n gs jobs gs' jobs') :
    SameAt n gs jobs gs' jobs' := by
  generalize ha : g.marker = a, hscope : g.settings.annotationNamespace = scope at h
  induction h generalizing g with
  | nil gs gs' => exact ⟨[], g, rfl, rfl, hg, hg'⟩
  | @cons gs gs' s s' signal signal' jobs jobs' hs hagrees _ ih =>
      subst ha hscope
      obtain ⟨hone, hleft⟩ := getElem?_run gs s signal n
      obtain ⟨hone', hleft'⟩ := getElem?_run gs' s' signal' n
      have hsimilar : g.SimilarOver s s' := hs
      obtain ⟨hrun, hafter⟩ := runOne_congr hsimilar.keys hsimilar.diagnostics hagrees
      obtain ⟨hmarker, hsettings⟩ := runOne_frame g s (gs.heard s signal n)
      rw [hg, Option.map_some] at hone hleft
      rw [hg', Option.map_some, hrun] at hone'
      rw [hg', Option.map_some, hafter] at hleft'
      -- the generator that the first execution leaves is again in both sets
      obtain ⟨runs, left, hruns, hruns', hgs, hgs'⟩ := ih hleft hleft' hmarker (by rw [hsettings])
      exact ⟨_ :: runs, left, congrArg₂ List.cons hone hruns, congrArg₂ List.cons hone' hruns',
        hgs, hgs'⟩

end Generators

end Companion
