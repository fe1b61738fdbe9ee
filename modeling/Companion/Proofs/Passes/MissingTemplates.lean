import Companion.Proofs.Candidates.Faults
import Companion.Proofs.Passes.Publication

/-!
# Passes — when a template is missing

The templates are looked for when all classes have been read, and before the host is asked for the
first time.  Which templates are needed depends on all requests together, reused ones included, and
the miss that is reported is the first one in the order of `Variant.all`.

* `Generator.Lacks`: a request needs the template of a shape, and there is none.
* `Generator.missing?_eq_some_iff`: the miss that is reported is that of the first shape whose
  template is lacking.
* `Generator.id_ne_of_mem_diagnostics`: no report about a candidate is one about a template.
* `Generator.configuration_fault`: a pass fails for want of a template just if one is lacking; what
  it reports then, and what it leaves.
-/

namespace Companion

/-! ### The order of the variants -/

theorem Variant.filter_all (c : Contract) :
    all.filter (fun v => v.contract == c) = Shape.all.map (Variant.mk c) := by
  cases c <;> rfl

/-- A search among the variants that finds only those of one contract is one among the shapes. -/
theorem Variant.find?_all {q : Variant → Bool} {c : Contract}
    (h : ∀ v : Variant, q v = true → v.contract = c) :
    all.find? q = (Shape.all.find? fun shape => q ⟨c, shape⟩).map (Variant.mk c) := by
  have hq : (fun v : Variant => decide ((v.contract == c) = true ∧ q v = true)) = q := by
    funext v
    cases hv : q v with
    | false => simp
    | true => simp [h v hv]
  calc all.find? q = (all.filter fun v => v.contract == c).find? q := by rw [List.find?_filter, hq]
    _ = (Shape.all.map (Variant.mk c)).find? q := by rw [filter_all]
    _ = (Shape.all.find? fun shape => q ⟨c, shape⟩).map (Variant.mk c) := List.find?_map

theorem Shape.find?_all_eq_some_iff {q : Shape → Bool} {shape : Shape} :
    all.find? q = some shape ↔
      q shape = true ∧ (shape = .userBacked → ¬q .autoBacked = true) := by
  cases shape <;> cases h : q .autoBacked <;> simp [all, h]

namespace Generator

variable {σ : Type} {g h : Generator} {s : Snapshot} {sink : Sink (StateM σ)} {signal : Signal}
  {turn : Nat → Nat} {a b : σ} {calls : Calls} {p : Pass} {shape : Shape} {x : Diagnostic}

/-! ### Shapes without a template -/

/-- A request needs the template of the shape, and there is none. -/
def Lacks (g : Generator) (s : Snapshot) (shape : Shape) : Prop :=
  ∃ r ∈ g.requests s, r.resolution.variant = ⟨g.contract, shape⟩ ∧
    g.catalog.get? r.resolution.variant = none

/-- The shape is the first whose template is lacking. -/
structure LacksFirst (g : Generator) (s : Snapshot) (shape : Shape) : Prop where
  lacks : g.Lacks s shape
  first : shape = .userBacked → ¬g.Lacks s .autoBacked

theorem contract_of_mem_requests {r : Request} (hr : r ∈ g.requests s) :
    r.resolution.variant.contract = g.contract := by
  rw [(eq_asked_of_mem_requests hr).2]
  rfl

/-- The test by which a miss is searched for. -/
theorem lacks_iff {v : Variant} :
    ((g.requests s).any (fun r => r.resolution.variant == v) && (g.catalog.get? v).isNone) = true ↔
      v.contract = g.contract ∧ g.Lacks s v.shape := by
  simp only [Bool.and_eq_true, List.any_eq_true, beq_iff_eq, Option.isNone_iff_eq_none, Lacks]
  constructor
  · rintro ⟨⟨r, hr, rfl⟩, hn⟩
    have hc := contract_of_mem_requests hr
    exact ⟨hc, r, hr, by rw [← hc], hn⟩
  · rintro ⟨hc, r, hr, hv, hn⟩
    rw [← hc] at hv
    exact ⟨⟨r, hr, hv⟩, by rwa [hv] at hn⟩

theorem missing?_eq_some_iff {v : Variant} :
    g.missing? (g.requests s) = some v ↔ v.contract = g.contract ∧ g.LacksFirst s v.shape := by
  rw [missing?, Variant.find?_all fun v hv => (lacks_iff.mp hv).1]
  simp only [Option.map_eq_some_iff, Shape.find?_all_eq_some_iff, lacks_iff, true_and]
  constructor
  · rintro ⟨shape, ⟨hl, hf⟩, rfl⟩
    exact ⟨rfl, hl, hf⟩
  · rintro ⟨hc, hl, hf⟩
    exact ⟨v.shape, ⟨hl, hf⟩, by rw [← hc]⟩

/-! ### Reports about candidates -/

/-- No report about a candidate is one about a template. -/
theorem id_ne_of_mem_diagnostics (hx : x ∈ g.diagnostics s) : x.id ≠ Code.missingTemplate.id := by
  rw [diagnostics, List.mem_append, skipped_eq, rejected_eq] at hx
  rcases hx with hx | hx
  · obtain ⟨d, -, hd⟩ := List.mem_filterMap.mp hx
    have habout := Fate.of_warning (hd ▸ g.fate d)
    rw [habout.id]
    decide
  · obtain ⟨d, -, hd⟩ := List.mem_filterMap.mp hx
    obtain ⟨code, hf, habout⟩ := Fate.of_error (hd ▸ g.fate d)
    rw [habout.id]
    cases hf <;> decide

theorem filter_missingTemplate (g : Generator) (s : Snapshot) (v : Variant) :
    (Diagnostic.missingTemplate v :: g.diagnostics s).filter
      (fun x => x.id == Code.missingTemplate.id) = [.missingTemplate v] := by
  have hnone : (g.diagnostics s).filter (fun x => x.id == Code.missingTemplate.id) = [] :=
    List.filter_eq_nil_iff.mpr fun x hx => by simpa using id_ne_of_mem_diagnostics hx
  rw [List.filter_cons_of_pos (by exact beq_self_eq_true _), hnone]

/-- The reports about candidates depend on the annotation and the settings only. -/
theorem diagnostics_congr (hmarker : h.marker = g.marker) (hsettings : h.settings = g.settings) :
    h.diagnostics s = g.diagnostics s := by
  obtain ⟨marker, settings, catalog, tokens, memo⟩ := g
  cases hmarker
  cases hsettings
  rfl

/-! ### Passes -/

/-- If a template is missing, the pass ends after the annotation's unit, and the host is not
asked. -/
theorem Ends.of_missing {v : Variant} (hv : g.missing? (g.requests s) = some v) :
    g.Ends s signal turn [(g.definition, .ok ())]
      ⟨.error (.missingTemplate (.missingTemplate v) (g.diagnostics s)),
        { g with tokens := g.tokensAfter s }, signal⟩ := by
  have hb : g.batch s signal turn = _ := batch_of_missing hv
  have he := Ends.unprepared (congrArg Batch.units hb)
  rwa [hb] at he

/-- If all templates are at hand, the host does not ask to stop and the sink accepts all units, then
a pass is complete, or an identity occurs twice. -/
theorem Ends.complete_or_collision (he : g.Ends s signal turn calls p)
    (hc : ∀ call ∈ calls, call.2 = .ok ()) (hm : g.missing? (g.requests s) = none)
    (hs : g.stops s signal turn = false) :
    (∃ report, p.outcome = .ok report) ∨ ∃ identity, p.outcome = .error (.collision identity) := by
  obtain ⟨hcomplete, hcollision⟩ := he.of_go hc hm hs
  cases hi : g.collision? s with
  | none => exact .inl (hcomplete hi)
  | some identity => exact .inr ⟨identity, hcollision identity hi⟩

/-- A host that never asks to stop does not ask to stop in a pass. -/
theorem stops_of_never (h : ∀ i, signal.answer i = false) : g.stops s signal turn = false := by
  simp [stops, h]

/-- What a pass of the same annotation and settings reports about candidates. -/
theorem diagnostics_of_run (hmarker : h.marker = g.marker) (hsettings : h.settings = g.settings)
    (hrun : (h.passWith s sink signal turn).run a = (p, b)) :
    (∀ report, p.outcome = .ok report → report.diagnostics = g.diagnostics s) ∧
      ((∀ v, (h.catalog.get? v).isSome) → sink.Accepts → (∀ i, signal.answer i = false) →
        (∃ report, p.outcome = .ok report) ∨
          ∃ identity, p.outcome = .error (.collision identity)) := by
  obtain ⟨calls, he, ha⟩ := passWith_eq_iff.mp hrun
  refine ⟨fun report ho => ?_, fun hcatalog haccepts hnever => ?_⟩
  · rw [(he.report ho).2.2.2, diagnostics_congr hmarker hsettings]
  · exact he.complete_or_collision (haccepts.of_answers ha)
      (missing?_eq_none_iff.mpr fun r _ => hcatalog _) (stops_of_never hnever)

/-- **When a template is missing.**  Let the sink accept the annotation's unit.

* The pass fails for want of a template just if there is none for some request, whether or not the
  request's unit is remembered, or the sink itself gives that failure.
* If there is none for some request, the pass reports the first shape whose template is lacking;
  which shape that is does not depend on how many requests need it, or in which order, or on the
  host's answers.  There is no other report of this sort.  The reports about candidates are kept.
  Only the annotation's unit was published, the memo is as it was, and the host was not asked.
* The reports kept are those of every complete pass of the same annotation and settings over the
  snapshot.  With all templates at hand, a sink that accepts all and a host that never asks to stop,
  a pass is complete unless an identity occurs twice. -/
theorem configuration_fault (g : Generator) (s : Snapshot) (sink : Sink (StateM σ)) (a : σ)
    (signal : Signal) (turn : Nat → Nat) (hsink : ((sink g.definition).run a).1 = .ok ()) :
    ∃ p b calls,
      (g.passWith s sink signal turn).run a = (p, b) ∧
      (g.passWith s sink.recorded signal turn).run (a, []) = (p, b, calls) ∧
      ((∃ d faults, p.outcome = .error (.missingTemplate d faults)) ↔
        (∃ r ∈ g.requests s, g.catalog.get? r.resolution.variant = none) ∨
          ∃ d faults u, (u, .error (.missingTemplate d faults)) ∈ calls) ∧
      ((∃ r ∈ g.requests s, g.catalog.get? r.resolution.variant = none) →
        ∃ shape, g.LacksFirst s shape ∧
          p.outcome = .error (.missingTemplate (.missingTemplate ⟨g.contract, shape⟩)
            (g.diagnostics s)) ∧
          (Diagnostic.missingTemplate ⟨g.contract, shape⟩ :: g.diagnostics s).filter
            (fun d => d.id == Code.missingTemplate.id) =
              [.missingTemplate ⟨g.contract, shape⟩] ∧
          calls = [(g.definition, .ok ())] ∧ p.generator.memo = g.memo ∧ p.signal = signal) ∧
      ∀ {τ : Type} (h : Generator) (sink' : Sink (StateM τ)) (a' b' : τ) (signal' : Signal)
        (turn' : Nat → Nat) (q : Pass),
        h.marker = g.marker → h.settings = g.settings →
        (h.passWith s sink' signal' turn').run a' = (q, b') →
        (∀ report, q.outcome = .ok report → report.diagnostics = g.diagnostics s) ∧
        ((∀ v, (h.catalog.get? v).isSome) → sink'.Accepts → (∀ i, signal'.answer i = false) →
          (∃ report, q.outcome = .ok report) ∨
            ∃ identity, q.outcome = .error (.collision identity)) := by
  cases hm : g.missing? (g.requests s) with
  | some v =>
      obtain ⟨c, hc⟩ : ∃ c, (sink g.definition).run a = (.ok (), c) := ⟨_, Prod.ext hsink rfl⟩
      have he : g.Ends s signal turn _ _ := .of_missing hm
      have ha : sink.Answers a [(g.definition, .ok ())] c := .one hc
      obtain ⟨hcontract, hfirst⟩ := missing?_eq_some_iff.mp hm
      have hv : v = ⟨g.contract, v.shape⟩ := by rw [← hcontract]
      refine ⟨_, c, _, passWith_of_ends he ha, passWith_recorded_eq_iff.mpr ⟨he, ha⟩, ?_,
        fun _ => ⟨v.shape, hfirst, ?_, filter_missingTemplate g s _, rfl, rfl, rfl⟩,
        fun _ _ _ _ _ _ _ => diagnostics_of_run⟩
      · obtain ⟨r, hr, -, hn⟩ := hfirst.lacks
        exact iff_of_true ⟨_, _, rfl⟩ (.inl ⟨r, hr, hn⟩)
      · rw [← hv]
  | none =>
      obtain ⟨calls, p, b, he, ha⟩ := g.exists_ends s sink signal turn a
      have hnone : ¬∃ r ∈ g.requests s, g.catalog.get? r.resolution.variant = none := by
        rintro ⟨r, hr, hn⟩
        have hr := missing?_eq_none_iff.mp hm r hr
        rw [hn] at hr
        cases hr
      refine ⟨p, b, calls, passWith_of_ends he ha, passWith_recorded_eq_iff.mpr ⟨he, ha⟩, ?_,
        fun hn => absurd hn hnone, fun _ _ _ _ _ _ _ => diagnostics_of_run⟩
      have hunits : ∀ d faults,
          (g.batch s signal turn).units ≠ .error (.missingTemplate d faults) := by
        simp [batch_missing_iff, hm]
      rw [or_iff_right hnone]
      simp only [he.error_iff, hunits, and_false, or_false]

/-- The theorem at a class whose template is there, one whose template is missing, one that is not
partial, and a host that asks to stop at once. -/
theorem configuration_fault_carts :
    let g : Generator := { ofRows with
      catalog := ⟨fun v => if v.shape = .autoBacked then some (.row v) else none⟩ }
    let sink : Sink (StateM Nat) := fun _ n => (.ok (), n + 1)
    let int := Attribute.listOf "AutoCollection" "int"
    let field : Attribute := ⟨"GenerateList", "AutoCollection", ["collectionType", "backingField"],
      [.type "int", .string "items"]⟩
    let closed : Declaration := { Declaration.cart (some "Shop") [int] with isPartial := false }
    let s : Snapshot := { declarations :=
      [.cart (some "Shop") [int], closed, .cart (some "Depot") [field]] }
    let x := (g.passWith s sink (.flag true) id).run 0
    ((sink g.definition).run 0).1 = .ok () ∧
      x.1.outcome = .error (.missingTemplate (.missingTemplate ⟨.list, .userBacked⟩)
        [(Candidate.ofDeclaration closed).notPartial .list]) := by
  intro g sink int field closed s x
  have hsink : ((sink g.definition).run 0).1 = .ok () := rfl
  obtain ⟨p, b, calls, hrun, -, -, hmissing, -⟩ :=
    configuration_fault g s sink 0 (.flag true) id hsink
  have hneeded : ∃ r ∈ g.requests s, g.catalog.get? r.resolution.variant = none := by
    decide +kernel
  obtain ⟨shape, hfirst, houtcome, -⟩ := hmissing hneeded
  have hshape : shape = .userBacked := by
    obtain ⟨r, -, hv, hn⟩ := hfirst.lacks
    cases shape with
    | userBacked => rfl
    | autoBacked =>
        rw [hv] at hn
        cases hn
  have hx : x = (p, b) := hrun
  have hdiagnostics : g.diagnostics s = [(Candidate.ofDeclaration closed).notPartial .list] := by
    decide +kernel
  rw [hx, houtcome, hshape, hdiagnostics]
  exact ⟨hsink, rfl⟩

end Generator

end Companion
