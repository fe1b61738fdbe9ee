import Companion.Proofs.Passes.Plans

/-!
# Passes — what a pass prepares

A batch is a function of the generator, the snapshot and the host's answers.  Of the answers only
one thing counts: whether any of them asks to stop.

* `Generator.prepared`: the units of the requests that a generator would publish, each made ready
  from its plan.
* `Generator.reused_of_mem_prepared`: a unit that is remembered is reused, any other is rendered.
* `Generator.batch_of_missing`: a needed variant without a template ends the pass, and the host is
  not asked.
* `Generator.batch_of_complete`: if all needed templates are there, the batch fails if the host asks
  to stop (`Generator.stops`) or an identity occurs twice (`Generator.collision?`), and else it is
  `Generator.prepared`.
* `Generator.batch_ok`: what is known of a batch that did not fail.
-/

namespace Companion.Generator

variable {g : Generator} {s : Snapshot} {signal : Signal} {turn : Nat → Nat} {identity : String}

/-- The requests and their plans. -/
def plans (g : Generator) (s : Snapshot) : List (Request × Plan) :=
  (Request.planAll g.memo g.tokens (g.requests s)).1

/-- The tokens left when all units are planned. -/
def tokensAfter (g : Generator) (s : Snapshot) : TokenSource :=
  (Request.planAll g.memo g.tokens (g.requests s)).2

/-- The unit of a planned request; none if its template is missing. -/
def readyOf? (g : Generator) (x : Request × Plan) : Option Ready :=
  x.1.ready? g.catalog g.settings.identitySuffix x.2

/-- The units of the requests, in the host's order. -/
def prepared (g : Generator) (s : Snapshot) : List Ready := (g.plans s).filterMap g.readyOf?

/-- The first identity that occurs among those before it, the annotation's included. -/
def collision? (g : Generator) (s : Snapshot) : Option String :=
  repeated? [g.definition.identity] ((g.prepared s).map (·.unit.identity))

/-- Whether the host asks to stop at a question of the pass: the one before the first unit, those
that come with the units, or the one after the last. -/
def stops (g : Generator) (s : Snapshot) (signal : Signal) (turn : Nat → Nat) : Bool :=
  let n := (g.requests s).length
  signal.answer signal.asked ||
    (List.range n).any (fun i => signal.answer (signal.asked + 1 + turn i)) ||
    signal.answer (signal.asked + 1 + n)

/-- The host's answers left: if the first answer asks to stop, no other question is put. -/
def signalAfter (g : Generator) (s : Snapshot) (signal : Signal) : Signal :=
  { signal with
    asked := if signal.answer signal.asked then signal.asked + 1
      else signal.asked + 1 + (g.requests s).length + 1 }

/-! ### Plans and templates -/

theorem plans_map_fst (g : Generator) (s : Snapshot) : (g.plans s).map Prod.fst = g.requests s :=
  Request.planAll_map_fst _ _ _

theorem length_plans (g : Generator) (s : Snapshot) :
    (g.plans s).length = (g.requests s).length := by
  rw [← plans_map_fst, List.length_map]

theorem mem_requests_of_mem_plans {x : Request × Plan} (h : x ∈ g.plans s) :
    x.1 ∈ g.requests s := by
  rw [← plans_map_fst]
  exact List.mem_map_of_mem h

theorem missing?_eq_none_iff {rs : List Request} :
    g.missing? rs = none ↔ ∀ r ∈ rs, (g.catalog.get? r.resolution.variant).isSome := by
  simp only [missing?, List.find?_eq_none, Bool.and_eq_true, List.any_eq_true, beq_iff_eq,
    Option.isNone_iff_eq_none, not_and, forall_exists_index, and_imp]
  constructor
  · intro h r hr
    exact Option.isSome_iff_ne_none.mpr (h _ (Variant.mem_all _) r hr rfl)
  · rintro h _ - r hr rfl
    exact Option.isSome_iff_ne_none.mp (h r hr)

theorem readyOf?_isSome (h : g.missing? (g.requests s) = none) {x : Request × Plan}
    (hx : x ∈ g.plans s) : (g.readyOf? x).isSome := by
  obtain ⟨r, plan⟩ := x
  cases plan with
  | reuse u => rfl
  | render scope =>
      simpa [readyOf?, Request.ready?] using
        missing?_eq_none_iff.mp h r (mem_requests_of_mem_plans hx)

/-- If no template is missing, there is a unit for every request. -/
theorem map_readyOf? (h : g.missing? (g.requests s) = none) :
    (g.plans s).map g.readyOf? = (g.prepared s).map some := by
  suffices ∀ l : List (Request × Plan), (∀ x ∈ l, (g.readyOf? x).isSome) →
      l.map g.readyOf? = (l.filterMap g.readyOf?).map some from
    this _ fun x hx => readyOf?_isSome h hx
  intro l hl
  induction l with
  | nil => rfl
  | cons x l ih =>
      obtain ⟨y, hy⟩ := Option.isSome_iff_exists.mp (hl x List.mem_cons_self)
      rw [List.filterMap_cons_some hy, List.map_cons, List.map_cons, hy,
        ih fun z hz => hl z (List.mem_cons_of_mem _ hz)]

/-- A unit that a pass prepares is the one remembered under its key, if there is one, and else it is
rendered. -/
theorem reused_of_mem_prepared {r : Ready} (hr : r ∈ g.prepared s) :
    r.reused = true ∧ g.memo.get? r.key = some r.unit ∨
      r.reused = false ∧ g.memo.get? r.key = none := by
  obtain ⟨⟨q, plan⟩, hx, hr⟩ := List.mem_filterMap.mp hr
  cases Request.planned_of_mem_planAll hx with
  | reuse hu =>
      cases hr
      exact .inl ⟨rfl, hu⟩
  | own hn _ | global hn _ _ =>
      obtain ⟨t, -, rfl⟩ := Option.map_eq_some_iff.mp hr
      exact .inr ⟨rfl, hn⟩

/-! ### Repeated identities -/

theorem repeated?_eq_none_iff {seen is : List String} :
    repeated? seen is = none ↔ is.Nodup ∧ ∀ i ∈ is, i ∉ seen := by
  induction is generalizing seen with
  | nil => simp [repeated?]
  | cons i is ih =>
      by_cases hi : i ∈ seen
      · simp [repeated?, hi]
      · simp only [repeated?, List.contains_iff_mem, hi, if_false, ih, List.nodup_cons,
          List.mem_cons, not_or, forall_eq_or_imp, not_false_eq_true, true_and]
        constructor
        · rintro ⟨hn, hs⟩
          exact ⟨⟨fun h => (hs i h).1 rfl, hn⟩, fun j hj => (hs j hj).2⟩
        · rintro ⟨⟨hm, hn⟩, hs⟩
          exact ⟨hn, fun j hj => ⟨fun e => hm (e ▸ hj), hs j hj⟩⟩

theorem collision?_eq_none_iff :
    g.collision? s = none ↔
      (g.definition.identity :: (g.prepared s).map (·.unit.identity)).Nodup := by
  rw [collision?, repeated?_eq_none_iff, List.nodup_cons]
  constructor
  · rintro ⟨hn, hs⟩
    exact ⟨fun h => hs _ h (List.mem_singleton.mpr rfl), hn⟩
  · rintro ⟨hm, hn⟩
    exact ⟨hn, fun i hi h => hm (List.mem_singleton.mp h ▸ hi)⟩

/-! ### The batch -/

theorem mapM_id_map_some {α : Type} (l : List α) : (l.map some).mapM id = some l := by
  induction l with
  | nil => rfl
  | cons x l ih => simp [ih]

theorem mapM_id_of_none_mem {α : Type} {l : List (Option α)} (h : none ∈ l) :
    l.mapM id = none := by
  induction l with
  | nil => cases h
  | cons x l ih =>
      cases x with
      | none => simp
      | some x => simp [ih (by simpa using h)]

/-- The units that are rendered while the host answers: none at a question whose answer asks to
stop. -/
def rendered (g : Generator) (s : Snapshot) (signal : Signal) (turn : Nat → Nat) :
    List (Option Ready) :=
  (g.plans s).mapIdx fun i x =>
    if signal.answer (signal.asked + 1 + turn i) then none else g.readyOf? x

theorem batch_of_missing {v : Variant} (h : g.missing? (g.requests s) = some v) :
    g.batch s signal turn =
      ⟨.error (.missingTemplate (.missingTemplate v) (g.diagnostics s)), g.tokensAfter s,
        signal⟩ := by
  simp only [batch, h]
  rfl

theorem batch_of_stop (h : g.missing? (g.requests s) = none)
    (ha : signal.answer signal.asked = true) :
    g.batch s signal turn =
      ⟨.error .cancelled, g.tokensAfter s, { signal with asked := signal.asked + 1 }⟩ := by
  simp only [batch, h, ha, if_true]
  rfl

theorem batch_of_go (h : g.missing? (g.requests s) = none)
    (ha : signal.answer signal.asked = false) :
    g.batch s signal turn =
      ⟨match signal.answer (signal.asked + 1 + (g.requests s).length),
          (g.rendered s signal turn).mapM id with
        | false, some ready =>
          match repeated? [g.definition.identity] (ready.map (·.unit.identity)) with
          | some identity => .error (.collision identity)
          | none => .ok ready
        | _, _ => .error .cancelled,
        g.tokensAfter s,
        { signal with asked := signal.asked + 1 + (g.requests s).length + 1 }⟩ := by
  rw [← length_plans]
  simp only [batch, h, ha, Bool.false_eq_true, if_false]
  -- the list that `batch` writes out is `rendered`
  change (match signal.answer (signal.asked + 1 + (g.plans s).length),
    (g.rendered s signal turn).mapM id with
    | false, some ready => _
    | _, _ => _) = _
  cases signal.answer (signal.asked + 1 + (g.plans s).length) <;>
    cases (g.rendered s signal turn).mapM id with
    | none => rfl
    | some ready =>
        dsimp only
        cases repeated? [g.definition.identity] (ready.map (·.unit.identity)) <;> rfl

theorem mapM_rendered_of_stop {i : Nat} (hi : i < (g.requests s).length)
    (ha : signal.answer (signal.asked + 1 + turn i) = true) :
    (g.rendered s signal turn).mapM id = none := by
  refine mapM_id_of_none_mem (List.mem_mapIdx.mpr ⟨i, length_plans g s ▸ hi, ?_⟩)
  rw [if_pos ha]

/-- If no question that comes with a unit is answered by asking to stop, all units are rendered. -/
theorem rendered_of_go (h : g.missing? (g.requests s) = none)
    (ha : ∀ i < (g.requests s).length, signal.answer (signal.asked + 1 + turn i) = false) :
    g.rendered s signal turn = (g.prepared s).map some := by
  rw [← map_readyOf? h]
  refine List.ext_getElem (by simp [rendered]) fun i hi hi' => ?_
  have hn : i < (g.requests s).length := by
    rw [← length_plans]
    simpa using hi'
  simp [rendered, ha i hn]

/-- With all templates at hand, the host's answers count only by whether one of them asks to
stop. -/
theorem batch_of_complete (h : g.missing? (g.requests s) = none) :
    g.batch s signal turn =
      ⟨if g.stops s signal turn then .error .cancelled
        else match g.collision? s with
          | some identity => .error (.collision identity)
          | none => .ok (g.prepared s),
        g.tokensAfter s, g.signalAfter s signal⟩ := by
  cases ha : signal.answer signal.asked with
  | true => simp only [batch_of_stop h ha, stops, signalAfter, ha, Bool.true_or, if_true]
  | false =>
      simp only [batch_of_go h ha, stops, signalAfter, ha, Bool.false_or, Bool.false_eq_true,
        if_false]
      -- the units are rendered unless the host asks to stop with one of them
      by_cases hm : ∃ i < (g.requests s).length,
          signal.answer (signal.asked + 1 + turn i) = true
      · obtain ⟨i, hi, hs⟩ := hm
        have hany : (List.range (g.requests s).length).any
            (fun i => signal.answer (signal.asked + 1 + turn i)) = true :=
          List.any_eq_true.mpr ⟨i, List.mem_range.mpr hi, hs⟩
        simp only [mapM_rendered_of_stop hi hs, hany, Bool.true_or, if_true]
        cases signal.answer (signal.asked + 1 + (g.requests s).length) <;> rfl
      · have hgo : ∀ i < (g.requests s).length,
            signal.answer (signal.asked + 1 + turn i) = false :=
          fun i hi => Bool.eq_false_iff.mpr fun hs => hm ⟨i, hi, hs⟩
        have hany : (List.range (g.requests s).length).any
            (fun i => signal.answer (signal.asked + 1 + turn i)) = false :=
          List.any_eq_false.mpr fun i hi => by simp [hgo i (List.mem_range.mp hi)]
        simp only [rendered_of_go h hgo, mapM_id_map_some, hany, Bool.false_or, collision?]
        cases signal.answer (signal.asked + 1 + (g.requests s).length) <;> rfl

theorem answer_of_stops_eq_false (h : g.stops s signal turn = false) {i : Nat}
    (hi : i < (g.requests s).length) : signal.answer (signal.asked + 1 + turn i) = false := by
  simp only [stops, Bool.or_eq_false_iff, List.any_eq_false, List.mem_range] at h
  simpa using h.1.2 i hi

theorem batch_missing_iff {d : Diagnostic} {faults : List Diagnostic} :
    (g.batch s signal turn).units = .error (.missingTemplate d faults) ↔
      ∃ v, g.missing? (g.requests s) = some v ∧ d = .missingTemplate v ∧
        faults = g.diagnostics s := by
  cases hm : g.missing? (g.requests s) with
  | some v => simp [batch_of_missing hm, eq_comm]
  | none =>
      rw [batch_of_complete hm]
      cases g.stops s signal turn <;> cases g.collision? s <;> simp

theorem batch_cancelled_iff :
    (g.batch s signal turn).units = .error .cancelled ↔
      g.missing? (g.requests s) = none ∧ g.stops s signal turn = true := by
  cases hm : g.missing? (g.requests s) with
  | some v => simp [batch_of_missing hm]
  | none =>
      rw [batch_of_complete hm]
      cases g.stops s signal turn <;> cases g.collision? s <;> simp

theorem batch_collision_iff :
    (g.batch s signal turn).units = .error (.collision identity) ↔
      g.missing? (g.requests s) = none ∧ g.stops s signal turn = false ∧
        g.collision? s = some identity := by
  cases hm : g.missing? (g.requests s) with
  | some v => simp [batch_of_missing hm]
  | none =>
      rw [batch_of_complete hm]
      cases g.stops s signal turn <;> cases g.collision? s <;> simp

theorem batch_tokens (g : Generator) (s : Snapshot) (signal : Signal) (turn : Nat → Nat) :
    (g.batch s signal turn).tokens = g.tokensAfter s := by
  cases h : g.missing? (g.requests s) with
  | some v => rw [batch_of_missing h]
  | none => rw [batch_of_complete h]

/-- A batch that did not fail: all templates were there, the host did not ask to stop, and no
identity occurs twice. -/
theorem batch_ok {ready : List Ready} (h : (g.batch s signal turn).units = .ok ready) :
    g.missing? (g.requests s) = none ∧ g.stops s signal turn = false ∧
      g.collision? s = none ∧ ready = g.prepared s := by
  cases hm : g.missing? (g.requests s) with
  | some v => rw [batch_of_missing hm] at h; cases h
  | none =>
      rw [batch_of_complete hm] at h
      cases hs : g.stops s signal turn with
      | true => simp [hs] at h
      | false =>
          cases hc : g.collision? s with
          | some i => simp [hs, hc] at h
          | none =>
              simp only [hs, hc, Bool.false_eq_true, if_false] at h
              cases h
              exact ⟨rfl, rfl, rfl, rfl⟩

end Companion.Generator
