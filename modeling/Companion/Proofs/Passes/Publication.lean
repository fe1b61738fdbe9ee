import Companion.Proofs.Passes.Endings
import Mathlib.Data.List.Basic

/-!
# Passes — what is published, and what is remembered of it

A pass offers the sink a list of units that is fixed before the first class's unit is offered
(`Generator.announced`): the annotation's, then those of the classes that can be served.

* `Generator.Ends.error_iff`: for which reasons a pass fails.
* `Generator.Ends.of_go`: how a pass ends that nothing hinders.
* `Generator.publication`: whatever the sink answers, what it is offered is a prefix of that list.
  It is the whole list if the pass is complete, and the annotation's unit alone if the pass fails by
  itself.  A refusal is the last call; the units accepted before it are remembered, and no other
  unit is forgotten.
-/

namespace Companion

/-! ### Calls -/

namespace Calls

variable {u v : SourceUnit} {failure failure' : Failure} {k : Nat}

theorem getElem?_accepted_ne (us : List SourceUnit) :
    (accepted us)[k]? ≠ some (u, .error failure) := by
  intro h
  obtain ⟨x, -, hx⟩ := List.mem_map.mp (List.mem_of_getElem? h)
  cases hx

/-- In calls of which only the last is refused, a refusal is the last. -/
theorem getElem?_accepted_append (us : List SourceUnit)
    (h : (accepted us ++ [(v, .error failure)])[k]? = some (u, .error failure')) :
    k = us.length ∧ failure' = failure := by
  rcases Nat.lt_trichotomy k us.length with hk | rfl | hk
  · rw [List.getElem?_append_left (by simpa [accepted] using hk)] at h
    exact absurd h (getElem?_accepted_ne us)
  · simp [accepted] at h
    exact ⟨rfl, h.2.symm⟩
  · have hn : (accepted us ++ [(v, Except.error failure)]).length ≤ k := by
      simp only [accepted, List.length_append, List.length_map, List.length_singleton]
      omega
    rw [List.getElem?_eq_none hn] at h
    cases h

end Calls

namespace Generator

variable {g : Generator} {s : Snapshot} {signal : Signal} {turn : Nat → Nat} {calls : Calls}
  {p : Pass} {failure : Failure} {u : SourceUnit} {k : Nat}

/-- What a pass publishes if nothing hinders it: the annotation's unit, then the units of the
classes that can be served, in the host's order. -/
def announced (g : Generator) (s : Snapshot) : List SourceUnit :=
  g.definition :: (g.prepared s).map (·.unit)

theorem key_of_readyOf? {x : Request × Plan} {r : Ready} (h : g.readyOf? x = some r) :
    r.key = x.1.key := by
  obtain ⟨q, plan⟩ := x
  cases plan with
  | reuse u => cases h; rfl
  | render scope =>
      obtain ⟨t, -, rfl⟩ := Option.map_eq_some_iff.mp h
      rfl

/-- If no template is missing, the units are those of the requests, in their order. -/
theorem map_key_prepared (h : g.missing? (g.requests s) = none) :
    (g.prepared s).map (·.key) = (g.requests s).map (·.key) := by
  have hk : ((g.prepared s).map some).map (Option.map (·.key)) =
      ((g.plans s).map Prod.fst).map fun r => some r.key := by
    rw [← map_readyOf? h, List.map_map, List.map_map]
    refine List.map_congr_left fun x hx => ?_
    obtain ⟨r, hr⟩ := Option.isSome_iff_exists.mp (readyOf?_isSome h hx)
    simp only [Function.comp_apply, hr, Option.map_some, key_of_readyOf? hr]
  rw [plans_map_fst] at hk
  refine (List.map_inj_right fun _ _ => Option.some.inj).mp ?_
  simpa [Function.comp_def] using hk

/-- The failures that a batch can end in. -/
theorem batch_error (h : (g.batch s signal turn).units = .error failure) :
    (∃ v, failure = .missingTemplate (.missingTemplate v) (g.diagnostics s)) ∨
      failure = .cancelled ∨ ∃ identity, failure = .collision identity := by
  cases hm : g.missing? (g.requests s) with
  | some v =>
      rw [batch_of_missing hm] at h
      cases h
      exact .inl ⟨v, rfl⟩
  | none =>
      rw [batch_of_complete hm] at h
      dsimp only at h
      split at h
      · cases h
        exact .inr (.inl rfl)
      · split at h
        · cases h
          exact .inr (.inr ⟨_, rfl⟩)
        · cases h

/-! ### The calls of an ending -/

theorem prepared_of_batch_ok {ready : List Ready}
    (h : (g.batch s signal turn).units = .ok ready) : g.prepared s = ready :=
  (batch_ok h).2.2.2.symm

theorem Ends.isPrefix (h : g.Ends s signal turn calls p) :
    calls.map Prod.fst <+: g.announced s := by
  have hd : [g.definition] <+: g.announced s := ⟨_, rfl⟩
  cases h with
  | undeclared failure => exact hd
  | unprepared hu => exact hd
  | @refused done rest r failure hu =>
      refine ⟨rest.map (·.unit), ?_⟩
      simp [announced, prepared_of_batch_ok hu]
  | completed hu => simp [announced, prepared_of_batch_ok hu]

/-- If a pass offers a class's unit or is complete, there is a unit for each request. -/
theorem Ends.map_key_prepared (h : g.Ends s signal turn calls p)
    (hp : 1 < calls.length ∨ ∃ report, p.outcome = .ok report) :
    (g.prepared s).map (·.key) = (g.requests s).map (·.key) := by
  cases h with
  | undeclared failure => simp at hp
  | unprepared hu => simp at hp
  | refused failure hu => exact Generator.map_key_prepared (batch_ok hu).1
  | completed hu => exact Generator.map_key_prepared (batch_ok hu).1

/-- A complete pass offered all units, under identities that differ. -/
theorem Ends.of_ok {report : Report} (h : g.Ends s signal turn calls p)
    (ho : p.outcome = .ok report) :
    calls = Calls.accepted (g.announced s) ∧ ((g.announced s).map (·.identity)).Nodup := by
  cases h with
  | undeclared failure => cases ho
  | unprepared hu => cases ho
  | refused failure hu => cases ho
  | completed hu =>
      obtain ⟨-, -, hc, rfl⟩ := batch_ok hu
      refine ⟨rfl, ?_⟩
      simpa [announced, Function.comp_def] using collision?_eq_none_iff.mp hc

/-- A complete pass is made of the units of all requests. -/
theorem Ends.eq_complete {report : Report} (he : g.Ends s signal turn calls p)
    (ho : p.outcome = .ok report) :
    p = { g with tokens := g.tokensAfter s }.complete s
      ⟨g.prepared s, g.memo.overlay (g.prepared s)⟩ (g.batch s signal turn).signal := by
  cases he with
  | undeclared failure => cases ho
  | unprepared hu => cases ho
  | refused failure hu => cases ho
  | completed hu =>
      obtain ⟨-, -, -, rfl⟩ := batch_ok hu
      rfl

/-- What a complete pass reports. -/
theorem Ends.report {report : Report} (h : g.Ends s signal turn calls p)
    (ho : p.outcome = .ok report) :
    g.missing? (g.requests s) = none ∧ p.generator.tokens = g.tokensAfter s ∧
      report.published = (g.prepared s).map (·.unit.identity) ∧
      report.diagnostics = g.diagnostics s := by
  cases h with
  | undeclared failure => cases ho
  | unprepared hu => cases ho
  | refused failure hu => cases ho
  | completed hu =>
      obtain ⟨hm, -, -, rfl⟩ := batch_ok hu
      cases ho
      exact ⟨hm, rfl, rfl, rfl⟩

/-- A pass that fails though nothing was refused offered the annotation's unit only. -/
theorem Ends.of_error (h : g.Ends s signal turn calls p) (ho : p.outcome = .error failure)
    (hc : ∀ call ∈ calls, call.2 = .ok ()) :
    calls = [(g.definition, .ok ())] ∧ p.generator.memo = g.memo ∧
      (g.batch s signal turn).units = .error failure := by
  cases h with
  | undeclared failure => cases hc _ List.mem_cons_self
  | unprepared hu =>
      cases ho
      exact ⟨rfl, rfl, hu⟩
  | @refused done rest r failure hu =>
      cases hc (r.unit, .error failure) (List.mem_append_right _ List.mem_cons_self)
  | completed hu => cases ho

/-- A refusal is the last call, and ends the pass. -/
theorem Ends.of_refusal (h : g.Ends s signal turn calls p)
    (hk : calls[k]? = some (u, .error failure)) :
    calls.length = k + 1 ∧ p.outcome = .error failure ∧
      p.generator.memo = g.memo.overlay ((g.prepared s).take (k - 1)) ∧
      (k = 0 → p.generator = g) := by
  cases h with
  | undeclared failure' =>
      obtain ⟨rfl, rfl⟩ := Calls.getElem?_accepted_append [] hk
      exact ⟨rfl, rfl, by simp, fun _ => rfl⟩
  | unprepared hu => exact absurd hk (Calls.getElem?_accepted_ne [g.definition])
  | @refused done rest r failure' hu =>
      obtain ⟨rfl, rfl⟩ := Calls.getElem?_accepted_append _ hk
      refine ⟨by simp [Calls.accepted], rfl, ?_, by simp⟩
      simp [prepared_of_batch_ok hu]
  | completed hu => exact absurd hk (Calls.getElem?_accepted_ne _)

/-- If the sink accepts all units, a pass fails for the reason for which there are no units. -/
theorem Ends.of_accepted (h : g.Ends s signal turn calls p)
    (hc : ∀ call ∈ calls, call.2 = .ok ()) :
    p.signal = (g.batch s signal turn).signal ∧
      ∀ failure, p.outcome = .error failure ↔ (g.batch s signal turn).units = .error failure := by
  cases h with
  | undeclared failure => cases hc _ List.mem_cons_self
  | unprepared hu => simp [hu]
  | @refused done rest r failure hu =>
      cases hc (r.unit, .error failure) (List.mem_append_right _ List.mem_cons_self)
  | completed hu => simp [hu, complete]

/-- If nothing else hinders a pass, it is a matter of the identities how it ends. -/
theorem Ends.of_go (h : g.Ends s signal turn calls p) (hc : ∀ call ∈ calls, call.2 = .ok ())
    (hm : g.missing? (g.requests s) = none) (hs : g.stops s signal turn = false) :
    (g.collision? s = none → ∃ report, p.outcome = .ok report) ∧
      ∀ identity, g.collision? s = some identity → p.outcome = .error (.collision identity) := by
  obtain ⟨-, hfails⟩ := h.of_accepted hc
  refine ⟨fun hcollision => ?_, fun identity hcollision =>
    (hfails _).mpr (batch_collision_iff.mpr ⟨hm, hs, hcollision⟩)⟩
  cases ho : p.outcome with
  | ok report => exact ⟨report, rfl⟩
  | error failure =>
      have hu := (hfails failure).mp ho
      rw [batch_of_complete hm, hs, hcollision] at hu
      cases hu

/-- A pass fails for the reason that the sink gives for a refusal, or, if it gives none, for the
one for which there are no units. -/
theorem Ends.error_iff (he : g.Ends s signal turn calls p) :
    p.outcome = .error failure ↔
      (∃ u, (u, .error failure) ∈ calls) ∨
        (∀ call ∈ calls, call.2 = .ok ()) ∧ (g.batch s signal turn).units = .error failure := by
  constructor
  · intro ho
    by_cases hc : ∀ call ∈ calls, call.2 = .ok ()
    · exact .inr ⟨hc, (he.of_error ho hc).2.2⟩
    · obtain ⟨⟨u, answer⟩, hmem, hanswer⟩ : ∃ call ∈ calls, call.2 ≠ .ok () := by
        simpa using hc
      cases answer with
      | ok _ => exact absurd rfl hanswer
      | error failure' =>
          obtain ⟨k, hk⟩ := List.mem_iff_getElem?.mp hmem
          have hfailure := (he.of_refusal hk).2.1
          rw [ho] at hfailure
          cases hfailure
          exact .inl ⟨u, hmem⟩
  · rintro (⟨u, hmem⟩ | ⟨hc, hu⟩)
    · obtain ⟨k, hk⟩ := List.mem_iff_getElem?.mp hmem
      exact (he.of_refusal hk).2.1
    · exact ((he.of_accepted hc).2 failure).mpr hu

/-- **What is published, whatever the sink answers.**  Recording the calls of a pass changes
nothing.  The units that the sink is offered are a prefix of the announced ones, and if there is a
class's unit among them or the pass is complete, there is one announced for each request.

* If the pass is complete, all announced units were offered and accepted, and their identities
  differ.
* If the pass fails though the sink refused nothing, then a template is missing, or the host asked
  to stop, or two identities are equal; only the annotation's unit was published, and the memo is as
  it was.
* If the sink refuses call number `k`, counted from zero, no call follows, the pass fails for the
  reason the sink gave, and the units accepted before it, without the annotation's, are remembered
  in addition.  If the annotation's unit is refused, the generator is as it was. -/
theorem publication {σ : Type} (g : Generator) (s : Snapshot) (sink : Sink (StateM σ)) (a : σ)
    (signal : Signal) (turn : Nat → Nat) :
    ∃ p b calls,
      (g.passWith s sink signal turn).run a = (p, b) ∧
      (g.passWith s sink.recorded signal turn).run (a, []) = (p, b, calls) ∧
      calls.map Prod.fst <+: g.announced s ∧
      ((1 < calls.length ∨ ∃ report, p.outcome = .ok report) →
        (g.prepared s).map (·.key) = (g.requests s).map (·.key)) ∧
      (∀ report, p.outcome = .ok report →
        calls = Calls.accepted (g.announced s) ∧
        ((g.announced s).map (·.identity)).Nodup) ∧
      (∀ failure, p.outcome = .error failure → (∀ call ∈ calls, call.2 = .ok ()) →
        ((∃ v, failure = .missingTemplate (.missingTemplate v) (g.diagnostics s)) ∨
          failure = .cancelled ∨ ∃ identity, failure = .collision identity) ∧
        calls = [(g.definition, .ok ())] ∧ p.generator.memo = g.memo) ∧
      (∀ k u failure, calls[k]? = some (u, .error failure) →
        calls.length = k + 1 ∧ p.outcome = .error failure ∧
        p.generator.memo = g.memo.overlay ((g.prepared s).take (k - 1)) ∧
        (k = 0 → p.generator = g)) := by
  obtain ⟨calls, p, b, he, ha⟩ := g.exists_ends s sink signal turn a
  refine ⟨p, b, calls, passWith_eq_iff.mpr ⟨calls, he, ha⟩,
    passWith_recorded_eq_iff.mpr ⟨he, ha⟩, he.isPrefix, he.map_key_prepared,
    fun _ ho => he.of_ok ho, fun failure ho hc => ?_, fun _ _ _ hk => he.of_refusal hk⟩
  obtain ⟨hcalls, hmemo, hu⟩ := he.of_error ho hc
  exact ⟨batch_error hu, hcalls, hmemo⟩

/-- The theorem at a sink that takes two units and refuses the third. -/
theorem publication_carts :
    let sink : Sink (StateM Nat) := fun u n =>
      (if n = 2 then .error (.refused u.identity "full") else .ok (), n + 1)
    let int := Attribute.listOf "AutoCollection" "int"
    let s : Snapshot := { declarations := [.cart (some "Shop") [int], .cart (some "Depot") [int]] }
    let x := (ofRows.passWith s sink .never id).run 0
    x.1.outcome = .error (.refused "Depot.Cart.g.cs" "full") ∧
      x.1.generator.memo = ofRows.memo.overlay ((ofRows.prepared s).take 1) := by
  intro sink int s x
  obtain ⟨p, b, calls, hrun, hrecorded, -, -, -, -, hrefused⟩ :=
    publication ofRows s sink 0 .never id
  have hcalls : calls = ((ofRows.passWith s sink.recorded .never id).run (0, [])).2.2 := by
    rw [hrecorded]
  have hlast : calls[2]? = some ((ofRows.announced s).getD 2 default,
      .error (.refused "Depot.Cart.g.cs" "full")) := by
    rw [hcalls]
    decide +kernel
  obtain ⟨-, houtcome, hmemo, -⟩ := hrefused _ _ _ hlast
  have hx : x = (p, b) := hrun
  rw [hx]
  exact ⟨houtcome, hmemo⟩

end Generator

end Companion
