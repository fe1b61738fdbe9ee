import Companion.Proofs.Passes.Publication

/-!
# Passes — when the host asks to stop

Rendering a unit reads nothing that rendering another one writes, so the units can be rendered in
any order, and of a parallel run only the order counts in which the host is asked.

* `Generator.renderStep`: one unit is rendered, unless the host asks to stop.
* `Generator.renderAll_eq`: the units rendered in some order come to the places where a pass looks
  for them, if each unit has the turn that it has in that order.
* `Generator.stops_turnIn_iff`: whether the host asks to stop does not depend on the order.
* `Generator.cancellation`: a pass is cancelled just if one of the answers asked to stop, and
  everything else is the same for every order.
-/

namespace Companion

namespace Generator

variable {σ : Type} {g : Generator} {s : Snapshot} {sink : Sink (StateM σ)} {signal : Signal}
  {turn turn' : Nat → Nat} {calls : Calls} {p : Pass} {order order' : List Nat} {i n : Nat}

/-! ### Units in some order -/

/-- The turn of the `i`-th unit, if the units are rendered in the order. -/
def turnIn (order : List Nat) (i : Nat) : Nat := order.idxOf i

/-- Units that are being rendered: what stands in each place, and the host's answers left. -/
@[ext]
structure Bench where
  places : List (Option Ready)
  signal : Signal

/-- The host was asked once, and no unit is rendered yet. -/
def bench (g : Generator) (s : Snapshot) (signal : Signal) : Bench :=
  ⟨List.replicate (g.requests s).length none, { signal with asked := signal.asked + 1 }⟩

/-- The host is asked; unless it asks to stop, the `i`-th unit is rendered and put in its place. -/
def renderStep (g : Generator) (s : Snapshot) (w : Bench) (i : Nat) : Bench where
  places := w.places.set i
    (if w.signal.answer w.signal.asked then none else (g.plans s)[i]?.bind g.readyOf?)
  signal := { w.signal with asked := w.signal.asked + 1 }

/-- The units are rendered in the order. -/
def renderAll (g : Generator) (s : Snapshot) (w : Bench) (order : List Nat) : Bench :=
  order.foldl (g.renderStep s) w

theorem renderAll_cons (g : Generator) (s : Snapshot) (w : Bench) (i : Nat) (order : List Nat) :
    g.renderAll s w (i :: order) = g.renderAll s (g.renderStep s w i) order := rfl

theorem renderAll_signal (g : Generator) (s : Snapshot) (w : Bench) (order : List Nat) :
    (g.renderAll s w order).signal = { w.signal with asked := w.signal.asked + order.length } := by
  induction order generalizing w with
  | nil => rfl
  | cons j order ih =>
      rw [renderAll_cons, ih, renderStep, List.length_cons, Nat.add_assoc, Nat.add_comm 1]

theorem length_places_renderAll (g : Generator) (s : Snapshot) (w : Bench) (order : List Nat) :
    (g.renderAll s w order).places.length = w.places.length := by
  induction order generalizing w with
  | nil => rfl
  | cons j order ih => rw [renderAll_cons, ih, renderStep, List.length_set]

/-- A place is filled when its unit has its turn, and by no other unit. -/
theorem getElem?_renderAll {w : Bench} (h : order.Nodup) (hi : i < w.places.length) :
    (g.renderAll s w order).places[i]? =
      if i ∈ order then
        some (if w.signal.answer (w.signal.asked + turnIn order i) then none
          else (g.plans s)[i]?.bind g.readyOf?)
      else w.places[i]? := by
  induction order generalizing w with
  | nil => rfl
  | cons j order ih =>
      obtain ⟨hj, hn⟩ := List.nodup_cons.mp h
      have hlength : i < (g.renderStep s w j).places.length := by
        rwa [renderStep, List.length_set]
      rw [renderAll_cons, ih hn hlength]
      by_cases hij : i = j
      · -- the place is filled in this step, and not later
        subst hij
        simp [renderStep, hj, hi, turnIn]
      · have hturn : turnIn (j :: order) i = turnIn order i + 1 := by
          rw [turnIn, List.idxOf_cons_ne _ (Ne.symm hij), turnIn]
        have hplace : (g.renderStep s w j).places[i]? = w.places[i]? :=
          List.getElem?_set_ne (Ne.symm hij)
        rw [hplace, hturn]
        simp only [List.mem_cons, hij, false_or, renderStep, Nat.add_assoc, Nat.add_comm 1]

/-- The units that are rendered in some order come to the places where a pass looks for them. -/
theorem renderAll_eq (h : order.Perm (List.range (g.requests s).length)) :
    g.renderAll s (g.bench s signal) order =
      ⟨g.rendered s signal (turnIn order),
        { signal with asked := signal.asked + 1 + (g.requests s).length }⟩ := by
  have hlength : order.length = (g.requests s).length := by rw [h.length_eq, List.length_range]
  refine Bench.ext ?_ (by rw [renderAll_signal, hlength]; rfl)
  have hplaces : (g.bench s signal).places.length = (g.requests s).length := List.length_replicate
  refine List.ext_getElem? fun i => ?_
  by_cases hi : i < (g.requests s).length
  · have hmem : i ∈ order := h.mem_iff.mpr (List.mem_range.mpr hi)
    have hplan : i < (g.plans s).length := by rwa [length_plans]
    rw [getElem?_renderAll (h.nodup_iff.mpr List.nodup_range) (hplaces ▸ hi), if_pos hmem,
      rendered, List.getElem?_mapIdx, List.getElem?_eq_getElem hplan]
    rfl
  · rw [List.getElem?_eq_none (by rw [length_places_renderAll]; omega),
      List.getElem?_eq_none (by rw [rendered, List.length_mapIdx, length_plans]; omega)]

/-! ### The host's answers -/

/-- In an order in which each unit has one turn, each turn is that of one unit. -/
theorem exists_turnIn_iff {P : Nat → Prop} (h : order.Perm (List.range n)) :
    (∃ i < n, P (turnIn order i)) ↔ ∃ j < n, P j := by
  have hlength : order.length = n := by rw [h.length_eq, List.length_range]
  constructor
  · rintro ⟨i, hi, hP⟩
    have hmem : i ∈ order := h.mem_iff.mpr (List.mem_range.mpr hi)
    exact ⟨_, hlength ▸ List.idxOf_lt_length_of_mem hmem, hP⟩
  · rintro ⟨j, hj, hP⟩
    have hj' : j < order.length := hlength ▸ hj
    refine ⟨order[j], List.mem_range.mp (h.mem_iff.mp (List.getElem_mem hj')), ?_⟩
    rwa [turnIn, (h.nodup_iff.mpr List.nodup_range).idxOf_getElem j hj']

/-- The host asks to stop just if one of its answers in the pass says so. -/
theorem stops_turnIn_iff (h : order.Perm (List.range (g.requests s).length)) :
    g.stops s signal (turnIn order) = true ↔
      ∃ i, signal.asked ≤ i ∧ i < (g.signalAfter s signal).asked ∧ signal.answer i = true := by
  cases ha : signal.answer signal.asked with
  | true =>
      simp only [stops, signalAfter, ha, Bool.true_or, if_true, true_iff]
      exact ⟨signal.asked, Nat.le_refl _, Nat.lt_succ_self _, ha⟩
  | false =>
      simp only [stops, signalAfter, ha, Bool.false_or, Bool.false_eq_true, if_false,
        Bool.or_eq_true, List.any_eq_true, List.mem_range]
      rw [exists_turnIn_iff (P := fun j => signal.answer (signal.asked + 1 + j) = true) h]
      constructor
      · rintro (⟨j, hj, hs⟩ | hs)
        · exact ⟨_, by omega, by omega, hs⟩
        · exact ⟨_, by omega, by omega, hs⟩
      · rintro ⟨i, hi, hn, hs⟩
        -- the first answer is known, the last one comes after those with the units
        rcases Nat.eq_or_lt_of_le hi with rfl | hi
        · rw [ha] at hs
          cases hs
        · obtain ⟨j, rfl⟩ := Nat.exists_eq_add_of_le hi
          rcases Nat.lt_or_ge j (g.requests s).length with hj | hj
          · exact .inl ⟨j, hj, hs⟩
          · obtain rfl : j = (g.requests s).length := by omega
            exact .inr hs

/-- The order in which the units are rendered does not change what a pass prepares. -/
theorem batch_turnIn (h : order.Perm (List.range (g.requests s).length))
    (h' : order'.Perm (List.range (g.requests s).length)) :
    g.batch s signal (turnIn order') = g.batch s signal (turnIn order) := by
  have hstops : g.stops s signal (turnIn order') = g.stops s signal (turnIn order) :=
    Bool.eq_iff_iff.mpr ((stops_turnIn_iff h').trans (stops_turnIn_iff h).symm)
  cases hm : g.missing? (g.requests s) with
  | some v => rw [batch_of_missing hm, batch_of_missing hm]
  | none => rw [batch_of_complete hm, batch_of_complete hm, hstops]

theorem passWith_of_batch_eq {m : Type → Type} [Monad m] (sink : Sink m)
    (h : g.batch s signal turn' = g.batch s signal turn) :
    g.passWith s sink signal turn' = g.passWith s sink signal turn := by
  simp only [passWith, h]

/-- **When the host asks to stop.**  Let the sink accept every unit and all needed templates be at
hand.  Whatever the host answers to each question, and in whatever order the units are rendered:

* A pass is cancelled just if one of the questions that it put was answered by asking to stop.  Then
  only the annotation's unit was published, and the memo is as it was.
* If it is not cancelled, the units that are rendered one after the other in that order stand in the
  host's order, one for each request.  They are all published, or an identity occurs twice, and the
  pass fails for it and has published the annotation's unit only.
* The pass is the same for every order.
* There is a template for each unit that is rendered, and a host that never asks to stop never has a
  pass cancelled. -/
theorem cancellation (g : Generator) (s : Snapshot) (sink : Sink (StateM σ)) (a : σ)
    (signal : Signal) (hsink : sink.Accepts)
    (htemplates : ∀ r ∈ g.requests s, (g.catalog.get? r.resolution.variant).isSome)
    (horder : order.Perm (List.range (g.requests s).length)) :
    ∃ p b calls,
      (g.passWith s sink signal (turnIn order)).run a = (p, b) ∧
      (g.passWith s sink.recorded signal (turnIn order)).run (a, []) = (p, b, calls) ∧
      (p.outcome = .error .cancelled ↔
        ∃ i, signal.asked ≤ i ∧ i < p.signal.asked ∧ signal.answer i = true) ∧
      (p.outcome = .error .cancelled →
        calls = [(g.definition, .ok ())] ∧ p.generator.memo = g.memo) ∧
      (p.outcome ≠ .error .cancelled →
        (g.renderAll s (g.bench s signal) order).places = (g.prepared s).map some ∧
        (g.prepared s).map (·.key) = (g.requests s).map (·.key) ∧
        (g.collision? s = none →
          (∃ report, p.outcome = .ok report) ∧ calls = Calls.accepted (g.announced s)) ∧
        ∀ identity, g.collision? s = some identity →
          p.outcome = .error (.collision identity) ∧ calls = [(g.definition, .ok ())]) ∧
      (∀ order' : List Nat, order'.Perm (List.range (g.requests s).length) →
        (g.passWith s sink signal (turnIn order')).run a = (p, b) ∧
        (g.passWith s sink.recorded signal (turnIn order')).run (a, []) = (p, b, calls)) ∧
      (∀ x ∈ g.plans s, (g.readyOf? x).isSome) ∧
      ((∀ i, signal.answer i = false) → p.outcome ≠ .error .cancelled) := by
  have hm : g.missing? (g.requests s) = none := missing?_eq_none_iff.mpr htemplates
  obtain ⟨calls, p, b, he, ha⟩ := g.exists_ends s sink signal (turnIn order) a
  have hrun := passWith_of_ends he ha
  have hrecorded := passWith_recorded_eq_iff.mpr ⟨he, ha⟩
  have hc := hsink.of_answers ha
  obtain ⟨hsignal, hfails⟩ := he.of_accepted hc
  rw [batch_of_complete hm] at hsignal
  have hcancelled : p.outcome = .error .cancelled ↔ g.stops s signal (turnIn order) = true := by
    rw [hfails, batch_cancelled_iff]
    exact and_iff_right hm
  have hpolls : p.outcome = .error .cancelled ↔
      ∃ i, signal.asked ≤ i ∧ i < p.signal.asked ∧ signal.answer i = true := by
    rw [hcancelled, stops_turnIn_iff horder, hsignal]
  refine ⟨p, b, calls, hrun, hrecorded, hpolls, fun ho => ?_, fun hn => ?_, fun order' h' => ?_,
    fun x hx => readyOf?_isSome hm hx, fun hnever ho => ?_⟩
  · obtain ⟨hcalls, hmemo, -⟩ := he.of_error ho hc
    exact ⟨hcalls, hmemo⟩
  · have hstops : g.stops s signal (turnIn order) = false :=
      Bool.eq_false_iff.mpr fun hs => hn (hcancelled.mpr hs)
    obtain ⟨hcomplete, hcollision⟩ := he.of_go hc hm hstops
    refine ⟨?_, map_key_prepared hm, fun hi => ?_, fun identity hi => ?_⟩
    · rw [renderAll_eq horder, rendered_of_go hm fun i hi => answer_of_stops_eq_false hstops hi]
    · obtain ⟨report, ho⟩ := hcomplete hi
      exact ⟨⟨report, ho⟩, (he.of_ok ho).1⟩
    · exact ⟨hcollision identity hi, (he.of_error (hcollision identity hi) hc).1⟩
  · have hbatch : g.batch s signal (turnIn order') = g.batch s signal (turnIn order) :=
      batch_turnIn horder h'
    rw [passWith_of_batch_eq sink hbatch, passWith_of_batch_eq sink.recorded hbatch]
    exact ⟨hrun, hrecorded⟩
  · obtain ⟨i, -, -, hi⟩ := hpolls.mp ho
    rw [hnever i] at hi
    cases hi

/-- The theorem at two classes of which the second is rendered first, and a host that asks to stop
with the other one, and not afterwards. -/
theorem cancellation_carts :
    let sink : Sink (StateM Nat) := fun _ n => (.ok (), n + 1)
    let signal : Signal := ⟨fun i => i == 2, 0⟩
    let int := Attribute.listOf "AutoCollection" "int"
    let s : Snapshot := { declarations := [.cart (some "Shop") [int], .cart none [int]] }
    let x := (ofRows.passWith s sink signal (turnIn [1, 0])).run 0
    sink.Accepts ∧ (∀ r ∈ ofRows.requests s, (ofRows.catalog.get? r.resolution.variant).isSome) ∧
      [1, 0].Perm (List.range (ofRows.requests s).length) ∧
      x.1.signal.asked = 4 ∧ x.1.outcome = .error .cancelled ∧
      x.1.generator.memo = ofRows.memo := by
  intro sink signal int s x
  have hsink : sink.Accepts := fun _ _ => rfl
  have htemplates : ∀ r ∈ ofRows.requests s,
      (ofRows.catalog.get? r.resolution.variant).isSome := fun _ _ => rfl
  have horder : [1, 0].Perm (List.range (ofRows.requests s).length) := by decide +kernel
  have hasked : x.1.signal.asked = 4 := by decide +kernel
  obtain ⟨p, b, calls, hrun, -, hpolls, hcancelled, -⟩ :=
    cancellation ofRows s sink 0 signal hsink htemplates horder
  have hx : x = (p, b) := hrun
  rw [hx] at hasked ⊢
  have hlast : 2 < p.signal.asked := by
    change p.signal.asked = 4 at hasked
    omega
  have ho : p.outcome = .error .cancelled := hpolls.mpr ⟨2, by decide, hlast, rfl⟩
  exact ⟨hsink, htemplates, horder, hasked, ho, (hcancelled ho).2⟩

end Generator

end Companion
