import Companion.Proofs.Memo.Soundness
import Mathlib.Data.List.Basic

/-!
# Memo — remembering does not show

A class outside the global namespace has one unit only, whichever pass renders it.  So if no class
that can be served is global, it does not show what a generator remembers: its pass is the pass of a
generator that was just made, but for the counts in the report.

* `Generator.Sound.map_unit_prepared`: the units of such a snapshot, without tokens and memo.
* `Generator.Ends.replace`: a pass ends in the same way, with the same calls, under any tokens and
  any memo that prepare the same units.
* `Generator.Reached.transparent`: after every history, the memo is sound and does not show.
-/

namespace Companion

/-- The report without its counts. -/
def Report.uncounted (r : Report) : Report := { r with cache := {} }

namespace Generator

variable {g : Generator} {s : Snapshot} {signal : Signal} {turn : Nat → Nat} {calls : Calls}
  {p : Pass} {drawn : List String}

/-! ### The units of a snapshot without global classes -/

/-- No class that can be served is global. -/
def Local (g : Generator) (s : Snapshot) : Prop :=
  ∀ r ∈ g.requests s, r.candidate.isGlobal = false

theorem Gives.unitOf? {k : MemoKey} {u : SourceUnit} (h : g.Gives drawn k u)
    (hk : k.namespace ≠ "") : g.unitOf? k = some u := by
  obtain ⟨-, scope, t, hs, ht, rfl⟩ := h
  obtain rfl : scope = k.namespace := (if_neg hk).mp hs
  rw [Generator.unitOf?, ht, Option.map_some]

/-- A unit is the one that the templates give, whether it is reused or rendered. -/
theorem Sound.map_unit_localReady? (h : g.Sound drawn) {k : MemoKey} (hk : k.namespace ≠ "") :
    (g.localReady? k).map (·.unit) = g.unitOf? k := by
  cases hu : g.memo.get? k with
  | some u =>
      rw [localReady?, hu, (h k u hu).unitOf? hk]
      rfl
  | none =>
      rw [localReady?, hu, Option.map_map]
      exact Option.map_id'

theorem Sound.map_unit_prepared (h : g.Sound drawn) (hl : g.Local s) :
    (g.prepared s).map (·.unit) = (g.requests s).filterMap fun r => g.unitOf? r.key := by
  rw [prepared, List.map_filterMap, ← plans_map_fst, List.filterMap_map]
  refine List.filterMap_congr fun x hx => ?_
  have hr := mem_requests_of_mem_plans hx
  have hg := hl x.1 hr
  rw [readyOf?_of_local hx hg]
  refine h.map_unit_localReady? fun hn => ?_
  rw [(namespace_eq_empty_iff hr).mp hn] at hg
  cases hg

/-! ### Other tokens, another memo -/

section Replace

variable {tokens : TokenSource} {memo : Memo}

theorem map_identity_eq {l l' : List Ready} (h : l'.map Ready.unit = l.map Ready.unit) :
    l'.map (·.unit.identity) = l.map (·.unit.identity) := by
  have hi := congrArg (List.map SourceUnit.identity) h
  rw [List.map_map, List.map_map] at hi
  exact hi

/-- If the units are the same, so is the outcome of preparing them. -/
theorem batch_replace (signal : Signal) (turn : Nat → Nat)
    (hu : ({ g with tokens, memo }.prepared s).map Ready.unit = (g.prepared s).map Ready.unit) :
    ({ g with tokens, memo }.batch s signal turn).units.map (List.map Ready.unit) =
        (g.batch s signal turn).units.map (List.map Ready.unit) ∧
      ({ g with tokens, memo }.batch s signal turn).signal = (g.batch s signal turn).signal := by
  have hi : { g with tokens, memo }.collision? s = g.collision? s :=
    congrArg (repeated? [g.definition.identity]) (map_identity_eq hu)
  have hs : { g with tokens, memo }.stops s signal turn = g.stops s signal turn := rfl
  cases hm : g.missing? (g.requests s) with
  | some v =>
      rw [batch_of_missing hm, batch_of_missing (g := { g with tokens, memo }) hm]
      exact ⟨rfl, rfl⟩
  | none =>
      rw [batch_of_complete hm, batch_of_complete (g := { g with tokens, memo }) hm, hi, hs]
      refine ⟨?_, rfl⟩
      cases g.stops s signal turn with
      | true => rfl
      | false =>
          cases g.collision? s with
          | some identity => rfl
          | none => exact congrArg Except.ok hu

theorem batch_replace_error {failure : Failure}
    (hu : ({ g with tokens, memo }.prepared s).map Ready.unit = (g.prepared s).map Ready.unit)
    (h : (g.batch s signal turn).units = .error failure) :
    ({ g with tokens, memo }.batch s signal turn).units = .error failure := by
  have hunits := (batch_replace signal turn hu).1
  rw [h] at hunits
  cases hb : ({ g with tokens, memo }.batch s signal turn).units with
  | ok ready => rw [hb] at hunits; cases hunits
  | error failure' => rw [hb] at hunits; cases hunits; rfl

theorem batch_replace_ok {ready : List Ready}
    (hu : ({ g with tokens, memo }.prepared s).map Ready.unit = (g.prepared s).map Ready.unit)
    (h : (g.batch s signal turn).units = .ok ready) :
    ∃ ready', ({ g with tokens, memo }.batch s signal turn).units = .ok ready' ∧
      ready'.map Ready.unit = ready.map Ready.unit := by
  have hunits := (batch_replace signal turn hu).1
  rw [h] at hunits
  cases hb : ({ g with tokens, memo }.batch s signal turn).units with
  | error failure' => rw [hb] at hunits; cases hunits
  | ok ready' =>
      rw [hb] at hunits
      exact ⟨ready', rfl, Except.ok.inj hunits⟩

/-- If the units are the same, a pass can end in the same way with the same calls. -/
theorem Ends.replace (h : g.Ends s signal turn calls p)
    (hu : ({ g with tokens, memo }.prepared s).map Ready.unit = (g.prepared s).map Ready.unit) :
    ∃ q, { g with tokens, memo }.Ends s signal turn calls q ∧ q.signal = p.signal ∧
      q.outcome.map Report.uncounted = p.outcome.map Report.uncounted := by
  have hsignal := (batch_replace signal turn hu).2
  cases h with
  | undeclared failure => exact ⟨_, .undeclared failure, rfl, rfl⟩
  | unprepared hb => exact ⟨_, .unprepared (batch_replace_error hu hb), hsignal, rfl⟩
  | @refused done rest r failure hb =>
      obtain ⟨ready', hb', hr⟩ := batch_replace_ok hu hb
      rw [List.map_append, List.map_cons] at hr
      obtain ⟨done', tail, rfl, hd, ht⟩ := List.map_eq_append_iff.mp hr
      obtain ⟨r', rest', rfl, hr, -⟩ := List.map_eq_cons_iff.mp ht
      have he := Ends.refused failure hb'
      rw [hd, hr] at he
      exact ⟨_, he, hsignal, rfl⟩
  | @completed ready hb =>
      obtain ⟨ready', hb', hr⟩ := batch_replace_ok hu hb
      have he := Ends.completed hb'
      rw [hr] at he
      refine ⟨_, he, hsignal, ?_⟩
      simp only [complete, Except.map, Report.uncounted, map_identity_eq hr]
      rfl

end Replace

/-! ### A generator with a history and one without -/

/-- A generator that was just made, with the same annotation, settings and templates. -/
def anew (g : Generator) (random : Nat → String) : Generator :=
  create g.marker g.settings g.catalog random

/-- **The memo is sound and does not show.**  After every history each unit that is remembered is
what the templates at hand give for its key, in the key's namespace or, for a global class, in one
made from a token that was drawn.  And a pass over a snapshot in which no class that can be served
is global is, for every sink, the pass of a generator that was just made: the sink is offered the
same units in the same order and is left in the same state, and the pass fails for the same reason
or reports the same, but for the counts. -/
theorem Reached.transparent (h : Reached g drawn) :
    g.Sound drawn ∧
      ∀ (random : Nat → String) (σ : Type) (sink : Sink (StateM σ)) (a : σ) (s : Snapshot)
        (signal : Signal) (turn : Nat → Nat), g.Local s →
        ∃ p q b calls,
          (g.passWith s sink signal turn).run a = (p, b) ∧
          (g.passWith s sink.recorded signal turn).run (a, []) = (p, b, calls) ∧
          ((g.anew random).passWith s sink signal turn).run a = (q, b) ∧
          ((g.anew random).passWith s sink.recorded signal turn).run (a, []) = (q, b, calls) ∧
          q.signal = p.signal ∧
          q.outcome.map Report.uncounted = p.outcome.map Report.uncounted := by
  refine ⟨h.sound, fun random σ sink a s signal turn hl => ?_⟩
  -- both generators prepare what the templates alone give
  have hfresh : (g.anew random).Sound [] := sound_of_memo_eq rfl
  have hu : ((g.anew random).prepared s).map Ready.unit = (g.prepared s).map Ready.unit :=
    (hfresh.map_unit_prepared hl).trans (h.sound.map_unit_prepared hl).symm
  obtain ⟨calls, p, b, he, ha⟩ := g.exists_ends s sink signal turn a
  obtain ⟨q, he', hsignal, houtcome⟩ := he.replace hu
  exact ⟨p, q, b, calls, passWith_of_ends he ha, passWith_recorded_eq_iff.mpr ⟨he, ha⟩,
    passWith_of_ends he' ha, passWith_recorded_eq_iff.mpr ⟨he', ha⟩, hsignal, houtcome⟩

/-- The theorem after one pass over a snapshot with a global class and another. -/
theorem transparent_carts :
    let int := Attribute.listOf "AutoCollection" "int"
    let s : Snapshot := { declarations := [.cart none [int], .cart (some "Shop") [int]] }
    let t : Snapshot := { declarations := [.cart (some "Shop") [int], .cart (some "Depot") [int]] }
    let h := ((ofRows.passWith s UnitStore.sink .never id).run .empty).1.generator
    h.memo.size = 2 ∧ h.Local t ∧ h.Sound ([] ++ ofRows.tokens.drawnUntil h.tokens) ∧
      ∃ p q b calls,
        (h.passWith t UnitStore.sink .never id).run .empty = (p, b) ∧
        (h.passWith t UnitStore.sink.recorded .never id).run (.empty, []) = (p, b, calls) ∧
        ((h.anew (Text.hex 32)).passWith t UnitStore.sink .never id).run .empty = (q, b) ∧
        ((h.anew (Text.hex 32)).passWith t UnitStore.sink.recorded .never id).run (.empty, []) =
          (q, b, calls) ∧
        q.signal = p.signal ∧
        q.outcome.map Report.uncounted = p.outcome.map Report.uncounted := by
  intro int s t h
  have hrun : (ofRows.passWith s UnitStore.sink .never id).run .empty =
      (((ofRows.passWith s UnitStore.sink .never id).run .empty).1, _) := rfl
  have hreached : Reached h ([] ++ ofRows.tokens.drawnUntil h.tokens) :=
    .pass (.create _ _ _ _) hrun
  have hlocal : h.Local t := by
    unfold Local
    decide +kernel
  obtain ⟨hsound, htransparent⟩ := Reached.transparent hreached
  exact ⟨by decide +kernel, hlocal, hsound,
    htransparent (Text.hex 32) _ UnitStore.sink .empty t .never id hlocal⟩

end Generator

end Companion
