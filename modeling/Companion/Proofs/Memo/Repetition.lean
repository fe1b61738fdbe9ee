import Companion.Proofs.Memo.Soundness
import Companion.Proofs.Passes.Stores
import Mathlib.Data.List.Basic

/-!
# Memo — the same snapshot again

A pass that is complete remembers the units of its snapshot and no others.  The next pass over the
same snapshot reuses them: it finds a unit for every request, draws no token and renders nothing.

Two classes of one key have one remembered unit between them.  A pass that rendered both gave them
different namespaces, if they are global; the next pass finds the same identity twice and fails.

* `Generator.prepared_of_remembered`: the units of a pass that finds all of them in its memo.
* `Generator.repetition`: after a complete pass over a snapshot, the next one over it gives the same
  units if no two requests have the same key, and else it fails.
-/

namespace Companion

/-! ### Passes that find everything remembered -/

namespace Memo

/-- Nothing is forgotten if only the keys of units are retained that are all there is. -/
theorem retain_eq_self {m : Memo} {keep : List MemoKey} (h : ∀ k ∈ m.keys, k ∈ keep) :
    m.retain keep = m := by
  have hf : (m.entries.filter fun e => keep.contains e.1) = m.entries :=
    List.filter_eq_self.mpr fun e he =>
      List.contains_iff_mem.mpr (h e.1 (List.mem_map_of_mem he))
  rw [retain, hf]

end Memo

namespace Generator

variable {g : Generator} {s : Snapshot} {signal : Signal} {turn : Nat → Nat}

/-- If the unit of every request is remembered, they are all reused. -/
theorem prepared_of_remembered (h : ∀ r ∈ g.requests s, (g.memo.get? r.key).isSome) :
    g.prepared s = ((g.requests s).map (·.key)).filterMap fun k =>
      (g.memo.get? k).map fun u => ⟨k, u, true⟩ := by
  rw [prepared, ← plans_map_fst, List.map_map, List.filterMap_map]
  refine List.filterMap_congr fun x hx => ?_
  obtain ⟨r, plan⟩ := x
  have hr : (g.memo.get? r.key).isSome := h r (mem_requests_of_mem_plans hx)
  cases Request.planned_of_mem_planAll hx with
  | @reuse u hu =>
      rw [Function.comp_apply, Function.comp_apply, hu]
      rfl
  | own hn hg => rw [hn] at hr; cases hr
  | global hn hg hd => rw [hn] at hr; cases hr

theorem get?_of_mem_prepared (h : ∀ r ∈ g.requests s, (g.memo.get? r.key).isSome) {r : Ready}
    (hr : r ∈ g.prepared s) : g.memo.get? r.key = some r.unit := by
  rw [prepared_of_remembered h] at hr
  obtain ⟨k, -, hk⟩ := List.mem_filterMap.mp hr
  obtain ⟨u, hu, rfl⟩ := Option.map_eq_some_iff.mp hk
  exact hu

/-- In a pass without a collision, two requests have the same key only where the key does not
determine the unit. -/
theorem pairwise_key_of_collision?_eq_none {P : MemoKey → Prop}
    (hm : g.missing? (g.requests s) = none) (hc : g.collision? s = none)
    (h : ∀ q ∈ g.prepared s, ∀ r ∈ g.prepared s, q.key = r.key → ¬P q.key → q.unit = r.unit) :
    ((g.requests s).map (·.key)).Pairwise fun k j => k = j → P k := by
  rw [← map_key_prepared hm]
  have hn := (List.nodup_cons.mp (collision?_eq_none_iff.mp hc)).2
  refine List.pairwise_map.mpr ((List.pairwise_map.mp hn).imp_of_mem ?_)
  intro q r hq hr hi hk
  by_contra hP
  exact hi (congrArg SourceUnit.identity (h q hq r hr hk hP))

/-- Of two requests with one key, a remembered unit is prepared twice. -/
theorem nodup_key_of_remembered (h : ∀ r ∈ g.requests s, (g.memo.get? r.key).isSome)
    (hm : g.missing? (g.requests s) = none) (hc : g.collision? s = none) :
    ((g.requests s).map (·.key)).Nodup := by
  refine pairwise_key_of_collision?_eq_none (P := fun _ => False) hm hc ?_
  intro q hq r hr hk _
  have hu := get?_of_mem_prepared h hr
  rw [← hk, get?_of_mem_prepared h hq] at hu
  exact Option.some.inj hu

theorem localReady?_of_mem_prepared {r : Ready} (hr : r ∈ g.prepared s)
    (hn : r.key.namespace ≠ "") : g.localReady? r.key = some r := by
  obtain ⟨x, hx, hxr⟩ := List.mem_filterMap.mp hr
  rw [key_of_readyOf? hxr] at hn ⊢
  have hg : x.1.candidate.isGlobal = false := Bool.eq_false_iff.mpr fun hg =>
    hn ((namespace_eq_empty_iff (mem_requests_of_mem_plans hx)).mpr hg)
  rw [← readyOf?_of_local hx hg, hxr]

/-- In a pass without a collision only global classes can have the same key. -/
theorem namespace_eq_empty_of_key_eq (hm : g.missing? (g.requests s) = none)
    (hc : g.collision? s = none) :
    ((g.requests s).map (·.key)).Pairwise fun k j => k = j → k.namespace = "" := by
  refine pairwise_key_of_collision?_eq_none hm hc ?_
  intro q hq r hr hk hn
  -- off the global namespace what is ready depends on the key alone
  have hqr := localReady?_of_mem_prepared hr (hk ▸ hn)
  rw [← hk, localReady?_of_mem_prepared hq hn] at hqr
  rw [Option.some.inj hqr]

/-! ### After a complete pass -/

/-- The generator that a complete pass leaves. -/
def after (g : Generator) (s : Snapshot) : Generator :=
  { g with
    tokens := g.tokensAfter s
    memo := (g.memo.overlay (g.prepared s)).retain ((g.prepared s).map (·.key)) }

theorem isSome_get?_after (hm : g.missing? (g.requests s) = none) :
    ∀ r ∈ (g.after s).requests s, ((g.after s).memo.get? r.key).isSome := by
  intro r hr
  have hk : r.key ∈ (g.prepared s).map (·.key) := by
    rw [map_key_prepared hm]
    exact List.mem_map_of_mem hr
  rw [after, Memo.get?_retain, if_pos hk, Memo.isSome_get?_overlay]
  exact .inl hk

/-- If no two requests have the same key, the next pass prepares the same units, all reused. -/
theorem prepared_after (hm : g.missing? (g.requests s) = none)
    (hn : ((g.requests s).map (·.key)).Nodup) :
    (g.after s).prepared s = (g.prepared s).map fun r => { r with reused := true } := by
  rw [prepared_of_remembered (isSome_get?_after hm)]
  change ((g.requests s).map (·.key)).filterMap _ = _
  rw [← map_key_prepared hm] at hn ⊢
  rw [List.filterMap_map, ← List.filterMap_eq_map]
  refine List.filterMap_congr fun r hr => ?_
  have hk : r.key ∈ (g.prepared s).map (·.key) := List.mem_map_of_mem hr
  rw [Function.comp_apply, after, Memo.get?_retain, if_pos hk, Memo.get?_overlay_of_mem hn hr]
  rfl

theorem keys_overlay_after (hm : g.missing? (g.requests s) = none) :
    ∀ k ∈ ((g.after s).memo.overlay ((g.after s).prepared s)).keys,
      k ∈ ((g.after s).prepared s).map (·.key) := by
  intro k hk
  rcases Memo.isSome_get?_overlay.mp ((Memo.mem_keys_iff _ _).mp hk) with hk | hk
  · exact hk
  · rw [after, Memo.get?_retain] at hk
    by_cases hmem : k ∈ (g.prepared s).map (·.key)
    · rw [map_key_prepared hm] at hmem
      rw [map_key_prepared (g := g.after s) hm]
      exact hmem
    · rw [if_neg hmem] at hk
      cases hk

theorem map_identity_prepared_after (hm : g.missing? (g.requests s) = none)
    (hn : ((g.requests s).map (·.key)).Nodup) :
    ((g.after s).prepared s).map (·.unit.identity) = (g.prepared s).map (·.unit.identity) := by
  rw [prepared_after hm hn, List.map_map]
  rfl

theorem announced_after (hm : g.missing? (g.requests s) = none)
    (hn : ((g.requests s).map (·.key)).Nodup) : (g.after s).announced s = g.announced s := by
  rw [announced, prepared_after hm hn, List.map_map]
  rfl

/-- What is reported of a pass that reused all units and forgot none. -/
theorem outcome_complete_of_reused {tally : Tally} (hr : ∀ r ∈ tally.accepted, r.reused = true)
    (hk : ∀ k ∈ tally.memo.keys, k ∈ tally.accepted.map (·.key)) :
    (g.complete s tally signal).outcome = .ok
      { contract := g.contract
        definition := g.definition.identity
        published := tally.accepted.map (·.unit.identity)
        diagnostics := g.diagnostics s
        cache := ⟨tally.accepted.length, 0, 0⟩ } := by
  have hhits : tally.accepted.filter (·.reused) = tally.accepted := List.filter_eq_self.mpr hr
  have hmisses : tally.accepted.filter (!·.reused) = [] :=
    List.filter_eq_nil_iff.mpr fun r hm => by simp [hr r hm]
  simp only [complete, hhits, hmisses, Memo.retain_eq_self hk, List.length_nil, Nat.sub_self]

/-! ### Passes into an empty unit store -/

/-- What a complete pass into an empty unit store leaves and reports. -/
theorem run_store_ok {p : Pass} {report : Report} {out : UnitStore}
    (h : (g.passWith s UnitStore.sink signal turn).run .empty = (p, out))
    (ho : p.outcome = .ok report) :
    g.missing? (g.requests s) = none ∧ g.collision? s = none ∧ out = ⟨g.announced s⟩ ∧
      p.generator = g.after s ∧ ∃ cache, report =
        ⟨g.contract, g.definition.identity, (g.prepared s).map (·.unit.identity),
          g.diagnostics s, cache⟩ := by
  obtain ⟨calls, he, ha⟩ := passWith_eq_iff.mp h
  cases he with
  | undeclared failure => cases ho
  | unprepared hu => cases ho
  | refused failure hu => cases ho
  | completed hu =>
      obtain ⟨hm, -, hc, rfl⟩ := batch_ok hu
      obtain ⟨-, rfl⟩ := UnitStore.answers_empty_iff.mp ha
      cases ho
      exact ⟨hm, hc, rfl, rfl, _, rfl⟩

/-- A pass that can be complete is, if it is into an empty unit store. -/
theorem run_store_of_complete (hm : g.missing? (g.requests s) = none)
    (hs : g.stops s signal turn = false) (hc : g.collision? s = none) :
    (g.passWith s UnitStore.sink signal turn).run .empty =
      ({ g with tokens := g.tokensAfter s }.complete s
        ⟨g.prepared s, g.memo.overlay (g.prepared s)⟩ (g.batch s signal turn).signal,
        ⟨g.announced s⟩) := by
  have hb : (g.batch s signal turn).units = .ok (g.prepared s) := by
    rw [batch_of_complete hm, hs, hc]
    rfl
  exact run_store_of_ok hb

theorem run_store_of_collision {identity : String} (hm : g.missing? (g.requests s) = none)
    (hs : g.stops s signal turn = false) (hc : g.collision? s = some identity) :
    (g.passWith s UnitStore.sink signal turn).run .empty =
      (⟨.error (.collision identity), { g with tokens := g.tokensAfter s },
        (g.batch s signal turn).signal⟩, ⟨[g.definition]⟩) := by
  have hb : (g.batch s signal turn).units = .error (.collision identity) := by
    rw [batch_of_complete hm, hs, hc]
    rfl
  exact run_store_of_error hb

/-- If no two requests have the same key, a complete pass can be run again: all units are reused. -/
theorem run_store_after (hm : g.missing? (g.requests s) = none)
    (hs : g.stops s signal turn = false) (hc : g.collision? s = none)
    (hn : ((g.requests s).map (·.key)).Nodup) :
    ∃ q, ((g.after s).passWith s UnitStore.sink signal turn).run .empty = (q, ⟨g.announced s⟩) ∧
      q.outcome = .ok
        ⟨g.contract, g.definition.identity, (g.prepared s).map (·.unit.identity),
          g.diagnostics s, ⟨(g.prepared s).length, 0, 0⟩⟩ := by
  have hids := map_identity_prepared_after hm hn
  have hc' : (g.after s).collision? s = none := by
    rw [collision?, hids]
    exact hc
  have hrun := run_store_of_complete (g := g.after s) (s := s) hm hs hc'
  rw [announced_after hm hn] at hrun
  refine ⟨_, hrun, ?_⟩
  have hreused : ∀ r ∈ (g.after s).prepared s, r.reused = true := by
    rw [prepared_after hm hn]
    simp
  have hlength : ((g.after s).prepared s).length = (g.prepared s).length := by
    rw [prepared_after hm hn, List.length_map]
  rw [outcome_complete_of_reused hreused (keys_overlay_after hm)]
  simp only [hids, hlength]
  rfl

/-- **The same snapshot again.**  Let a pass into an empty unit store be complete, and let another
pass over the same snapshot follow, into an empty unit store too, in which the host does not ask to
stop.

* If no two requests have the same key, the second pass is complete.  It leaves the same units in
  the same order and reports the same, but that every unit was reused and none was rendered or
  forgotten.
* Else it fails, because an identity occurs twice, and leaves the annotation's unit only.
* Requests that have the same key are those of global classes. -/
theorem repetition {p : Pass} {report : Report} {out : UnitStore} {signal' : Signal}
    {turn' : Nat → Nat}
    (h : (g.passWith s UnitStore.sink signal turn).run .empty = (p, out))
    (ho : p.outcome = .ok report) (hs : g.stops s signal' turn' = false) :
    (((g.requests s).map (·.key)).Nodup → ∃ q,
      (p.generator.passWith s UnitStore.sink signal' turn').run .empty = (q, out) ∧
      q.outcome = .ok { report with cache := ⟨report.published.length, 0, 0⟩ }) ∧
    (¬((g.requests s).map (·.key)).Nodup → ∃ q identity,
      (p.generator.passWith s UnitStore.sink signal' turn').run .empty =
        (q, ⟨[g.definition]⟩) ∧
      q.outcome = .error (.collision identity)) ∧
    ((g.requests s).map (·.key)).Pairwise fun k j => k = j → k.namespace = "" := by
  obtain ⟨hm, hc, rfl, hp, cache, rfl⟩ := run_store_ok h ho
  rw [hp]
  refine ⟨fun hn => ?_, fun hn => ?_, namespace_eq_empty_of_key_eq hm hc⟩
  · rw [List.length_map]
    exact run_store_after hm hs hc hn
  · cases hc' : (g.after s).collision? s with
    | none => exact absurd (nodup_key_of_remembered (isSome_get?_after hm) hm hc') hn
    | some identity => exact ⟨_, identity, run_store_of_collision hm hs hc', rfl⟩

/-- The theorem at two global classes of the same key. -/
theorem repetition_carts :
    let int := Attribute.listOf "AutoCollection" "int"
    let s : Snapshot := { declarations := [.cart none [int], .cart none [int]] }
    let x := (ofRows.passWith s UnitStore.sink .never id).run .empty
    x.1.outcome = .ok
        ⟨.list, "GenerateList.Attribute.g.cs",
          ["Global_00000000000000000000000000000000.Cart.g.cs",
            "Global_00000000000000000000000000000001.Cart.g.cs"], [], ⟨0, 2, 0⟩⟩ ∧
      ¬((ofRows.requests s).map (·.key)).Nodup ∧
      ∃ q identity,
        (x.1.generator.passWith s UnitStore.sink .never id).run .empty =
          (q, ⟨[ofRows.definition]⟩) ∧
        q.outcome = .error (.collision identity) := by
  intro int s x
  have hrun : (ofRows.passWith s UnitStore.sink .never id).run .empty = (x.1, x.2) := rfl
  have ho : x.1.outcome = .ok
      ⟨.list, "GenerateList.Attribute.g.cs",
        ["Global_00000000000000000000000000000000.Cart.g.cs",
          "Global_00000000000000000000000000000001.Cart.g.cs"], [], ⟨0, 2, 0⟩⟩ := by
    decide +kernel
  have hn : ¬((ofRows.requests s).map (·.key)).Nodup := by decide +kernel
  exact ⟨ho, hn, (repetition hrun ho (by decide +kernel)).2.1 hn⟩

end Generator

end Companion
