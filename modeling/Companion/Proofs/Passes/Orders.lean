import Companion.Proofs.Memo.Repetition
import Companion.Proofs.Memo.Statistics
import Companion.Proofs.Memo.Transparency

/-!
# Passes — in which order the host lists the declarations

A host may list the declarations of a compilation in another order each time, and number them anew.
If no class that can be served is global, no token is drawn, and what is ready for a key depends on
nothing but the memo and the templates.  So the order shows only where it is kept on purpose, in the
list of what was published.

* `Snapshot.Reordered`: the declarations of the one snapshot are those of the other, in any order
  and under any handles.
* `Generator.prepared_of_local`: the units of such a pass, key by key.
* `Generator.Ends.get?_memo_of_local`: what it leaves remembered, key by key.
* `Generator.reordering`: over either snapshot, a pass does the same.
-/

namespace Companion

/-- All that the host says of the declaration but its handle. -/
def Declaration.unnumbered (d : Declaration) : Declaration := { d with symbol := 0 }

/-- The snapshots have the same declarations but for their order and their handles. -/
def Snapshot.Reordered (s s' : Snapshot) : Prop :=
  (s'.declarations.map Declaration.unnumbered).Perm (s.declarations.map Declaration.unnumbered)

namespace Generator

variable {g : Generator} {s s' : Snapshot} {signal signal' : Signal} {turn turn' : Nat → Nat}
  {calls : Calls} {p q : Pass} {report report' : Report} {out out' : UnitStore} {k : MemoKey}

/-! ### Keys in another order -/

theorem keyOf?_unnumbered (g : Generator) (d : Declaration) :
    g.keyOf? d.unnumbered = g.keyOf? d := by
  rw [keyOf?_eq, keyOf?_eq]
  rfl

theorem keys_unnumbered (g : Generator) (s : Snapshot) :
    g.keys s = (s.declarations.map Declaration.unnumbered).filterMap g.keyOf? := by
  rw [keys_eq, List.filterMap_map]
  exact List.filterMap_congr fun d _ => (g.keyOf?_unnumbered d).symm

theorem keys_perm (h : s.Reordered s') : (g.keys s').Perm (g.keys s) := by
  rw [keys_unnumbered, keys_unnumbered]
  exact List.Perm.filterMap _ h

theorem local_iff : g.Local s ↔ ∀ k ∈ g.keys s, k.namespace ≠ "" := by
  simp only [Local, keys, List.forall_mem_map]
  refine forall₂_congr fun r hr => ?_
  rw [Ne, namespace_eq_empty_iff hr, Bool.not_eq_true]

theorem Local.of_reordered (hl : g.Local s) (h : s.Reordered s') : g.Local s' :=
  local_iff.mpr fun k hk => local_iff.mp hl k ((keys_perm h).mem_iff.mp hk)

/-! ### Units in another order -/

/-- Without global classes, what is ready is settled key by key. -/
theorem prepared_of_local (hl : g.Local s) : g.prepared s = (g.keys s).filterMap g.localReady? := by
  rw [prepared, keys, List.filterMap_map, ← plans_map_fst, List.filterMap_map]
  exact List.filterMap_congr fun x hx =>
    readyOf?_of_local hx (hl x.1 (mem_requests_of_mem_plans hx))

/-- The identity of what is ready for the declaration, if it is served. -/
def identityOf? (g : Generator) (d : Declaration) : Option String :=
  (g.keyOf? d).bind fun k => (g.localReady? k).map (·.unit.identity)

theorem identityOf?_unnumbered (g : Generator) (d : Declaration) :
    g.identityOf? d.unnumbered = g.identityOf? d := by
  rw [identityOf?, keyOf?_unnumbered, identityOf?]

/-- The identities follow the declarations. -/
theorem map_identity_prepared (hl : g.Local s) :
    (g.prepared s).map (·.unit.identity) = s.declarations.filterMap g.identityOf? := by
  rw [prepared_of_local hl, keys_eq, List.filterMap_filterMap, List.map_filterMap]
  refine List.filterMap_congr fun d _ => ?_
  rw [Option.map_bind]
  rfl

theorem prepared_perm (hl : g.Local s) (h : s.Reordered s') :
    (g.prepared s').Perm (g.prepared s) := by
  rw [prepared_of_local hl, prepared_of_local (hl.of_reordered h)]
  exact (keys_perm h).filterMap _

theorem announced_perm (hl : g.Local s) (h : s.Reordered s') :
    (g.announced s').Perm (g.announced s) :=
  ((prepared_perm hl h).map _).cons _

theorem missing?_of_reordered (h : s.Reordered s') :
    g.missing? (g.requests s') = g.missing? (g.requests s) :=
  missing?_congr fun _ => (keys_perm h).mem_iff

/-- Whether an identity occurs twice does not depend on the order; which is found first may. -/
theorem collision?_of_reordered (hl : g.Local s) (h : s.Reordered s') :
    g.collision? s' = none ↔ g.collision? s = none := by
  rw [collision?_eq_none_iff, collision?_eq_none_iff]
  exact (((prepared_perm hl h).map _).cons _).nodup_iff

/-! ### Memos -/

/-- Without global classes, what a complete pass leaves is settled key by key. -/
theorem Ends.get?_memo_of_local (he : g.Ends s signal turn calls p) (ho : p.outcome = .ok report)
    (hl : g.Local s) (k : MemoKey) :
    p.generator.memo.get? k =
      if k ∈ g.keys s then (g.localReady? k).map (·.unit) else none := by
  rw [he.memo_eq ho, Memo.get?_retain]
  split
  case isFalse => rfl
  case isTrue hk =>
    have hsome : ((g.memo.overlay (g.prepared s)).get? k).isSome :=
      Memo.isSome_get?_overlay.mpr (.inl (he.keys_prepared ho ▸ hk))
    obtain ⟨u, hu⟩ := Option.isSome_iff_exists.mp hsome
    rw [hu]
    rcases Memo.get?_overlay_eq_some hu with hm | ⟨r, hr, rfl, rfl⟩
    · rw [localReady?, hm]
      rfl
    · rw [localReady?_of_mem_prepared hr (local_iff.mp hl _ hk)]
      rfl

/-! ### Passes -/

/-- What two complete passes over the same declarations have in common, whatever their order. -/
structure Matches (g : Generator) (s s' : Snapshot) (p q : Pass) (report report' : Report)
    (out out' : UnitStore) : Prop where
  /-- The stores have the same texts under the same identities. -/
  texts : ∀ identity, out'.get? identity = out.get? identity
  /-- They have the same number of units. -/
  size : out'.size = out.size
  /-- What is published follows the declarations, and of each the same. -/
  published : report.published = s.declarations.filterMap g.identityOf? ∧
    report'.published = s'.declarations.filterMap g.identityOf? ∧
    ∀ d, g.identityOf? d.unnumbered = g.identityOf? d
  /-- So it is the same but for the order. -/
  perm : report'.published.Perm report.published
  /-- The counts are the same. -/
  cache : report'.cache = report.cache
  /-- The same units are remembered. -/
  remembered : ∀ k, q.generator.memo.get? k = p.generator.memo.get? k

/-- Complete passes over the same declarations match. -/
theorem matches_of_ok (hl : g.Local s) (h : s.Reordered s')
    (hp : (g.passWith s UnitStore.sink signal turn).run .empty = (p, out))
    (hq : (g.passWith s' UnitStore.sink signal' turn').run .empty = (q, out'))
    (ho : p.outcome = .ok report) (ho' : q.outcome = .ok report') :
    g.Matches s s' p q report report' out out' := by
  obtain ⟨calls, he, ha⟩ := passWith_eq_iff.mp hp
  obtain ⟨calls', he', ha'⟩ := passWith_eq_iff.mp hq
  have hl' : g.Local s' := hl.of_reordered h
  have hkeys := keys_perm (g := g) h
  obtain ⟨rfl, hnodup⟩ := he.of_ok ho
  obtain ⟨rfl, -⟩ := he'.of_ok ho'
  obtain ⟨-, rfl⟩ := UnitStore.answers_empty_iff.mp ha
  obtain ⟨-, rfl⟩ := UnitStore.answers_empty_iff.mp ha'
  have hpublished := (he.report ho).2.2.1
  have hpublished' := (he'.report ho').2.2.1
  refine {
    texts := UnitStore.get?_of_perm (announced_perm hl h) hnodup
    size := (announced_perm hl h).length_eq
    published := ⟨hpublished.trans (map_identity_prepared hl),
      hpublished'.trans (map_identity_prepared hl'), g.identityOf?_unnumbered⟩
    perm := ?perm
    cache := ?cache
    remembered := fun k => ?remembered }
  case perm =>
    rw [hpublished, hpublished']
    exact (prepared_perm hl h).map _
  case cache =>
    have hevicted : g.memo.keys.filter (· ∉ g.keys s') = g.memo.keys.filter (· ∉ g.keys s) :=
      List.filter_congr fun k _ => by simp only [hkeys.mem_iff]
    rw [he.cache ho, he'.cache ho', hkeys.countP_eq, hkeys.countP_eq, hevicted]
  case remembered =>
    rw [he.get?_memo_of_local ho hl, he'.get?_memo_of_local ho' hl']
    simp only [hkeys.mem_iff]

/-- **The order of the declarations.**  Let the same declarations be listed in two orders, under any
handles and any names of the assembly, and let no class that can be served be global.  Passes over
the two lists into empty unit stores, neither of which is asked to stop, end in the same way.
Either both miss the same template, or both find an identity that occurs twice, or both are
complete; and then they match.  This is so whatever the generator remembers. -/
theorem reordering (hl : g.Local s) (h : s.Reordered s')
    (hp : (g.passWith s UnitStore.sink signal turn).run .empty = (p, out))
    (hq : (g.passWith s' UnitStore.sink signal' turn').run .empty = (q, out'))
    (hgo : p.outcome ≠ .error .cancelled) (hgo' : q.outcome ≠ .error .cancelled) :
    (∃ x faults faults', p.outcome = .error (.missingTemplate x faults) ∧
      q.outcome = .error (.missingTemplate x faults')) ∨
    (∃ identity identity', p.outcome = .error (.collision identity) ∧
      q.outcome = .error (.collision identity')) ∨
    ∃ report report', p.outcome = .ok report ∧ q.outcome = .ok report' ∧
      g.Matches s s' p q report report' out out' := by
  -- the causes for which a pass can fail, in the order in which they are looked for
  have hmissing := missing?_of_reordered (g := g) h
  cases hm : g.missing? (g.requests s) with
  | some v =>
      refine .inl ⟨_, _, _, (run_store_error_iff hp).mpr (batch_missing_iff.mpr ⟨v, hm, rfl, rfl⟩),
        (run_store_error_iff hq).mpr (batch_missing_iff.mpr ⟨v, hmissing.trans hm, rfl, rfl⟩)⟩
  | none =>
      have hm' := hmissing.trans hm
      have hs : g.stops s signal turn = false := Bool.eq_false_iff.mpr fun hs =>
        hgo ((run_store_error_iff hp).mpr (batch_cancelled_iff.mpr ⟨hm, hs⟩))
      have hs' : g.stops s' signal' turn' = false := Bool.eq_false_iff.mpr fun hs =>
        hgo' ((run_store_error_iff hq).mpr (batch_cancelled_iff.mpr ⟨hm', hs⟩))
      have hcollision := collision?_of_reordered hl h
      refine .inr ?_
      cases hc : g.collision? s with
      | some identity =>
          obtain ⟨identity', hc'⟩ : ∃ identity', g.collision? s' = some identity' :=
            Option.ne_none_iff_exists'.mp fun hn => by simp [hcollision.mp hn] at hc
          exact .inl ⟨identity, identity', (run_store_collision_iff hp).mpr ⟨hm, hs, hc⟩,
            (run_store_collision_iff hq).mpr ⟨hm', hs', hc'⟩⟩
      | none =>
          have hc' := hcollision.mpr hc
          have hrun := (run_store_of_complete hm hs hc).symm.trans hp
          have hrun' := (run_store_of_complete hm' hs' hc').symm.trans hq
          obtain ⟨rfl, -⟩ := Prod.mk.inj hrun
          obtain ⟨rfl, -⟩ := Prod.mk.inj hrun'
          exact .inr ⟨_, _, rfl, rfl, matches_of_ok hl h hp hq rfl rfl⟩

/-- The theorem at two classes, one of which is remembered, that are listed the other way round and
numbered anew. -/
theorem reordering_carts :
    let int := Attribute.listOf "AutoCollection" "int"
    let shop := Declaration.cart (some "Shop") [int]
    let depot := Declaration.cart (some "Depot") [int]
    let g := ((ofRows.passWith { declarations := [shop] } UnitStore.sink .never id).run
      .empty).1.generator
    let s : Snapshot := { declarations := [shop, depot] }
    let s' : Snapshot := {
      assemblyName := "Later"
      declarations := [{ depot with symbol := 2 }, { shop with symbol := 3 }] }
    let x := (g.passWith s UnitStore.sink .never id).run .empty
    let y := (g.passWith s' UnitStore.sink .never id).run .empty
    g.Local s ∧ s.Reordered s' ∧ ∃ report report', x.1.outcome = .ok report ∧
      y.1.outcome = .ok report' ∧ g.Matches s s' x.1 y.1 report report' x.2 y.2 ∧
      report.published = ["Shop.Cart.g.cs", "Depot.Cart.g.cs"] ∧
      report'.published = ["Depot.Cart.g.cs", "Shop.Cart.g.cs"] ∧ report.cache = ⟨1, 1, 0⟩ := by
  intro int shop depot g s s' x y
  have hl : g.Local s := by
    unfold Local
    decide +kernel
  have h : s.Reordered s' := .swap _ _ _
  have hx : x.1.outcome.toOption.map (fun r => (r.published, r.cache)) =
      some (["Shop.Cart.g.cs", "Depot.Cart.g.cs"], ⟨1, 1, 0⟩) := by decide +kernel
  have hy : y.1.outcome.toOption.map (·.published) =
      some ["Depot.Cart.g.cs", "Shop.Cart.g.cs"] := by decide +kernel
  obtain ⟨report, hreport, hxr⟩ := Option.map_eq_some_iff.mp hx
  obtain ⟨report', hreport', hyr⟩ := Option.map_eq_some_iff.mp hy
  have ho := eq_ok_of_toOption hreport
  have ho' := eq_ok_of_toOption hreport'
  have hends := reordering hl h (Prod.eta x).symm (Prod.eta y).symm (by simp [ho]) (by simp [ho'])
  rw [ho, ho'] at hends
  rcases hends with ⟨_, _, _, hfails, -⟩ | ⟨_, _, hfails, -⟩ | ⟨r, r', hr, hr', hmatches⟩
  · cases hfails
  · cases hfails
  · cases hr
    cases hr'
    obtain ⟨hpublished, hcache⟩ := Prod.mk.inj hxr
    exact ⟨hl, h, report, report', ho, ho', hmatches, hpublished, hyr, hcache⟩

end Generator

end Companion
