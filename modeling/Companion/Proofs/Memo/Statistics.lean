import Companion.Proofs.Memo.Stability
import Companion.Proofs.Passes.Keys
import Mathlib.Data.List.Dedup

/-!
# Memo — what a pass counts

The units that a pass reuses and renders are counted while they are published.  Those that it
forgets are not: their number is the difference of two sizes, taken before and after the memo is
purged, when the new units are remembered already.

* `Memo.filter_keys_overlay`: what is remembered under the keys that are kept does not change which
  keys are forgotten.
* `Generator.Ends.cache`: so what a complete pass counts depends on the keys of the requests and on
  those remembered before.
* `Generator.Reached.nodup_keys`: after every history, a key is remembered once.
* `Generator.Reached.statistics`: all that is counted, and the keys that are remembered afterwards.
-/

namespace Companion

/-! ### The keys of a memo -/

namespace Memo

variable {m : Memo} {keep : List MemoKey} {k : MemoKey} {u : SourceUnit} {ready : List Ready}

@[simp]
theorem keys_insert (m : Memo) (k : MemoKey) (u : SourceUnit) :
    (m.insert k u).keys = k :: m.keys.filter (· != k) := by
  simp [keys, insert, List.filter_map, Function.comp_def]

@[simp]
theorem keys_retain (m : Memo) (keep : List MemoKey) :
    (m.retain keep).keys = m.keys.filter (· ∈ keep) := by
  simp [keys, retain, List.filter_map, Function.comp_def]

theorem length_keys (m : Memo) : m.keys.length = m.size := List.length_map ..

theorem nodup_keys_insert (h : m.keys.Nodup) : (m.insert k u).keys.Nodup := by
  rw [keys_insert, List.nodup_cons]
  exact ⟨by simp, h.filter _⟩

theorem nodup_keys_overlay (h : m.keys.Nodup) : (m.overlay ready).keys.Nodup := by
  induction ready generalizing m with
  | nil => exact h
  | cons r ready ih => exact ih (nodup_keys_insert h)

theorem nodup_keys_retain (h : m.keys.Nodup) : (m.retain keep).keys.Nodup := by
  rw [keys_retain]
  exact h.filter _

/-- Units that are remembered under keys to be kept leave the other keys as they are. -/
theorem filter_keys_overlay (h : ∀ r ∈ ready, r.key ∈ keep) :
    (m.overlay ready).keys.filter (· ∉ keep) = m.keys.filter (· ∉ keep) := by
  induction ready generalizing m with
  | nil => rfl
  | cons r ready ih =>
      obtain ⟨hr, hready⟩ := List.forall_mem_cons.mp h
      rw [overlay_cons, ih hready, keys_insert, List.filter_cons_of_neg (by simpa using hr),
        List.filter_filter]
      -- a key that is not kept is not the key of the unit
      refine List.filter_congr fun k _ => ?_
      by_cases hk : k ∈ keep
      · simp [hk]
      · have hne : k ≠ r.key := fun e => hk (e ▸ hr)
        simp [hk, hne]

/-- The keys that are forgotten make up the difference in size. -/
theorem size_retain (m : Memo) (keep : List MemoKey) :
    m.size = (m.retain keep).size + (m.keys.filter (· ∉ keep)).length := by
  rw [← length_keys, ← length_keys, keys_retain]
  simpa using List.length_eq_length_filter_add (l := m.keys) (fun k => decide (k ∈ keep))

/-- A memo with the same keys, each of them once, is of the same size. -/
theorem size_eq_length_dedup {l : List MemoKey} (h : m.keys.Nodup) (hk : ∀ k, k ∈ m.keys ↔ k ∈ l) :
    m.size = l.dedup.length := by
  rw [← length_keys]
  exact ((List.perm_ext_iff_of_nodup h (List.nodup_dedup l)).mpr fun k => by
    rw [hk, List.mem_dedup]).length_eq

end Memo

namespace Generator

variable {σ : Type} {g : Generator} {s : Snapshot} {sink : Sink (StateM σ)} {signal : Signal}
  {turn : Nat → Nat} {a b : σ} {calls : Calls} {p : Pass} {drawn : List String} {report : Report}

/-! ### Counting -/

theorem hits_eq (hm : g.missing? (g.requests s) = none) :
    ((g.prepared s).filter (·.reused)).length = (g.keys s).countP (· ∈ g.memo.keys) := by
  rw [hits_prepared hm, keys, List.countP_map]
  exact List.countP_congr fun r _ => by simp [Memo.mem_keys_iff]

theorem misses_eq (hm : g.missing? (g.requests s) = none) :
    ((g.prepared s).filter (!·.reused)).length = (g.keys s).countP (· ∉ g.memo.keys) := by
  -- hits and misses make up the units on the one side, and the keys on the other
  have hunits := List.length_eq_length_filter_add (l := g.prepared s) (·.reused)
  have hkeys := List.length_eq_countP_add_countP (l := g.keys s) (· ∈ g.memo.keys)
  have hlength : (g.prepared s).length = (g.keys s).length := by
    rw [keys, ← map_key_prepared hm, List.length_map]
  have hhits := hits_eq hm
  simp only [decide_eq_true_eq] at hkeys
  omega

theorem Ends.keys_prepared (he : g.Ends s signal turn calls p) (ho : p.outcome = .ok report) :
    (g.prepared s).map (·.key) = g.keys s := he.map_key_prepared (.inr ⟨report, ho⟩)

/-- The memo of a complete pass, before and after it is purged. -/
theorem Ends.memo_eq (he : g.Ends s signal turn calls p) (ho : p.outcome = .ok report) :
    p.generator.memo = (g.memo.overlay (g.prepared s)).retain (g.keys s) := by
  rw [he.eq_complete ho, ← he.keys_prepared ho]
  rfl

/-- The keys that a complete pass leaves are those of the requests. -/
theorem Ends.mem_keys_iff (he : g.Ends s signal turn calls p) (ho : p.outcome = .ok report)
    (k : MemoKey) : k ∈ p.generator.memo.keys ↔ k ∈ g.keys s := by
  rw [he.memo_eq ho, Memo.keys_retain, List.mem_filter, Memo.mem_keys_iff,
    Memo.isSome_get?_overlay, he.keys_prepared ho, decide_eq_true_eq]
  exact ⟨fun h => h.2, fun h => ⟨.inl h, h⟩⟩

/-- The size of the memo before it is purged is that afterwards and the number of keys that are
forgotten. -/
theorem Ends.size_overlay (he : g.Ends s signal turn calls p) (ho : p.outcome = .ok report) :
    (g.memo.overlay (g.prepared s)).size =
      p.generator.memo.size + (g.memo.keys.filter (· ∉ g.keys s)).length := by
  have hkeys : ∀ r ∈ g.prepared s, r.key ∈ g.keys s := fun r hr => by
    rw [← he.keys_prepared ho]
    exact List.mem_map_of_mem hr
  rw [Memo.size_retain _ (g.keys s), he.memo_eq ho, Memo.filter_keys_overlay hkeys]

/-- What a complete pass counts, from the keys. -/
theorem Ends.cache (he : g.Ends s signal turn calls p) (ho : p.outcome = .ok report) :
    report.cache = {
      hits := (g.keys s).countP (· ∈ g.memo.keys)
      misses := (g.keys s).countP (· ∉ g.memo.keys)
      evicted := (g.memo.keys.filter (· ∉ g.keys s)).length } := by
  have hm := (he.report ho).1
  have hsize := he.size_overlay ho
  have hp := he.eq_complete ho
  have hcache : report.cache = {
      hits := ((g.prepared s).filter (·.reused)).length
      misses := ((g.prepared s).filter (!·.reused)).length
      evicted := (g.memo.overlay (g.prepared s)).size - p.generator.memo.size } := by
    rw [hp] at ho ⊢
    cases ho
    rfl
  rw [hcache, hits_eq hm, misses_eq hm, hsize, Nat.add_sub_cancel_left]

/-! ### Histories -/

theorem Ends.nodup_keys (he : g.Ends s signal turn calls p) (h : g.memo.keys.Nodup) :
    p.generator.memo.keys.Nodup := by
  cases he with
  | undeclared failure => exact h
  | unprepared hu => exact h
  | refused failure hu => exact Memo.nodup_keys_overlay h
  | completed hu => exact Memo.nodup_keys_retain (Memo.nodup_keys_overlay h)

/-- After every history, a key is remembered once. -/
theorem Reached.nodup_keys (h : Reached g drawn) : g.memo.keys.Nodup := by
  induction h with
  | create marker settings catalog random => exact List.nodup_nil
  | withCatalog catalog _ _ => exact List.nodup_nil
  | withTokens tokens _ ih => exact ih
  | pass _ hrun ih =>
      obtain ⟨calls, he, -⟩ := passWith_eq_iff.mp hrun
      exact he.nodup_keys ih

/-- What a complete pass counts, and which keys it leaves. -/
structure Counts (g : Generator) (s : Snapshot) (p : Pass) (report : Report) : Prop where
  /-- A unit is published for each request, in their order. -/
  published : report.published = (g.prepared s).map (·.unit.identity) ∧
    (g.prepared s).map (·.key) = g.keys s
  /-- The hits are the requests whose keys were remembered. -/
  hits : report.cache.hits = (g.keys s).countP (· ∈ g.memo.keys)
  /-- The misses are the requests whose keys were not. -/
  misses : report.cache.misses = (g.keys s).countP (· ∉ g.memo.keys)
  /-- Together they are all that is published. -/
  total : report.cache.hits + report.cache.misses = report.published.length
  /-- A key is remembered once, before and after the pass. -/
  nodup : g.memo.keys.Nodup ∧ p.generator.memo.keys.Nodup
  /-- The keys that are remembered are those of the requests. -/
  remembered : ∀ k, k ∈ p.generator.memo.keys ↔ k ∈ g.keys s
  /-- There are as many units as there are different keys. -/
  size : p.generator.memo.size = (g.keys s).dedup.length
  /-- The keys that are forgotten are those remembered before that no request has. -/
  evicted : report.cache.evicted = (g.memo.keys.filter (· ∉ g.keys s)).length
  /-- The memo in which all units are remembered is purged; it is larger than what is left of it by
  the keys that are forgotten, so nothing is lost when the sizes are subtracted. -/
  purged : (∃ left, p = { g with tokens := p.generator.tokens }.complete s
      ⟨g.prepared s, g.memo.overlay (g.prepared s)⟩ left) ∧
    (g.memo.overlay (g.prepared s)).size = p.generator.memo.size + report.cache.evicted

/-- **What a pass counts.**  After every history, whatever its passes did and however they ended, a
complete pass counts as hits the requests whose keys were remembered when it started, and as misses
the other ones.  It leaves the keys of the requests, each once, and counts as evicted the keys that
were remembered and that no request has. -/
theorem Reached.statistics (hg : Reached g drawn)
    (hrun : (g.passWith s sink signal turn).run a = (p, b)) (ho : p.outcome = .ok report) :
    g.Counts s p report := by
  obtain ⟨calls, he, -⟩ := passWith_eq_iff.mp hrun
  obtain ⟨-, htokens, hpublished, -⟩ := he.report ho
  have hkeys := he.keys_prepared ho
  have hcache := he.cache ho
  have hnodup : p.generator.memo.keys.Nodup := he.nodup_keys hg.nodup_keys
  refine {
    published := ⟨hpublished, hkeys⟩
    hits := by rw [hcache]
    misses := by rw [hcache]
    total := ?total
    nodup := ⟨hg.nodup_keys, hnodup⟩
    remembered := he.mem_keys_iff ho
    size := Memo.size_eq_length_dedup hnodup (he.mem_keys_iff ho)
    evicted := by rw [hcache]
    purged := ⟨⟨_, htokens ▸ he.eq_complete ho⟩, ?purged⟩ }
  case total =>
    have hlength : report.published.length = (g.keys s).length := by
      rw [hpublished, ← hkeys, List.length_map, List.length_map]
    rw [hcache, hlength, List.length_eq_countP_add_countP (l := g.keys s) (· ∈ g.memo.keys)]
    simp
  case purged =>
    rw [hcache]
    exact he.size_overlay ho

/-- The theorem at a pass that follows another one: a class is still there, two global classes of
one key are new, and a class is gone. -/
theorem statistics_carts :
    let int := Attribute.listOf "AutoCollection" "int"
    let shop := Declaration.cart (some "Shop") [int]
    let depot := Declaration.cart (some "Depot") [int]
    let cart := Declaration.cart none [int]
    let first := (ofRows.passWith { declarations := [shop, depot] } UnitStore.sink .never id).run
      .empty
    let g := first.1.generator
    let s : Snapshot := { declarations := [shop, cart, cart] }
    let second := (g.passWith s UnitStore.sink .never id).run .empty
    ∃ drawn report, Reached g drawn ∧ second.1.outcome = .ok report ∧ g.Counts s second.1 report ∧
      report.cache = ⟨1, 2, 1⟩ ∧ second.1.generator.memo.size = 2 := by
  intro int shop depot cart first g s second
  have hg : Reached g ([] ++ ofRows.tokens.drawnUntil g.tokens) :=
    .pass (.create _ _ _ _) (Prod.eta first).symm
  have hcache : second.1.outcome.toOption.map (·.cache) = some ⟨1, 2, 1⟩ := by decide +kernel
  have hsize : second.1.generator.memo.size = 2 := by decide +kernel
  obtain ⟨report, hreport, hstatistics⟩ := Option.map_eq_some_iff.mp hcache
  have ho : second.1.outcome = .ok report := eq_ok_of_toOption hreport
  exact ⟨_, report, hg, ho, hg.statistics (Prod.eta second).symm ho, hstatistics, hsize⟩

end Generator

end Companion
