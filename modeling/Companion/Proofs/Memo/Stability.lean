import Companion.Proofs.Passes.Histories
import Companion.Proofs.Passes.Publication

/-!
# Memo — a unit that is remembered stays

A unit is remembered for as long as its class is there.  Other classes may come and go, passes may
fail in all their ways, and tokens may be replaced: the class keeps its unit, and with it the
namespace that was made for it, until a complete pass does not find the class.

* `Generator.Ends.get?_memo_of_some`: a pass forgets a unit just if it is complete and no request of
  it has the key, and it never replaces one.
* `Generator.hits_prepared`: the units reused are those of the requests whose keys are remembered.
* `Generator.Ends.keeps`: what a pass does with a unit that is remembered (`Generator.Run.Keeps`).
* `Generator.stability`: what the passes of a history do with it, up to the one that forgets it.
-/

namespace Companion.Generator

variable {g g' : Generator} {s : Snapshot} {signal : Signal} {turn : Nat → Nat} {calls : Calls}
  {p : Pass} {k : MemoKey} {u : SourceUnit} {i : Nat} {report : Report} {runs : List Run}

/-! ### What a pass does with a key that is remembered -/

theorem unit_of_mem_prepared {r : Ready} (hr : r ∈ g.prepared s)
    (hk : g.memo.get? r.key = some u) : r.unit = u := by
  rcases reused_of_mem_prepared hr with ⟨-, h⟩ | ⟨-, h⟩
  · rw [hk] at h
    exact (Option.some.inj h).symm
  · rw [hk] at h
    cases h

/-- Units that a pass prepares do not replace a unit that is remembered. -/
theorem get?_overlay_of_some {ready : List Ready} (hready : ∀ r ∈ ready, r ∈ g.prepared s)
    (hk : g.memo.get? k = some u) : (g.memo.overlay ready).get? k = some u := by
  have hsome : ((g.memo.overlay ready).get? k).isSome :=
    Memo.isSome_get?_overlay.mpr (.inr (by rw [hk]; rfl))
  obtain ⟨v, hv⟩ := Option.isSome_iff_exists.mp hsome
  rw [hv]
  rcases Memo.get?_overlay_eq_some hv with h | ⟨r, hr, rfl, rfl⟩
  · exact h.symm.trans hk
  · rw [unit_of_mem_prepared (hready r hr) hk]

/-- A unit that is remembered is forgotten by a complete pass without a request of its key, and by
no other pass. -/
theorem Ends.get?_memo_of_some (he : g.Ends s signal turn calls p)
    (hk : g.memo.get? k = some u) :
    ((∃ report, p.outcome = .ok report) → k ∉ (g.requests s).map (·.key) →
      p.generator.memo.get? k = none) ∧
    (((∃ report, p.outcome = .ok report) → k ∈ (g.requests s).map (·.key)) →
      p.generator.memo.get? k = some u) := by
  cases he with
  | undeclared failure => exact ⟨nofun, fun _ => hk⟩
  | unprepared hu => exact ⟨nofun, fun _ => hk⟩
  | @refused done rest r failure hu =>
      refine ⟨nofun, fun _ => get?_overlay_of_some (s := s) (fun q hq => ?_) hk⟩
      rw [prepared_of_batch_ok hu]
      exact List.mem_append_left _ hq
  | @completed ready hu =>
      obtain ⟨hm, -, -, rfl⟩ := batch_ok hu
      have hkept : (g.memo.overlay (g.prepared s)).get? k = some u :=
        get?_overlay_of_some (fun _ hr => hr) hk
      dsimp only [complete]
      rw [Memo.get?_retain, Generator.map_key_prepared hm]
      exact ⟨fun _ hn => if_neg hn, fun h => (if_pos (h ⟨_, rfl⟩)).trans hkept⟩

/-! ### Requests and calls -/

/-- There is a unit for the `i`-th request, under its key, if a pass offers one or is complete. -/
theorem Ends.exists_prepared (he : g.Ends s signal turn calls p)
    (hp : 1 < calls.length ∨ ∃ report, p.outcome = .ok report) {r : Request}
    (hr : (g.requests s)[i]? = some r) : ∃ x, (g.prepared s)[i]? = some x ∧ x.key = r.key := by
  have hkey : ((g.prepared s).map (·.key))[i]? = some r.key := by
    rw [he.map_key_prepared hp, List.getElem?_map, hr, Option.map_some]
  rw [List.getElem?_map] at hkey
  exact Option.map_eq_some_iff.mp hkey

theorem getElem?_announced (g : Generator) (s : Snapshot) (i : Nat) :
    (g.announced s)[i + 1]? = ((g.prepared s)[i]?).map (·.unit) := by
  rw [announced, List.getElem?_cons_succ, List.getElem?_map]

theorem Ends.fst_call (he : g.Ends s signal turn calls p) {x : Ready}
    {call : SourceUnit × Except Failure Unit} (hx : (g.prepared s)[i]? = some x)
    (hc : calls[i + 1]? = some call) : call.1 = x.unit := by
  obtain ⟨rest, hrest⟩ := he.isPrefix
  have hoffered : (calls.map Prod.fst)[i + 1]? = some call.1 := by
    rw [List.getElem?_map, hc, Option.map_some]
  have hannounced : (g.announced s)[i + 1]? = some call.1 := by
    rw [← hrest, List.getElem?_append_left (List.getElem?_eq_some_iff.mp hoffered).1, hoffered]
  rw [getElem?_announced, hx, Option.map_some] at hannounced
  exact (Option.some.inj hannounced).symm

/-! ### Counting -/

/-- As many units are reused as requests have a unit that is remembered. -/
theorem hits_prepared (hm : g.missing? (g.requests s) = none) :
    ((g.prepared s).filter (·.reused)).length =
      (g.requests s).countP fun r => (g.memo.get? r.key).isSome := by
  have hreused : ∀ x ∈ g.prepared s,
      x.reused = true ↔ (g.memo.get? x.key).isSome = true := by
    intro x hx
    rcases reused_of_mem_prepared hx with ⟨h, h'⟩ | ⟨h, h'⟩ <;> simp [h, h']
  let remembered : MemoKey → Bool := fun k => (g.memo.get? k).isSome
  calc ((g.prepared s).filter (·.reused)).length
      = (g.prepared s).countP (·.reused) := List.countP_eq_length_filter.symm
    _ = (g.prepared s).countP (remembered ∘ (·.key)) := List.countP_congr hreused
    _ = ((g.prepared s).map (·.key)).countP remembered := List.countP_map.symm
    _ = ((g.requests s).map (·.key)).countP remembered := by rw [map_key_prepared hm]
    _ = (g.requests s).countP fun r => (g.memo.get? r.key).isSome := List.countP_map

theorem Ends.hits (he : g.Ends s signal turn calls p) (ho : p.outcome = .ok report) :
    report.cache.hits = (g.requests s).countP fun r => (g.memo.get? r.key).isSome := by
  cases he with
  | undeclared failure => cases ho
  | unprepared hu => cases ho
  | refused failure hu => cases ho
  | completed hu =>
      obtain ⟨hm, -, -, rfl⟩ := batch_ok hu
      cases ho
      exact hits_prepared hm

/-- A pass draws no token, or one for each global class whose unit is not remembered. -/
theorem Ends.tokens (he : g.Ends s signal turn calls p) :
    p.generator.tokens = g.tokens ∨
      p.generator.tokens =
        { g.tokens with drawn := g.tokens.drawn + (g.requests s).countP (·.draws g.memo) } := by
  have hafter := Request.planAll_snd g.memo g.tokens (g.requests s)
  cases he with
  | undeclared failure => exact .inl rfl
  | unprepared hu => exact .inr hafter
  | refused failure hu => exact .inr hafter
  | completed hu => exact .inr hafter

/-! ### Passes and histories -/

/-- The pass is complete, and no class that it serves has the key. -/
structure Run.Drops (x : Run) (k : MemoKey) : Prop where
  complete : ∃ report, x.pass.outcome = .ok report
  absent : k ∉ (x.start.requests x.snapshot).map (·.key)

/-- What a pass does with a unit that is remembered under a key. -/
structure Run.Keeps (x : Run) (k : MemoKey) (u : SourceUnit) : Prop where
  /-- It is remembered when the pass starts. -/
  held : x.start.memo.get? k = some u
  /-- If the sink is offered a unit for a request of the key, it is this one. -/
  offered : ∀ i r call, (x.start.requests x.snapshot)[i]? = some r → r.key = k →
    x.calls[i + 1]? = some call → call.1 = u
  /-- If the pass is complete, it is published for each request of the key. -/
  published : ∀ report i r, x.pass.outcome = .ok report →
    (x.start.requests x.snapshot)[i]? = some r → r.key = k →
    x.calls[i + 1]? = some (u, .ok ()) ∧ report.published[i]? = some u.identity
  /-- The hits of a complete pass are the requests whose keys are remembered, as this one is. -/
  counted : ∀ report, x.pass.outcome = .ok report → report.cache.hits =
    (x.start.requests x.snapshot).countP fun r => (x.start.memo.get? r.key).isSome
  /-- If tokens are drawn, it is for requests whose keys are not remembered. -/
  drawn : x.pass.generator.tokens = x.start.tokens ∨
    x.pass.generator.tokens = { x.start.tokens with
      drawn := x.start.tokens.drawn +
        (x.start.requests x.snapshot).countP (·.draws x.start.memo) }
  /-- It is forgotten by a complete pass without a request of the key. -/
  forgotten : x.Drops k → x.pass.generator.memo.get? k = none
  /-- It is not forgotten by another pass. -/
  kept : ¬x.Drops k → x.pass.generator.memo.get? k = some u

theorem Ends.keeps (he : g.Ends s signal turn calls p) (hk : g.memo.get? k = some u) :
    Run.Keeps ⟨g, s, calls, p⟩ k u where
  held := hk
  offered := by
    rintro i r call hr rfl hc
    have hi : i + 1 < calls.length := (List.getElem?_eq_some_iff.mp hc).1
    obtain ⟨x, hx, hkey⟩ := he.exists_prepared (.inl (by omega)) hr
    rw [he.fst_call hx hc, unit_of_mem_prepared (List.mem_of_getElem? hx) (hkey ▸ hk)]
  published := by
    rintro report i r ho hr rfl
    obtain ⟨x, hx, hkey⟩ := he.exists_prepared (.inr ⟨report, ho⟩) hr
    have hunit : x.unit = u := unit_of_mem_prepared (List.mem_of_getElem? hx) (hkey ▸ hk)
    rw [(he.of_ok ho).1, (he.report ho).2.2.1]
    simp [Calls.accepted, getElem?_announced, hx, hunit]
  counted := fun _ ho => he.hits ho
  drawn := he.tokens
  forgotten := fun hd => (he.get?_memo_of_some hk).1 hd.complete hd.absent
  kept := by
    intro hn
    refine (he.get?_memo_of_some hk).2 fun ho => ?_
    by_contra hmem
    exact hn ⟨ho, hmem⟩

/-- A unit stays remembered in a history without a pass that drops its key. -/
theorem History.get?_memo (h : History g runs g') (hk : g.memo.get? k = some u)
    (hn : ∀ x ∈ runs, ¬x.Drops k) : g'.memo.get? k = some u := by
  induction h with
  | nil g => exact hk
  | withTokens tokens _ ih => exact ih hk hn
  | pass hrun _ ih =>
      obtain ⟨he, -⟩ := passWith_recorded_eq_iff.mp hrun
      obtain ⟨hx, hrest⟩ := List.forall_mem_cons.mp hn
      exact ih ((he.keeps hk).kept hx) hrest

/-- **A unit that is remembered stays.**  Let a unit be remembered under a key, and let passes
follow over any snapshots, with sinks and hosts of all sorts, in which the templates are not
replaced.

* Up to the first pass that is complete and serves no class of the key, that one included, every
  pass finds the unit remembered.  What it offers or publishes for a class of the key is this unit,
  which counts as a hit, and no token is drawn for it.  The unit is forgotten by that first pass,
  and by none before it.
* If there is no such pass, the unit is remembered in the end. -/
theorem stability (h : History g runs g') (hk : g.memo.get? k = some u) :
    (∀ before x after, runs = before ++ x :: after → (∀ y ∈ before, ¬y.Drops k) →
      x.Keeps k u) ∧
    ((∀ x ∈ runs, ¬x.Drops k) → g'.memo.get? k = some u) := by
  refine ⟨fun before x after hruns hn => ?_, h.get?_memo hk⟩
  rw [hruns] at h
  obtain ⟨hbefore, ⟨signal, turn, he⟩, -⟩ := h.split
  exact he.keeps (hbefore.get?_memo hk hn)

instance (x : Run) (k : MemoKey) : Decidable (x.Drops k) :=
  decidable_of_iff
    (x.pass.outcome.toOption.isSome ∧ k ∉ (x.start.requests x.snapshot).map (·.key)) <| by
      constructor
      · rintro ⟨ho, hk⟩
        cases hp : x.pass.outcome with
        | ok report => exact ⟨⟨report, hp⟩, hk⟩
        | error failure => simp [hp, Except.toOption] at ho
      · rintro ⟨⟨report, ho⟩, hk⟩
        exact ⟨by simp [ho, Except.toOption], hk⟩

/-- Passes over snapshots, each into an empty unit store. -/
def storeRuns (g : Generator) : List (Snapshot × Signal) → List Run
  | [] => []
  | (s, signal) :: jobs =>
    let x := (g.passWith s UnitStore.sink.recorded signal id).run (.empty, [])
    ⟨g, s, x.2.2, x.1⟩ :: x.1.generator.storeRuns jobs

theorem session_storeRuns (g : Generator) (jobs : List (Snapshot × Signal)) :
    ∃ g', Session g (g.storeRuns jobs) g' := by
  induction jobs generalizing g with
  | nil => exact ⟨g, .nil g⟩
  | cons job jobs ih =>
      obtain ⟨s, signal⟩ := job
      obtain ⟨g', h⟩ :=
        ih ((g.passWith s UnitStore.sink.recorded signal id).run (.empty, [])).1.generator
      exact ⟨g', .pass (Prod.eta _).symm h⟩

theorem history_storeRuns (g : Generator) (jobs : List (Snapshot × Signal)) :
    ∃ g', History g (g.storeRuns jobs) g' := by
  obtain ⟨g', h⟩ := g.session_storeRuns jobs
  exact ⟨g', h.history⟩

/-- The theorem at a global class whose unit is remembered.  A pass is cancelled, the next one finds
another global class before it, and the last one does not find it. -/
theorem stability_carts :
    let int := Attribute.listOf "AutoCollection" "int"
    let cart := Declaration.cart none [int]
    let depot := Declaration.cart none [.listOf "AutoCollection" "string"]
    let k : MemoKey := ⟨.list, "", "Cart", .public, ⟨"int", none⟩⟩
    let g := ((ofRows.passWith { declarations := [cart] } UnitStore.sink .never id).run
      .empty).1.generator
    let runs := g.storeRuns [({ declarations := [depot, cart] }, .flag true),
      ({ declarations := [depot, cart] }, .never), ({ declarations := [depot] }, .never)]
    ∃ u g' x y z, g.memo.get? k = some u ∧ History g runs g' ∧ runs = [x, y, z] ∧
      ¬x.Drops k ∧ ¬y.Drops k ∧ z.Drops k ∧ y.Keeps k u ∧
      z.pass.generator.memo.get? k = none := by
  intro int cart depot k g runs
  have hsome : (g.memo.get? k).isSome := by decide +kernel
  have hlength : runs.length = 3 := rfl
  have hdrops : runs.map (fun x => decide (x.Drops k)) = [false, false, true] := by decide +kernel
  obtain ⟨u, hk⟩ := Option.isSome_iff_exists.mp hsome
  obtain ⟨g', h⟩ : ∃ g', History g runs g' := history_storeRuns g _
  obtain ⟨x, y, z, hruns⟩ := List.length_eq_three.mp hlength
  have hn : ¬x.Drops k ∧ ¬y.Drops k ∧ z.Drops k := by simpa [hruns] using hdrops
  obtain ⟨hx, hy, hz⟩ := hn
  obtain ⟨hkeeps, -⟩ := stability h hk
  have hky : y.Keeps k u := hkeeps [x] y [z] hruns (by simp [hx])
  have hkz : z.Keeps k u := hkeeps [x, y] z [] hruns (by simp [hx, hy])
  exact ⟨u, g', x, y, z, hk, h, hruns, hx, hy, hz, hky, hkz.forgotten hz⟩

end Companion.Generator
