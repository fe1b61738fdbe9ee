import Companion.Proofs.Passes.Endings

/-!
# Passes — one after another

A generator lives through many passes.  Between them its templates or its tokens may be replaced.

* `Memo.get?_overlay_of_mem`: of units under different keys each is remembered.
* `Generator.Ends.get?_memo`: what is remembered after a pass was remembered before it, or is a unit
  that the pass prepared.
* `Generator.Reached`: the generators that a history leads to, with the tokens drawn in it.
* `Generator.History`: the passes of a history in which the templates are not replaced.
* `Generator.Session`: the passes of a history in which nothing is replaced.
-/

namespace Companion

/-! ### Look-ups after units were remembered -/

namespace Memo

variable {m : Memo} {ready : List Ready} {k : MemoKey} {u : SourceUnit} {r : Ready}

theorem get?_overlay_of_not_mem (h : k ∉ ready.map (·.key)) :
    (m.overlay ready).get? k = m.get? k := by
  induction ready generalizing m with
  | nil => rfl
  | cons r ready ih =>
      rw [List.map_cons, List.mem_cons, not_or] at h
      rw [overlay_cons, ih h.2, get?_insert, if_neg h.1]

/-- Units whose keys differ are all remembered. -/
theorem get?_overlay_of_mem (h : (ready.map (·.key)).Nodup) (hr : r ∈ ready) :
    (m.overlay ready).get? r.key = some r.unit := by
  induction ready generalizing m with
  | nil => cases hr
  | cons q ready ih =>
      obtain ⟨hq, hn⟩ := List.nodup_cons.mp h
      rcases List.mem_cons.mp hr with rfl | hr
      · rw [overlay_cons, get?_overlay_of_not_mem hq, get?_insert, if_pos rfl]
      · exact ih hn hr

/-- A key has a unit if it had one, or one was remembered under it. -/
theorem isSome_get?_overlay :
    ((m.overlay ready).get? k).isSome ↔ k ∈ ready.map (·.key) ∨ (m.get? k).isSome := by
  induction ready generalizing m with
  | nil => simp
  | cons r ready ih =>
      rw [overlay_cons, ih, get?_insert, List.map_cons, List.mem_cons]
      by_cases hk : k = r.key
      · simp [hk]
      · simp [hk]

/-- What is remembered was remembered before, or is one of the units. -/
theorem get?_overlay_eq_some (h : (m.overlay ready).get? k = some u) :
    m.get? k = some u ∨ ∃ r ∈ ready, r.key = k ∧ r.unit = u := by
  induction ready generalizing m with
  | nil => exact .inl h
  | cons r ready ih =>
      rcases ih h with h | ⟨q, hq, hk, hu⟩
      · rw [get?_insert] at h
        by_cases hk : k = r.key
        · rw [if_pos hk] at h
          cases h
          exact .inr ⟨r, List.mem_cons_self, hk.symm, rfl⟩
        · rw [if_neg hk] at h
          exact .inl h
      · exact .inr ⟨q, List.mem_cons_of_mem _ hq, hk, hu⟩

theorem get?_of_get?_retain {keep : List MemoKey} (h : (m.retain keep).get? k = some u) :
    m.get? k = some u := by
  rw [get?_retain] at h
  by_cases hk : k ∈ keep
  · rwa [if_pos hk] at h
  · rw [if_neg hk] at h
    cases h

end Memo

/-! ### What a pass leaves -/

namespace Generator

variable {σ : Type} {g : Generator} {s : Snapshot} {sink : Sink (StateM σ)} {signal : Signal}
  {turn : Nat → Nat} {a b : σ} {calls : Calls} {p : Pass} {drawn : List String}

/-- A pass leaves the annotation, the settings and the templates as they are. -/
theorem Ends.frame (h : g.Ends s signal turn calls p) :
    p.generator.marker = g.marker ∧ p.generator.settings = g.settings ∧
      p.generator.catalog = g.catalog := by
  cases h <;> exact ⟨rfl, rfl, rfl⟩

/-- What is remembered after a pass was remembered before, or is a unit that the pass prepared; in
that case the tokens for the units were drawn. -/
theorem Ends.get?_memo {k : MemoKey} {u : SourceUnit} (h : g.Ends s signal turn calls p)
    (hk : p.generator.memo.get? k = some u) :
    g.memo.get? k = some u ∨
      p.generator.tokens = g.tokensAfter s ∧ ∃ r ∈ g.prepared s, r.key = k ∧ r.unit = u := by
  cases h with
  | undeclared failure => exact .inl hk
  | unprepared hu => exact .inl hk
  | @refused done rest r failure hu =>
      rcases Memo.get?_overlay_eq_some hk with hk | ⟨q, hq, hqk, hqu⟩
      · exact .inl hk
      · refine .inr ⟨rfl, q, ?_, hqk, hqu⟩
        rw [← (batch_ok hu).2.2.2]
        exact List.mem_append_left _ hq
  | @completed ready hu =>
      rcases Memo.get?_overlay_eq_some (Memo.get?_of_get?_retain hk) with hk | ⟨q, hq, hqk, hqu⟩
      · exact .inl hk
      · refine .inr ⟨rfl, q, ?_, hqk, hqu⟩
        rw [← (batch_ok hu).2.2.2]
        exact hq

/-! ### Histories -/

/-- The generators that a history leads to, with the tokens drawn in it: a generator is made, its
templates or its tokens are replaced, and it runs passes, with sinks of all sorts. -/
inductive Reached : Generator → List String → Prop where
  | create (marker : Annotation) (settings : Settings) (catalog : Catalog) (random : Nat → String) :
      Reached (create marker settings catalog random) []
  | withCatalog {g : Generator} {drawn : List String} (catalog : Catalog) :
      Reached g drawn → Reached (g.withCatalog catalog) drawn
  | withTokens {g : Generator} {drawn : List String} (tokens : TokenSource) :
      Reached g drawn → Reached (g.withTokens tokens) drawn
  | pass {σ : Type} {g : Generator} {drawn : List String} {s : Snapshot}
      {sink : Sink (StateM σ)} {signal : Signal} {turn : Nat → Nat} {a b : σ} {p : Pass} :
      Reached g drawn → (g.passWith s sink signal turn).run a = (p, b) →
      Reached p.generator (drawn ++ g.tokens.drawnUntil p.generator.tokens)

/-- One pass of a history: the generator that runs it, the snapshot, what the sink is offered and
answers, and how it ends. -/
structure Run where
  start : Generator
  snapshot : Snapshot
  calls : Calls
  pass : Pass

/-- A generator runs these passes one after the other, with sinks and hosts of all sorts, and
becomes the other generator.  Between passes its tokens may be replaced, but not its templates. -/
inductive History : Generator → List Run → Generator → Prop where
  | nil (g : Generator) : History g [] g
  | withTokens {g g' : Generator} {runs : List Run} (tokens : TokenSource) :
      History (g.withTokens tokens) runs g' → History g runs g'
  | pass {σ : Type} {g g' : Generator} {s : Snapshot} {sink : Sink (StateM σ)} {signal : Signal}
      {turn : Nat → Nat} {a b : σ} {calls : Calls} {p : Pass} {runs : List Run} :
      (g.passWith s sink.recorded signal turn).run (a, []) = (p, b, calls) →
      History p.generator runs g' → History g (⟨g, s, calls, p⟩ :: runs) g'

/-- A generator runs these passes one after the other, with sinks and hosts of all sorts, and
becomes the other generator.  Nothing is replaced in between. -/
inductive Session : Generator → List Run → Generator → Prop where
  | nil (g : Generator) : Session g [] g
  | pass {σ : Type} {g g' : Generator} {s : Snapshot} {sink : Sink (StateM σ)} {signal : Signal}
      {turn : Nat → Nat} {a b : σ} {calls : Calls} {p : Pass} {runs : List Run} :
      (g.passWith s sink.recorded signal turn).run (a, []) = (p, b, calls) →
      Session p.generator runs g' → Session g (⟨g, s, calls, p⟩ :: runs) g'

theorem Session.history {g' : Generator} {runs : List Run} (h : Session g runs g') :
    History g runs g' := by
  induction h with
  | nil g => exact .nil g
  | pass hrun _ ih => exact .pass hrun ih

/-- A history can be cut before each of its passes. -/
theorem History.split {g' : Generator} {before after : List Run} {x : Run}
    (h : History g (before ++ x :: after) g') :
    History g before x.start ∧
      (∃ signal turn, x.start.Ends x.snapshot signal turn x.calls x.pass) ∧
      History x.pass.generator after g' := by
  generalize hruns : before ++ x :: after = runs at h
  induction h generalizing before with
  | nil g => simp at hruns
  | withTokens tokens _ ih =>
      obtain ⟨hbefore, hx, hafter⟩ := ih hruns
      exact ⟨.withTokens tokens hbefore, hx, hafter⟩
  | pass hrun hrest ih =>
      cases before with
      | nil =>
          obtain ⟨rfl, rfl⟩ := List.cons.inj hruns
          exact ⟨.nil _, ⟨_, _, (passWith_recorded_eq_iff.mp hrun).1⟩, hrest⟩
      | cons y before =>
          obtain ⟨rfl, htail⟩ := List.cons.inj hruns
          obtain ⟨hbefore, hx, hafter⟩ := ih htail
          exact ⟨.pass hrun hbefore, hx, hafter⟩

end Generator

end Companion
