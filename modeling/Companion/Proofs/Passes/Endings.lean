import Companion.Proofs.Passes.Batches

/-!
# Passes — how a pass ends

A sink with states of its own accepts or refuses each unit, as it likes.  What a pass does depends
on the sink only through the calls, that is, through what the sink was offered and answered.

* `Sink.Answers`: the sink gives these answers to these units, one after the other.
* `Generator.Ends`: the four ways in which a pass can end, each with its calls.  The sink refuses
  the annotation's unit; the batch fails; the sink refuses a class's unit; all units are accepted.
* `Generator.passWith_eq_iff`: a pass is one of these, with calls that the sink answers.
* `Generator.passWith_recorded_eq_iff`: writing the calls down changes nothing, and what is written
  down are the calls.
-/

namespace Companion

/-- The units that a sink is offered, with its answers. -/
abbrev Calls := List (SourceUnit × Except Failure Unit)

namespace Calls

/-- The units are offered one after the other, and all accepted. -/
def accepted (us : List SourceUnit) : Calls := us.map fun u => (u, .ok ())

@[simp]
theorem accepted_nil : accepted [] = [] := rfl

@[simp]
theorem accepted_cons (u : SourceUnit) (us : List SourceUnit) :
    accepted (u :: us) = (u, .ok ()) :: accepted us := rfl

@[simp]
theorem map_fst_accepted (us : List SourceUnit) : (accepted us).map Prod.fst = us := by
  simp [accepted, Function.comp_def]

end Calls

/-! ### Sinks with states -/

namespace Sink

variable {σ : Type} {sink : Sink (StateM σ)} {a b c : σ} {u : SourceUnit}
  {answer : Except Failure Unit} {calls calls' : Calls}

/-- The sink gives these answers to these units, and goes from the one state to the other. -/
inductive Answers (sink : Sink (StateM σ)) : σ → Calls → σ → Prop where
  | nil (a : σ) : Answers sink a [] a
  | cons {a b c : σ} {u : SourceUnit} {answer : Except Failure Unit} {calls : Calls} :
      (sink u).run a = (answer, b) → Answers sink b calls c →
      Answers sink a ((u, answer) :: calls) c

theorem run_bind {α β : Type} (x : StateM σ α) (f : α → StateM σ β) (a : σ) :
    (x >>= f).run a = (f (x.run a).1).run (x.run a).2 := rfl

theorem run_pure {α : Type} (x : α) (a : σ) : (pure x : StateM σ α).run a = (x, a) := rfl

theorem Answers.one (h : (sink u).run a = (answer, b)) : sink.Answers a [(u, answer)] b :=
  .cons h (.nil b)

theorem answers_cons_iff :
    sink.Answers a ((u, answer) :: calls) c ↔
      ∃ b, (sink u).run a = (answer, b) ∧ sink.Answers b calls c := by
  constructor
  · rintro (_ | ⟨h, t⟩)
    exact ⟨_, h, t⟩
  · rintro ⟨b, h, t⟩
    exact .cons h t

theorem answers_append_iff :
    sink.Answers a (calls ++ calls') c ↔
      ∃ b, sink.Answers a calls b ∧ sink.Answers b calls' c := by
  induction calls generalizing a with
  | nil =>
      constructor
      · exact fun h => ⟨a, .nil a, h⟩
      · rintro ⟨b, h, t⟩
        cases h
        exact t
  | cons x calls ih =>
      obtain ⟨u, answer⟩ := x
      simp only [List.cons_append, answers_cons_iff, ih]
      constructor
      · rintro ⟨b, h, d, t, t'⟩
        exact ⟨d, ⟨b, h, t⟩, t'⟩
      · rintro ⟨d, ⟨b, h, t⟩, t'⟩
        exact ⟨b, h, d, t, t'⟩

/-- A sink accepts all units it is offered, or refuses one after it accepted those before it. -/
theorem accepts_or_refuses (sink : Sink (StateM σ)) (a : σ) (ready : List Ready) :
    (∃ b, sink.Answers a (Calls.accepted (ready.map (·.unit))) b) ∨
      ∃ done r rest failure b, ready = done ++ r :: rest ∧
        sink.Answers a (Calls.accepted (done.map (·.unit)) ++ [(r.unit, .error failure)]) b := by
  induction ready generalizing a with
  | nil => exact .inl ⟨a, .nil a⟩
  | cons r ready ih =>
      rcases hr : (sink r.unit).run a with ⟨failure | ⟨⟩, b⟩
      · exact .inr ⟨[], r, ready, failure, b, rfl, .one hr⟩
      · rcases ih b with ⟨c, h⟩ | ⟨done, q, rest, failure, c, rfl, h⟩
        · exact .inl ⟨c, .cons hr h⟩
        · exact .inr ⟨r :: done, q, rest, failure, c, rfl, .cons hr h⟩

/-- The sink accepts every unit. -/
def Accepts (sink : Sink (StateM σ)) : Prop := ∀ u a, ((sink u).run a).1 = .ok ()

theorem Accepts.of_answers (h : sink.Accepts) (ha : sink.Answers a calls b) :
    ∀ call ∈ calls, call.2 = .ok () := by
  induction ha with
  | nil a => exact nofun
  | @cons a b c u answer calls hu _ ih =>
      intro call hc
      rcases List.mem_cons.mp hc with rfl | hc
      · have hok := h u a
        rwa [hu] at hok
      · exact ih call hc

/-- The sink, with its calls written down behind those in its state. -/
def recorded (sink : Sink (StateM σ)) : Sink (StateM (σ × Calls)) := fun u x =>
  (((sink u).run x.1).1, ((sink u).run x.1).2, x.2 ++ [(u, ((sink u).run x.1).1)])

theorem recorded_run_eq_iff {written written' : Calls} :
    (sink.recorded u).run (a, written) = (answer, b, written') ↔
      (sink u).run a = (answer, b) ∧ written' = written ++ [(u, answer)] := by
  change (((sink u).run a).1, ((sink u).run a).2, written ++ [(u, ((sink u).run a).1)]) = _ ↔ _
  rcases hu : (sink u).run a with ⟨answer', b'⟩
  constructor
  · intro h
    cases h
    exact ⟨rfl, rfl⟩
  · rintro ⟨h, rfl⟩
    cases h
    rfl

theorem answers_recorded_iff {written written' : Calls} :
    sink.recorded.Answers (a, written) calls (b, written') ↔
      sink.Answers a calls b ∧ written' = written ++ calls := by
  induction calls generalizing a written with
  | nil =>
      rw [List.append_nil]
      constructor
      · intro h
        cases h
        exact ⟨.nil _, rfl⟩
      · rintro ⟨h, rfl⟩
        cases h
        exact .nil _
  | cons x calls ih =>
      obtain ⟨u, answer⟩ := x
      rw [answers_cons_iff, answers_cons_iff]
      constructor
      · rintro ⟨⟨c, between⟩, h, t⟩
        obtain ⟨hu, rfl⟩ := recorded_run_eq_iff.mp h
        obtain ⟨ht, rfl⟩ := ih.mp t
        exact ⟨⟨c, hu, ht⟩, by simp⟩
      · rintro ⟨⟨c, h, t⟩, rfl⟩
        exact ⟨(c, written ++ [(u, answer)]), recorded_run_eq_iff.mpr ⟨h, rfl⟩,
          ih.mpr ⟨t, by simp⟩⟩

end Sink

/-! ### Memos -/

namespace Memo

/-- The memo with units remembered one after the other. -/
def overlay (m : Memo) (ready : List Ready) : Memo :=
  ready.foldl (fun m r => m.insert r.key r.unit) m

@[simp]
theorem overlay_nil (m : Memo) : m.overlay [] = m := rfl

@[simp]
theorem overlay_cons (m : Memo) (r : Ready) (ready : List Ready) :
    m.overlay (r :: ready) = (m.insert r.key r.unit).overlay ready := rfl

end Memo

/-! ### The endings of a pass -/

namespace Generator

variable {σ : Type} {g : Generator} {s : Snapshot} {sink : Sink (StateM σ)} {signal : Signal}
  {turn : Nat → Nat} {a b : σ} {calls : Calls} {p : Pass}

/-- The ways in which a pass can end, with the calls to the sink. -/
inductive Ends (g : Generator) (s : Snapshot) (signal : Signal) (turn : Nat → Nat) :
    Calls → Pass → Prop where
  /-- The sink refuses the annotation's unit: nothing else is done. -/
  | undeclared (failure : Failure) :
      Ends g s signal turn [(g.definition, .error failure)] ⟨.error failure, g, signal⟩
  /-- There are no units: nothing is remembered, but tokens may be drawn. -/
  | unprepared {failure : Failure} : (g.batch s signal turn).units = .error failure →
      Ends g s signal turn [(g.definition, .ok ())]
        ⟨.error failure, { g with tokens := g.tokensAfter s }, (g.batch s signal turn).signal⟩
  /-- The sink refuses a class's unit: those before it are remembered. -/
  | refused {done rest : List Ready} {r : Ready} (failure : Failure) :
      (g.batch s signal turn).units = .ok (done ++ r :: rest) →
      Ends g s signal turn
        (Calls.accepted (g.definition :: done.map (·.unit)) ++ [(r.unit, .error failure)])
        ⟨.error failure, { g with tokens := g.tokensAfter s, memo := g.memo.overlay done },
          (g.batch s signal turn).signal⟩
  /-- The sink accepts all: the pass is complete. -/
  | completed {ready : List Ready} : (g.batch s signal turn).units = .ok ready →
      Ends g s signal turn (Calls.accepted (g.definition :: ready.map (·.unit)))
        ({ g with tokens := g.tokensAfter s }.complete s ⟨ready, g.memo.overlay ready⟩
          (g.batch s signal turn).signal)

/-- Units that are accepted are counted and remembered. -/
theorem publishAll_accepted {done : List Ready}
    (h : sink.Answers a (Calls.accepted (done.map (·.unit))) b) (tally : Tally)
    (rest : List Ready) :
    (publishAll sink tally (done ++ rest)).run a =
      (publishAll sink ⟨tally.accepted ++ done, tally.memo.overlay done⟩ rest).run b := by
  induction done generalizing a tally with
  | nil =>
      cases h
      simp
  | cons r done ih =>
      obtain ⟨c, hr, ht⟩ := Sink.answers_cons_iff.mp h
      simp only [List.cons_append, publishAll, Sink.run_bind, hr, ih ht, List.append_assoc,
        List.nil_append, Memo.overlay_cons]

theorem publishAll_refused {r : Ready} {failure : Failure}
    (h : (sink r.unit).run a = (.error failure, b)) (tally : Tally) (rest : List Ready) :
    (publishAll sink tally (r :: rest)).run a = ((tally, some failure), b) := by
  simp only [publishAll, Sink.run_bind, Sink.run_pure, h]

/-- A pass whose calls the sink answers ends as the calls say. -/
theorem passWith_of_ends (h : g.Ends s signal turn calls p) (ha : sink.Answers a calls b) :
    (g.passWith s sink signal turn).run a = (p, b) := by
  cases h with
  | undeclared failure =>
      obtain ⟨c, hd, ht⟩ := Sink.answers_cons_iff.mp ha
      cases ht
      simp only [passWith, Sink.run_bind, Sink.run_pure, hd]
  | unprepared hu =>
      obtain ⟨c, hd, ht⟩ := Sink.answers_cons_iff.mp ha
      cases ht
      simp only [passWith, Sink.run_bind, Sink.run_pure, hd, hu, batch_tokens]
  | @refused done rest r failure hu =>
      -- the annotation's unit, the units accepted, and the one refused
      obtain ⟨c, hd, ht⟩ := Sink.answers_cons_iff.mp ha
      obtain ⟨d, hs, ht⟩ := Sink.answers_append_iff.mp ht
      obtain ⟨e, hr, ht⟩ := Sink.answers_cons_iff.mp ht
      cases ht
      simp only [passWith, Sink.run_bind, Sink.run_pure, hd, hu, batch_tokens,
        publishAll_accepted hs, publishAll_refused hr]
  | @completed ready hu =>
      obtain ⟨c, hd, ht⟩ := Sink.answers_cons_iff.mp ha
      have hs := publishAll_accepted ht { memo := g.memo } []
      rw [List.append_nil] at hs
      simp only [passWith, Sink.run_bind, Sink.run_pure, hd, hu, batch_tokens, hs, publishAll,
        List.nil_append]

/-- Whatever the sink does, the pass ends in one of the four ways. -/
theorem exists_ends (g : Generator) (s : Snapshot) (sink : Sink (StateM σ)) (signal : Signal)
    (turn : Nat → Nat) (a : σ) :
    ∃ calls p b, g.Ends s signal turn calls p ∧ sink.Answers a calls b := by
  rcases hd : (sink g.definition).run a with ⟨failure | ⟨⟩, b⟩
  · exact ⟨_, _, b, .undeclared failure, .one hd⟩
  · cases hu : (g.batch s signal turn).units with
    | error failure => exact ⟨_, _, b, .unprepared hu, .one hd⟩
    | ok ready =>
        rcases sink.accepts_or_refuses b ready with ⟨c, h⟩ | ⟨done, r, rest, failure, c, rfl, h⟩
        · exact ⟨_, _, c, .completed hu, .cons hd h⟩
        · exact ⟨_, _, c, .refused failure hu, .cons hd h⟩

theorem passWith_eq_iff :
    (g.passWith s sink signal turn).run a = (p, b) ↔
      ∃ calls, g.Ends s signal turn calls p ∧ sink.Answers a calls b := by
  constructor
  · intro h
    obtain ⟨calls, p', b', he, ha⟩ := g.exists_ends s sink signal turn a
    obtain ⟨rfl, rfl⟩ := Prod.mk.inj (h.symm.trans (passWith_of_ends he ha))
    exact ⟨calls, he, ha⟩
  · rintro ⟨calls, he, ha⟩
    exact passWith_of_ends he ha

theorem passWith_recorded_eq_iff {written : Calls} :
    (g.passWith s sink.recorded signal turn).run (a, []) = (p, b, written) ↔
      g.Ends s signal turn written p ∧ sink.Answers a written b := by
  rw [passWith_eq_iff]
  constructor
  · rintro ⟨calls, he, ha⟩
    obtain ⟨ha, rfl⟩ := Sink.answers_recorded_iff.mp ha
    exact ⟨he, ha⟩
  · rintro ⟨he, ha⟩
    exact ⟨written, he, Sink.answers_recorded_iff.mpr ⟨ha, rfl⟩⟩

end Generator

end Companion
