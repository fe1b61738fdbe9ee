import Companion.OutputDirectory
import Companion.Proofs.Passes.Identities
import Companion.Proofs.Passes.Morphisms

/-!
# Directories — units that are offered

A file system with states answers each operation as it likes.  What a directory does with a unit
depends on it only through one answer: whether the unit's file could be written.

* `OutputDirectory.offer_cases`: whether a unit may be offered to the file system.
* `OutputDirectory.Responds` and `OutputDirectory.responds_of_run`: what a directory does with a
  unit.
* `OutputDirectory.Follows` and `OutputDirectory.follows_of_answers`: what it has done with several.
* `OutputDirectory.failure_of_answers`: why a unit with a new identity is refused.
* `Generator.Leaves` and `Generator.Ends.leaves`: how a pass into a new directory ends, and how many
  units have been accepted then.
-/

namespace Companion

/-! ### Units that are accepted -/

namespace Calls

/-- The units that were accepted. -/
def kept (calls : Calls) : List SourceUnit :=
  calls.filterMap fun call => call.2.toOption.map fun _ => call.1

@[simp]
theorem kept_append (calls calls' : Calls) : (calls ++ calls').kept = calls.kept ++ calls'.kept :=
  List.filterMap_append

@[simp]
theorem kept_accepted (us : List SourceUnit) : (accepted us).kept = us := by
  rw [kept, accepted, List.filterMap_map]
  exact List.filterMap_some

@[simp]
theorem kept_error (u : SourceUnit) (failure : Failure) : kept [(u, .error failure)] = [] := rfl

end Calls

namespace OutputDirectory

variable {σ : Type} [FileSystem (StateM σ)] {a b : σ} {d d' d'' : OutputDirectory} {u : SourceUnit}
  {us : List SourceUnit} {answer : Except Failure Unit} {failure : Failure} {calls calls' : Calls}

/-! ### One unit -/

/-- The identity is offered. -/
def take (d : OutputDirectory) (u : SourceUnit) : OutputDirectory :=
  { d with taken := d.taken ++ [u.identity] }

theorem offer_of_new (hu : Separatorless u.identity) (hnew : u.identity ∉ d.taken) :
    d.offer u = .ok (d.take u) := by
  rw [offer, if_neg (ne_true_of_eq_false hu), if_neg (by simpa using hnew)]
  rfl

/-- A unit may be offered unless its identity holds a separator or was offered before. -/
theorem offer_cases (d : OutputDirectory) (u : SourceUnit) :
    (¬Separatorless u.identity ∧ ∃ reason, d.offer u = .error (.refused u.identity reason)) ∨
      (u.identity ∈ d.taken ∧ d.offer u = .error (.collision u.identity)) ∨
      d.offer u = .ok (d.take u) := by
  by_cases hu : Separatorless u.identity
  · by_cases ht : u.identity ∈ d.taken
    · refine .inr (.inl ⟨ht, ?_⟩)
      rw [offer, if_neg (ne_true_of_eq_false hu), if_pos (by simpa using ht)]
    · exact .inr (.inr (offer_of_new hu ht))
  · exact .inl ⟨hu, _, if_pos (by simpa [Separatorless] using hu)⟩

/-- What is answered to a unit that may be offered. -/
theorem sink_run {m : Type → Type} [Monad m] [LawfulMonad m] [FileSystem m]
    (h : d.offer u = .ok d') :
    (sink u : StateT OutputDirectory m (Except Failure Unit)).run d =
      if d'.dryRun then pure (.ok (), d'.accept u)
      else (d'.store u : m (Except String Unit)) >>= fun
        | .error reason => pure (.error (.io reason), d')
        | .ok _ => pure (.ok (), d'.accept u) := by
  rw [sink]
  simp only [StateT.run_bind, StateT.run_get, pure_bind, h, StateT.run_set]
  split
  · simp
  · simp only [StateT.run_bind, StateT.run_monadLift, monadLift_self, bind_assoc, pure_bind]
    congr 1
    funext answer
    cases answer <;> simp

/-- What is answered to one that may not. -/
theorem sink_run_of_error {m : Type → Type} [Monad m] [LawfulMonad m] [FileSystem m]
    (h : d.offer u = .error failure) :
    (sink u : StateT OutputDirectory m (Except Failure Unit)).run d =
      pure (.error failure, d) := by
  rw [sink]
  simp only [StateT.run_bind, StateT.run_get, pure_bind, h, StateT.run_pure]

/-- The directory as a sink, in a file system with states. -/
def inState : Sink (StateM (OutputDirectory × σ)) := fun u =>
  (Morphism.stack OutputDirectory σ).map (sink u)

/-- What a directory does with a unit. -/
inductive Responds (d : OutputDirectory) (a : σ) (u : SourceUnit) :
    Except Failure Unit → OutputDirectory → σ → Prop where
  /-- It may not be offered to the file system. -/
  | refused {failure : Failure} : d.offer u = .error failure →
      Responds d a u (.error failure) d a
  /-- In a dry run it is accepted. -/
  | skipped : d.offer u = .ok (d.take u) → d.dryRun = true →
      Responds d a u (.ok ()) ((d.take u).accept u) a
  /-- It is accepted, and its file is written. -/
  | written {b : σ} : d.offer u = .ok (d.take u) → d.dryRun = false →
      (d.store u : StateM σ (Except String Unit)).run a = (.ok (), b) →
      Responds d a u (.ok ()) ((d.take u).accept u) b
  /-- Its file cannot be written. -/
  | failed {reason : String} {b : σ} : d.offer u = .ok (d.take u) → d.dryRun = false →
      (d.store u : StateM σ (Except String Unit)).run a = (.error reason, b) →
      Responds d a u (.error (.io reason)) (d.take u) b

theorem responds_of_run (h : (inState u).run (d, a) = (answer, d', b)) :
    Responds d a u answer d' b := by
  have hrun := Morphism.stack_run_eq_iff.mp h
  cases ho : d.offer u with
  | error failure =>
      rw [sink_run_of_error ho] at hrun
      cases hrun
      exact .refused ho
  | ok offered =>
      obtain rfl : offered = d.take u := by
        rcases d.offer_cases u with ⟨-, reason, he⟩ | ⟨-, he⟩ | he <;> rw [ho] at he <;> cases he
        rfl
      rw [sink_run ho] at hrun
      cases hd : d.dryRun with
      | true =>
          rw [if_pos (show (d.take u).dryRun = true from hd)] at hrun
          cases hrun
          exact .skipped ho hd
      | false =>
          rw [if_neg (by rw [show (d.take u).dryRun = false from hd]; decide),
            Sink.run_bind] at hrun
          rcases hstore : ((d.take u).store u : StateM σ (Except String Unit)).run a with
            ⟨reason | ⟨⟩, stored⟩
          · rw [hstore] at hrun
            cases hrun
            exact .failed ho hd hstore
          · rw [hstore] at hrun
            cases hrun
            exact .written ho hd hstore

/-! ### Several units -/

/-- The directory after it was offered units. -/
structure Follows (d : OutputDirectory) (calls : Calls) (d' : OutputDirectory) : Prop where
  /-- It is the same directory. -/
  root : d'.root = d.root
  /-- It is still a dry run, or is none. -/
  dryRun : d'.dryRun = d.dryRun
  /-- The files of the units that were accepted are told of. -/
  written : d'.written = d.written ++ calls.kept.map d.pathOf
  /-- Only identities that were offered are taken. -/
  taken : ∀ identity ∈ d'.taken, identity ∈ d.taken ∨ identity ∈ calls.map (·.1.identity)

theorem Follows.refl (d : OutputDirectory) : Follows d [] d where
  root := rfl
  dryRun := rfl
  written := by simp [Calls.kept]
  taken _ := .inl

theorem Follows.trans (h : Follows d calls d') (h' : Follows d' calls' d'') :
    Follows d (calls ++ calls') d'' where
  root := h'.root.trans h.root
  dryRun := h'.dryRun.trans h.dryRun
  written := by
    have hpath : d'.pathOf = d.pathOf := by
      funext v
      rw [pathOf, pathOf, h.root]
    rw [h'.written, h.written, hpath, Calls.kept_append, List.map_append, List.append_assoc]
  taken identity hi := by
    rw [List.map_append, List.mem_append]
    rcases h'.taken identity hi with hi | hi
    · exact (h.taken identity hi).imp_right .inl
    · exact .inr (.inr hi)

theorem Responds.follows (h : Responds d a u answer d' b) : Follows d [(u, answer)] d' := by
  have htake : ∀ identity ∈ (d.take u).taken, identity ∈ d.taken ∨ identity ∈ [u.identity] :=
    fun identity hi => List.mem_append.mp hi
  cases h with
  | refused ho => exact ⟨rfl, rfl, by simp, fun _ => .inl⟩
  | skipped ho hd => exact ⟨rfl, rfl, rfl, htake⟩
  | written ho hd hs => exact ⟨rfl, rfl, rfl, htake⟩
  | failed ho hd hs => exact ⟨rfl, rfl, by simp [take], htake⟩

theorem follows_of_answers (h : inState.Answers (d, a) calls (d', b)) : Follows d calls d' := by
  induction calls generalizing d a with
  | nil =>
      cases h
      exact .refl _
  | cons call calls ih =>
      obtain ⟨u, answer⟩ := call
      obtain ⟨⟨between, c⟩, hu, ht⟩ := Sink.answers_cons_iff.mp h
      exact (responds_of_run hu).follows.trans (ih ht)

/-- A unit whose identity was not offered before is refused if its identity holds a separator, or if
its file cannot be written. -/
theorem failure_of_answers (hn : u.identity ∉ d.taken ++ us.map (·.identity))
    (h : inState.Answers (d, a) (Calls.accepted us ++ [(u, .error failure)]) (d', b)) :
    (∃ reason, failure = .io reason) ∨
      ¬Separatorless u.identity ∧ ∃ reason, failure = .refused u.identity reason := by
  obtain ⟨⟨between, c⟩, haccepted, hrefused⟩ := Sink.answers_append_iff.mp h
  obtain ⟨⟨made, c'⟩, hu, -⟩ := Sink.answers_cons_iff.mp hrefused
  cases responds_of_run hu with
  | failed _ _ _ => exact .inl ⟨_, rfl⟩
  | refused ho =>
      rcases between.offer_cases u with ⟨hs, reason, he⟩ | ⟨ht, -⟩ | he
      · rw [ho] at he
        cases he
        exact .inr ⟨hs, reason, rfl⟩
      · refine absurd ?_ hn
        rw [List.mem_append]
        simpa [Calls.accepted] using (follows_of_answers haccepted).taken _ ht
      · rw [ho] at he
        cases he

end OutputDirectory

/-! ### Passes into a new directory -/

namespace Generator

variable {σ : Type} [FileSystem (StateM σ)] {a b : σ} {g : Generator} {s : Snapshot}
  {signal : Signal} {turn : Nat → Nat} {calls : Calls} {p : Pass} {d d' : OutputDirectory}

theorem passWith_inState_eq_iff :
    (g.passWith s OutputDirectory.inState signal turn).run (d, a) = (p, d', b) ↔
      ((g.passWith s OutputDirectory.sink signal turn :
        StateT OutputDirectory (StateM σ) Pass).run d).run a = ((p, d'), b) := by
  rw [← Morphism.stack_run_eq_iff, Morphism.map_passWith]
  rfl

/-- How a pass into a new directory ends if the host does not ask to stop, and how many of the
announced units have been accepted then. -/
inductive Leaves (g : Generator) (s : Snapshot) : Except Failure Report → Nat → Prop where
  /-- All have, and are reported. -/
  | completed {report : Report} : g.missing? (g.requests s) = none →
      report.definition = g.definition.identity →
      report.published = (g.prepared s).map (·.unit.identity) →
      report.diagnostics = g.diagnostics s → Leaves g s (.ok report) (g.announced s).length
  /-- A template is missing: only the annotation's unit has. -/
  | missingTemplate {v : Variant} : g.missing? (g.requests s) = some v →
      Leaves g s (.error (.missingTemplate (.missingTemplate v) (g.diagnostics s))) 1
  /-- An identity occurs twice: only the annotation's unit has. -/
  | collision {identity : String} : g.collision? s = some identity →
      Leaves g s (.error (.collision identity)) 1
  /-- The identity of a unit holds a separator: those before it have. -/
  | refused {k : Nat} {u : SourceUnit} {reason : String} : (g.announced s)[k]? = some u →
      ¬Separatorless u.identity → Leaves g s (.error (.refused u.identity reason)) k
  /-- The file of a unit cannot be written: those before it have. -/
  | unwritten {k : Nat} {reason : String} : k < (g.announced s).length →
      Leaves g s (.error (.io reason)) k

/-- A unit that is refused ends the pass; those before it have been accepted. -/
theorem leaves_of_refusal {us rest : List SourceUnit} {u : SourceUnit} {failure : Failure}
    (hsplit : g.announced s = us ++ u :: rest) (hn : u.identity ∉ us.map (·.identity))
    (ht : d.taken = [])
    (ha : OutputDirectory.inState.Answers (d, a) (Calls.accepted us ++ [(u, .error failure)])
      (d', b)) :
    g.Leaves s (.error failure) us.length := by
  rcases OutputDirectory.failure_of_answers (by simpa [ht] using hn) ha with
    ⟨reason, rfl⟩ | ⟨hu, reason, rfl⟩
  · exact .unwritten (by simp [hsplit])
  · exact .refused (by simp [hsplit]) hu

/-- How a pass into a new directory ends, and which units have been accepted then. -/
theorem Ends.leaves (he : g.Ends s signal turn calls p) (hgo : g.stops s signal turn = false)
    (ht : d.taken = []) (ha : OutputDirectory.inState.Answers (d, a) calls (d', b)) :
    ∃ k, g.Leaves s p.outcome k ∧ calls.kept = (g.announced s).take k := by
  have hn := he.nodup_identity
  cases he with
  | undeclared failure =>
      have hsplit : g.announced s = [] ++ g.definition :: (g.prepared s).map (·.unit) := rfl
      exact ⟨0, leaves_of_refusal hsplit (by simp) ht ha, rfl⟩
  | @unprepared failure hu =>
      refine ⟨1, ?_, rfl⟩
      rcases batch_error hu with ⟨v, rfl⟩ | rfl | ⟨identity, rfl⟩
      · obtain ⟨w, hm, hd, -⟩ := batch_missing_iff.mp hu
        rw [hd]
        exact .missingTemplate hm
      · rw [(batch_cancelled_iff.mp hu).2] at hgo
        cases hgo
      · exact .collision (batch_collision_iff.mp hu).2.2
  | @refused done rest r failure hu =>
      have hsplit : g.announced s =
          (g.definition :: done.map (·.unit)) ++ r.unit :: rest.map (·.unit) := by
        rw [announced, prepared_of_batch_ok hu]
        simp
      refine ⟨_, leaves_of_refusal hsplit ?_ ht ha, ?_⟩
      · rw [List.map_append] at hn
        refine fun hm => (List.nodup_append.mp hn).2.2 _ ?_ _ (List.mem_singleton_self _) rfl
        simpa [Calls.accepted] using hm
      · rw [hsplit, List.take_left, Calls.kept_append, Calls.kept_accepted, Calls.kept_error,
          List.append_nil]
  | completed hu =>
      obtain ⟨hm, -, -, rfl⟩ := batch_ok hu
      exact ⟨_, .completed hm rfl rfl rfl, by rw [Calls.kept_accepted, List.take_length, announced]⟩

end Generator

end Companion
