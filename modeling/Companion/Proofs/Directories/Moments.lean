import Companion.Proofs.Directories.Inputs
import Companion.Proofs.Directories.Systems

/-!
# Directories — a file system at one moment

What a file system answers depends on when it is asked.  At one moment it answers each question, and
each demand, in one way, and nothing that is done changes its answers.  Moments are of any sort:
nothing is supposed of how their answers go together.

* `Moment`: the answers.
* `FileTree.moment` and `FileTree.reads_moment`: what is read from a tree is what is read at the
  tree's moment.
* `OutputDirectory.publish` and `OutputDirectory.publishAll`: units that are offered to a directory,
  each at a moment of its own.
* `OutputDirectory.exists_moments`: what a directory does in a file system with states, it does at
  some moments.
-/

namespace Companion

/-- What a file system answers at one moment. -/
structure Moment where
  /-- Whether a path leads to a file or directory. -/
  isPresent : String → Bool
  /-- Whether a path leads to a file. -/
  isFile : String → Bool
  /-- The bytes of a file. -/
  read : String → Except String ByteArray
  /-- Whether the directories of a path can be made. -/
  createDirectories : String → Except String Unit
  /-- Whether a file can be written. -/
  write : String → String → Except String Unit

namespace Moment

instance : FileSystem (StateM Moment) where
  isPresent path := fun w => (w.isPresent path, w)
  isFile path := fun w => (w.isFile path, w)
  read path := fun w => (w.read path, w)
  createDirectories path := fun w => (w.createDirectories path, w)
  write path text := fun w => (w.write path text, w)

/-- A moment at which all demands are answered alike. -/
def steady (answer : Except String Unit) : Moment where
  isPresent _ := true
  isFile _ := false
  read _ := .error "No such file or directory"
  createDirectories _ := answer
  write _ _ := answer

end Moment

/-! ### Trees -/

namespace FileTree

/-- The moment of a tree. -/
def moment (t : FileTree) : Moment where
  isPresent := t.isPresent
  isFile := t.isFile
  read := t.read
  createDirectories path := (t.createDirectories path).2
  write path text := (t.write path text).2

/-- What is read from a tree is what is read at its moment. -/
theorem reads_moment :
    FileSystem.Reads fun α (x : StateM FileTree α) (y : StateM Moment α) =>
      ∀ t, x.run t = ((y.run t.moment).1, t) ∧ (y.run t.moment).2 = t.moment where
  pure _ _ := ⟨rfl, rfl⟩
  bind := by
    intro α β x y f f' hx hf t
    obtain ⟨hrun, hstay⟩ := hx t
    obtain ⟨hrest, hstay'⟩ := hf (y.run t.moment).1 t
    rw [Sink.run_bind, Sink.run_bind, hrun, hstay]
    exact ⟨hrest, hstay'⟩
  isPresent _ _ := ⟨rfl, rfl⟩
  isFile _ _ := ⟨rfl, rfl⟩
  read _ _ := ⟨rfl, rfl⟩

end FileTree

/-! ### Directories -/

namespace OutputDirectory

variable {σ : Type} [FileSystem (StateM σ)] {a b : σ} {d d' : OutputDirectory} {u : SourceUnit}
  {w : Moment} {answer : Except Failure Unit} {calls : Calls}

/-- What a directory answers to a unit that is offered at a moment, and the directory then. -/
def publish (d : OutputDirectory) (x : SourceUnit × Moment) :
    Except Failure Unit × OutputDirectory :=
  (((sink x.1 : StateT OutputDirectory (StateM Moment) _).run d).run x.2).1

/-- The same for units that are offered one after the other. -/
def publishAll (d : OutputDirectory) :
    List (SourceUnit × Moment) → List (Except Failure Unit) × OutputDirectory
  | [] => ([], d)
  | x :: xs =>
    ((d.publish x).1 :: ((d.publish x).2.publishAll xs).1, ((d.publish x).2.publishAll xs).2)

/-- Whether the file of a unit is written at a moment, or need not be. -/
def outcome (d : OutputDirectory) (x : SourceUnit × Moment) : Except String Unit :=
  if d.dryRun then .ok () else ((d.store x.1 : StateM Moment _).run x.2).1

theorem outcome_congr (hroot : d'.root = d.root) (hdry : d'.dryRun = d.dryRun)
    (x : SourceUnit × Moment) : d'.outcome x = d.outcome x := by
  rw [outcome, outcome, hdry, store, store, pathOf, pathOf, hroot]

theorem outcome_steady (d : OutputDirectory) (u : SourceUnit) (answer : Except String Unit) :
    d.outcome (u, .steady answer) = if d.dryRun then .ok () else answer := by
  rw [outcome]
  cases answer <;> rfl

theorem publish_of_error {failure : Failure} {x : SourceUnit × Moment}
    (h : d.offer x.1 = .error failure) : d.publish x = (.error failure, d) := by
  rw [publish, sink_run_of_error h]
  rfl

/-- What is answered to a unit that may be offered to the file system. -/
theorem publish_of_offer {x : SourceUnit × Moment} (h : d.offer x.1 = .ok (d.take x.1)) :
    d.publish x =
      match d.outcome x with
      | .error reason => (.error (.io reason), d.take x.1)
      | .ok () => (.ok (), (d.take x.1).accept x.1) := by
  rw [publish, sink_run h, outcome]
  cases hd : d.dryRun with
  | true =>
      rw [if_pos (show (d.take x.1).dryRun = true from hd), if_pos rfl]
      rfl
  | false =>
      rw [if_neg (by rw [show (d.take x.1).dryRun = false from hd]; decide), Sink.run_bind,
        if_neg (by decide)]
      have htake : ((d.take x.1).store x.1 : StateM Moment _) = d.store x.1 := rfl
      rw [htake]
      rcases (d.store x.1 : StateM Moment _).run x.2 with ⟨reason | ⟨⟩, w⟩ <;> rfl

/-- What is answered to a unit at a moment at which all demands are answered alike. -/
theorem publish_steady (h : d.offer u = .ok (d.take u)) (answer : Except String Unit) :
    d.publish (u, .steady answer) =
      match (if d.dryRun then .ok () else answer) with
      | .error reason => (.error (.io reason), d.take u)
      | .ok () => (.ok (), (d.take u).accept u) := by
  have hoffer := publish_of_offer (x := (u, .steady answer)) h
  rwa [outcome_steady] at hoffer

/-- In a file system with states a directory does what it does at some moment. -/
theorem Responds.exists_moment (h : Responds d a u answer d' b) :
    ∃ w, d.publish (u, w) = (answer, d') := by
  cases h with
  | refused ho => exact ⟨.steady (.ok ()), publish_of_error ho⟩
  | skipped ho hd => exact ⟨.steady (.ok ()), by simp only [publish_steady ho, ite_self]⟩
  | written ho hd hs => exact ⟨.steady (.ok ()), by simp only [publish_steady ho, ite_self]⟩
  | @failed reason _ ho hd hs =>
      refine ⟨.steady (.error reason), ?_⟩
      simp only [publish_steady ho, hd, Bool.false_eq_true, if_false]

/-- In a file system with states a directory does with units what it does at some moments. -/
theorem exists_moments (h : inState.Answers (d, a) calls (d', b)) :
    ∃ xs : List (SourceUnit × Moment),
      xs.map Prod.fst = calls.map Prod.fst ∧ d.publishAll xs = (calls.map Prod.snd, d') := by
  induction calls generalizing d a with
  | nil =>
      cases h
      exact ⟨[], rfl, rfl⟩
  | cons call calls ih =>
      obtain ⟨u, answer⟩ := call
      obtain ⟨⟨between, c⟩, hu, ht⟩ := Sink.answers_cons_iff.mp h
      obtain ⟨w, hw⟩ := (responds_of_run hu).exists_moment
      obtain ⟨xs, hxs, hall⟩ := ih ht
      refine ⟨(u, w) :: xs, by simp [hxs], ?_⟩
      rw [publishAll, hw, hall]
      rfl

end OutputDirectory

end Companion
