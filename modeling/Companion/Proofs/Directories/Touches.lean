import Companion.Proofs.Directories.Systems

/-!
# Directories — the files that a run makes or overwrites

A file that is written is made or overwritten.  A write that fails may have done so before it
failed, or not: a file system does not tell.  So files are noted beside its state, and for writes
that fail it is left open which of them have touched their file.

* `Noted`: a file system that notes the paths of the files that are touched.
* `Calls.Touches`: the files that the calls to a directory may touch.
* `Options.Wrote`: the files that a pass touches: those of the units that were accepted, and perhaps
  the one that could not be written.
* `Options.exists_runAll_noted` and `Options.loads_noted_iff`: noting changes nothing of a run.
-/

namespace Companion

variable {σ : Type} [FileSystem (StateM σ)] {touches : σ → String → String → Bool} {a b : σ}
  {o : Options} {env : Environment.Variables} {random : RandomTokens} {settings : Settings}
  {s : Snapshot} {g : Generator} {gs : Generators} {x : DirectoryRun} {xs : List DirectoryRun}
  {files files' : List String}

/-- A file system's state, and the paths of the files that were made or overwritten, in order.
Which of the writes that fail touch their file, `touches` says: in which state, at which path, and
with which text. -/
structure Noted (σ : Type) (touches : σ → String → String → Bool) where
  /-- The state. -/
  state : σ
  /-- The paths. -/
  touched : List String := []

namespace Noted

/-- The computation, with nothing to be noted. -/
def quietly {α : Type} (x : StateM σ α) : StateM (Noted σ touches) α := fun n =>
  ((x.run n.state).1, { n with state := (x.run n.state).2 })

instance : FileSystem (StateM (Noted σ touches)) where
  isPresent path := quietly (FileSystem.isPresent path)
  isFile path := quietly (FileSystem.isFile path)
  read path := quietly (FileSystem.read path)
  createDirectories path := quietly (FileSystem.createDirectories path)
  write path text := fun n =>
    match (FileSystem.write path text : StateM σ _).run n.state with
    | (.error reason, b) =>
      (.error reason, ⟨b, n.touched ++ if touches n.state path text then [path] else []⟩)
    | (.ok _, b) => (.ok (), ⟨b, n.touched ++ [path]⟩)

omit [FileSystem (StateM σ)] in
theorem quietly_run_eq_iff {α : Type} {x : StateM σ α} {y : α} {n n' : Noted σ touches} :
    (quietly x).run n = (y, n') ↔ ∃ b, x.run n.state = (y, b) ∧ n' = ⟨b, n.touched⟩ := by
  change ((x.run n.state).1, { n with state := (x.run n.state).2 }) = (y, n') ↔ _
  rcases x.run n.state with ⟨z, c⟩
  constructor
  · intro h
    cases h
    exact ⟨c, rfl, rfl⟩
  · rintro ⟨b, h, rfl⟩
    cases h
    rfl

/-- What is read is not noted. -/
theorem reads_quietly :
    FileSystem.Reads fun α (x : StateM (Noted σ touches) α) (y : StateM σ α) => x = quietly y where
  pure _ := rfl
  bind := by
    rintro α β _ y _ f' rfl h
    obtain rfl := funext h
    rfl
  isPresent _ := rfl
  isFile _ := rfl
  read _ := rfl

end Noted

/-! ### Calls to a directory -/

namespace Calls

variable {pathOf : SourceUnit → String} {calls calls' : Calls} {u : SourceUnit}
  {us : List SourceUnit} {failure : Failure}

/-- What calls may touch: the file of each unit that is accepted, and, if a file cannot be written,
that file or not. -/
inductive Touches (pathOf : SourceUnit → String) : Calls → List String → Prop where
  | nil : Touches pathOf [] []
  | accepted {u : SourceUnit} {calls : Calls} {files : List String} :
      Touches pathOf calls files → Touches pathOf ((u, .ok ()) :: calls) (pathOf u :: files)
  | untouched {u : SourceUnit} {failure : Failure} {calls : Calls} {files : List String} :
      Touches pathOf calls files → Touches pathOf ((u, .error failure) :: calls) files
  /-- The file was made or overwritten before the write failed. -/
  | spoiled {u : SourceUnit} {reason : String} {calls : Calls} {files : List String} :
      Touches pathOf calls files →
      Touches pathOf ((u, .error (.io reason)) :: calls) (pathOf u :: files)

theorem Touches.append (h : Touches pathOf calls files) (h' : Touches pathOf calls' files') :
    Touches pathOf (calls ++ calls') (files ++ files') := by
  induction h with
  | nil => exact h'
  | accepted _ ih => exact .accepted ih
  | untouched _ ih => exact .untouched ih
  | spoiled _ ih => exact .spoiled ih

theorem Touches.of_accepted (h : Touches pathOf (Calls.accepted us ++ calls) files) :
    ∃ files', Touches pathOf calls files' ∧ files = us.map pathOf ++ files' := by
  induction us generalizing files with
  | nil => exact ⟨files, h, rfl⟩
  | cons u us ih =>
      cases h with
      | accepted h =>
          obtain ⟨files', h', rfl⟩ := ih h
          exact ⟨files', h', rfl⟩

theorem Touches.of_refused (h : Touches pathOf [(u, .error failure)] files) :
    files = [] ∨ (∃ reason, failure = .io reason) ∧ files = [pathOf u] := by
  cases h with
  | untouched h =>
      cases h
      exact .inl rfl
  | spoiled h =>
      cases h
      exact .inr ⟨⟨_, rfl⟩, rfl⟩

end Calls

namespace OutputDirectory

variable {d d' : OutputDirectory} {u : SourceUnit} {answer : Except Failure Unit} {calls : Calls}

/-- A unit's file is noted if it is written, and may be if it cannot be written. -/
theorem exists_store_noted (touches : σ → String → String → Bool) (d : OutputDirectory)
    (u : SourceUnit) (a : σ) (touched : List String) :
    ∃ files, (files = [] ∨ files = [d.pathOf u]) ∧
      (d.store u : StateM (Noted σ touches) (Except String Unit)).run ⟨a, touched⟩ =
        match (d.store u : StateM σ (Except String Unit)).run a with
        | (.error reason, b) => (.error reason, ⟨b, touched ++ files⟩)
        | (.ok _, b) => (.ok (), ⟨b, touched ++ [d.pathOf u]⟩) := by
  have hmade : (FileSystem.createDirectories d.root : StateM (Noted σ touches) _).run
      ⟨a, touched⟩ = (((FileSystem.createDirectories d.root : StateM σ _).run a).1,
        ⟨((FileSystem.createDirectories d.root : StateM σ _).run a).2, touched⟩) := rfl
  rw [store, store, Sink.run_bind, Sink.run_bind, hmade]
  rcases (FileSystem.createDirectories d.root : StateM σ _).run a with ⟨reason | ⟨⟩, c⟩
  · refine ⟨[], .inl rfl, ?_⟩
    rw [List.append_nil]
    rfl
  · refine ⟨if touches c (d.pathOf u) u.text then [d.pathOf u] else [], ?_, rfl⟩
    split
    · exact .inr rfl
    · exact .inl rfl

theorem run_of_responds (h : Responds d a u answer d' b) :
    (inState u).run (d, a) = (answer, d', b) := by
  refine Morphism.stack_run_eq_iff.mpr ?_
  cases h with
  | refused ho =>
      rw [sink_run_of_error ho]
      rfl
  | skipped ho hd =>
      rw [sink_run ho, if_pos (show (d.take u).dryRun = true from hd)]
      rfl
  | written ho hd hs =>
      have hstore : ((d.take u).store u : StateM σ (Except String Unit)).run a = (.ok (), b) := hs
      rw [sink_run ho, if_neg (by rw [show (d.take u).dryRun = false from hd]; decide),
        Sink.run_bind, hstore]
      rfl
  | @failed reason b ho hd hs =>
      have hstore : ((d.take u).store u : StateM σ (Except String Unit)).run a =
        (.error reason, b) := hs
      rw [sink_run ho, if_neg (by rw [show (d.take u).dryRun = false from hd]; decide),
        Sink.run_bind, hstore]
      rfl

/-- A directory does the same with a unit if its file is noted. -/
theorem Responds.exists_noted (h : Responds d a u answer d' b) (hd : d.dryRun = false)
    (touched : List String) :
    ∃ files, Calls.Touches d.pathOf [(u, answer)] files ∧
      Responds d ⟨a, touched⟩ u answer d' (⟨b, touched ++ files⟩ : Noted σ touches) := by
  cases h with
  | refused ho =>
      refine ⟨[], .untouched .nil, ?_⟩
      rw [List.append_nil]
      exact .refused ho
  | skipped ho hdry =>
      rw [hd] at hdry
      cases hdry
  | written ho _ hs =>
      obtain ⟨_, -, hstore⟩ := exists_store_noted touches d u a touched
      exact ⟨[d.pathOf u], .accepted .nil, .written ho hd (by rw [hstore, hs])⟩
  | failed ho _ hs =>
      obtain ⟨files, hfiles, hstore⟩ := exists_store_noted touches d u a touched
      refine ⟨files, ?_, .failed ho hd (by rw [hstore, hs])⟩
      rcases hfiles with rfl | rfl
      · exact .untouched .nil
      · exact .spoiled .nil

theorem exists_answers_noted (h : inState.Answers (d, a) calls (d', b)) (hd : d.dryRun = false)
    (touched : List String) :
    ∃ files, calls.Touches d.pathOf files ∧
      inState.Answers (d, (⟨a, touched⟩ : Noted σ touches)) calls (d', ⟨b, touched ++ files⟩) := by
  induction calls generalizing d a touched with
  | nil =>
      cases h
      refine ⟨[], .nil, ?_⟩
      rw [List.append_nil]
      exact .nil _
  | cons call calls ih =>
      obtain ⟨u, answer⟩ := call
      obtain ⟨⟨between, c⟩, hu, ht⟩ := Sink.answers_cons_iff.mp h
      have hresponds := responds_of_run hu
      have hfollows := hresponds.follows
      have hpath : between.pathOf = d.pathOf := by
        funext v
        rw [pathOf, pathOf, hfollows.root]
      obtain ⟨first, hfirst, hnoted⟩ := hresponds.exists_noted hd touched
      obtain ⟨others, hothers, hrest⟩ := ih ht (hfollows.dryRun.trans hd) (touched ++ first)
      rw [hpath] at hothers
      rw [List.append_assoc] at hrest
      exact ⟨first ++ others, hfirst.append hothers, .cons (run_of_responds hnoted) hrest⟩

end OutputDirectory

/-! ### Passes -/

namespace Generator

variable {signal : Signal} {turn : Nat → Nat} {calls : Calls} {p : Pass}
  {pathOf : SourceUnit → String}

omit [FileSystem (StateM σ)] in
/-- The calls of a pass are accepted, save perhaps the last one, which ends the pass. -/
theorem Ends.accepted_or_refused (he : g.Ends s signal turn calls p) :
    (∃ us, calls = Calls.accepted us) ∨ ∃ us u failure,
      calls = Calls.accepted us ++ [(u, .error failure)] ∧ p.outcome = .error failure := by
  cases he with
  | undeclared failure => exact .inr ⟨[], _, failure, rfl, rfl⟩
  | unprepared hu => exact .inl ⟨[g.definition], rfl⟩
  | refused failure hu => exact .inr ⟨_, _, failure, rfl, rfl⟩
  | completed hu => exact .inl ⟨_, rfl⟩

omit [FileSystem (StateM σ)] in
/-- A pass touches the files of the units that are accepted, and perhaps the one that could not be
written. -/
theorem Ends.touched {k : Nat} (he : g.Ends s signal turn calls p)
    (hkept : calls.kept = (g.announced s).take k) (h : calls.Touches pathOf files) :
    files = ((g.announced s).take k).map pathOf ∨
      (∃ reason, p.outcome = .error (.io reason)) ∧
        files = ((g.announced s).take (k + 1)).map pathOf := by
  rcases he.accepted_or_refused with ⟨us, rfl⟩ | ⟨us, u, failure, rfl, ho⟩
  · rw [Calls.kept_accepted] at hkept
    rw [← List.append_nil (Calls.accepted us)] at h
    obtain ⟨_, hnil, rfl⟩ := h.of_accepted
    cases hnil
    exact .inl (by rw [List.append_nil, hkept])
  · rw [Calls.kept_append, Calls.kept_accepted, Calls.kept_error, List.append_nil] at hkept
    obtain ⟨_, hlast, rfl⟩ := h.of_accepted
    rcases hlast.of_refused with rfl | ⟨⟨reason, rfl⟩, rfl⟩
    · exact .inl (by rw [List.append_nil, hkept])
    · refine .inr ⟨⟨reason, ho⟩, ?_⟩
      -- the unit that was refused is the one announced after those that were accepted
      obtain ⟨rest, hsplit⟩ := he.isPrefix
      rw [List.map_append, Calls.map_fst_accepted, List.append_assoc] at hsplit
      have hlength : us.length = k := by
        have hlt : us.length < (g.announced s).length := by simp [← hsplit]
        have htake := congrArg List.length hkept
        rw [List.length_take] at htake
        omega
      have hnext : (g.announced s).take (k + 1) = us ++ [u] := by
        rw [← hsplit, ← hlength, List.take_length_add_append]
        rfl
      rw [hnext, List.map_append, List.map_singleton]

end Generator

namespace Options

/-- What a generator's pass leaves, and the files that it has made or overwritten: those of the
units that have been accepted, and perhaps the next one, if that could not be written. -/
structure Wrote (o : Options) (s : Snapshot) (g : Generator) (x : DirectoryRun)
    (files : List String) : Prop where
  /-- The contract is the generator's. -/
  contract : x.contract = g.contract
  /-- How many units have been accepted is a matter of how the pass ends. -/
  leaves : ∃ k, g.Leaves s x.outcome k ∧
    x.directory.written = ((g.announced s).take k).map (o.pathOf g) ∧
    (files = x.directory.written ∨ (∃ reason, x.outcome = .error (.io reason)) ∧
      files = ((g.announced s).take (k + 1)).map (o.pathOf g))

/-- Noting does not change which inputs there are. -/
theorem loads_noted_iff {touched : List String} {n : Noted σ touches} :
    o.Loads env random (⟨a, touched⟩ : Noted σ touches) settings s gs n ↔
      ∃ b, o.Loads env random a settings s gs b ∧ n = ⟨b, touched⟩ := by
  have hreads : FileSystem.Reads fun α (x : StateM (Noted σ touches) α) (y : StateM σ α) =>
    x = Noted.quietly y := Noted.reads_quietly
  simp only [Loads, Generators.load, hreads.settings, hreads.snapshot, hreads.generators,
    Noted.quietly_run_eq_iff]
  constructor
  · rintro ⟨_, _, ⟨c, hsettings, rfl⟩, ⟨d, hsnapshot, rfl⟩, ⟨b, hload, rfl⟩⟩
    exact ⟨b, ⟨c, d, hsettings, hsnapshot, hload⟩, rfl⟩
  · rintro ⟨b, ⟨c, d, hsettings, hsnapshot, hload⟩, rfl⟩
    exact ⟨_, _, ⟨c, hsettings, rfl⟩, ⟨d, hsnapshot, rfl⟩, ⟨b, hload, rfl⟩⟩

theorem exists_runOne_noted (h : (o.runOne s g : StateM σ _).run a = (x, b))
    (hd : o.dryRun = false) (touched : List String) :
    ∃ files, o.Wrote s g x files ∧
      (o.runOne s g : StateM (Noted σ touches) _).run ⟨a, touched⟩ =
        (x, ⟨b, touched ++ files⟩) := by
  obtain ⟨calls, p, he, hx, ha⟩ := exists_ends_of_runOne h
  obtain ⟨files, hfiles, hnoted⟩ := OutputDirectory.exists_answers_noted ha hd touched
  have hpass := Generator.passWith_inState_eq_iff.mp
    (Generator.passWith_eq_iff.mpr ⟨calls, he, hnoted⟩)
  refine ⟨files, ⟨by rw [hx], ?_⟩, by rw [runOne_run hpass, ← hx]⟩
  obtain ⟨k, hk, hkept⟩ := he.leaves (Generator.stops_of_never fun _ => rfl) rfl ha
  have hwritten : x.directory.written = ((g.announced s).take k).map (o.pathOf g) := by
    rw [(OutputDirectory.follows_of_answers ha).written, hkept]
    rfl
  refine ⟨k, by rw [hx]; exact hk, hwritten, ?_⟩
  rw [hwritten, hx]
  exact he.touched hkept hfiles

/-- Noting changes nothing of the passes. -/
theorem exists_runAll_noted (h : (o.runAll s gs : StateM σ _).run a = (xs, b))
    (hd : o.dryRun = false) (touched : List String) :
    ∃ notes : List (DirectoryRun × List String), xs = notes.map Prod.fst ∧
      List.Forall₂ (fun g n => o.Wrote s g n.1 n.2) gs notes ∧
      (o.runAll s gs : StateM (Noted σ touches) _).run ⟨a, touched⟩ =
        (xs, ⟨b, touched ++ notes.flatMap Prod.snd⟩) := by
  induction gs generalizing a xs touched with
  | nil =>
      cases h
      refine ⟨[], rfl, .nil, ?_⟩
      rw [List.flatMap_nil, List.append_nil]
      rfl
  | cons g gs ih =>
      rcases hone : (o.runOne s g : StateM σ _).run a with ⟨y, c⟩
      rcases hothers : (o.runAll s gs : StateM σ _).run c with ⟨ys, e⟩
      rw [runAll, Sink.run_bind, hone, Sink.run_bind, hothers] at h
      cases h
      obtain ⟨files, hwrote, hnoted⟩ := exists_runOne_noted hone hd touched
      obtain ⟨notes, rfl, hall, hrest⟩ := ih hothers (touched ++ files)
      refine ⟨(y, files) :: notes, rfl, .cons hwrote hall, ?_⟩
      rw [runAll, Sink.run_bind, hnoted, Sink.run_bind, hrest, List.flatMap_cons,
        List.append_assoc]
      rfl

end Options

end Companion
