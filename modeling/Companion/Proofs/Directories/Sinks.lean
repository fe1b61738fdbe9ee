import Companion.Proofs.Directories.Offers
import Companion.Proofs.Directories.Places
import Mathlib.Data.List.Nodup

/-!
# Directories — passes into a directory

A directory accepts the units that a unit store accepts, if their identities hold no path separator
and the files can be written.  In a dry run nothing is written, so nothing can fail.

* `FileTree.Adds`: what files that are written one after the other do to a tree.
* `OutputDirectory.offered_of_run`: what a directory does with a unit whose identity is new to it.
* `OutputDirectory.Accepted`: what the directory and the tree hold when units were accepted.
* `OutputDirectory.refused_of_answers`: a unit with a new identity is refused only if its file
  cannot be written, and not in a dry run.
* `Generator.passWith_directory_cases`: a pass into a directory is the pass into a unit store,
  unless a file cannot be written.
-/

namespace Companion

/-! ### Files that are added -/

namespace FileTree

variable {t t' t'' : FileTree} {files files' : List (Place × ByteArray)}

/-- The files were written, and nothing else was changed but directories. -/
structure Adds (t t' : FileTree) (files : List (Place × ByteArray)) : Prop where
  /-- The current directory stays. -/
  here : t'.here = t.here
  /-- The files are there. -/
  written : ∀ f ∈ files, t'.bytes? f.1 = some f.2
  /-- Other files are as they were. -/
  others : ∀ q, q ∉ files.map Prod.fst → t'.bytes? q = t.bytes? q

theorem Adds.refl (t : FileTree) : t.Adds t [] := ⟨rfl, nofun, fun _ _ => rfl⟩

/-- Files in different places may be written one after the other. -/
theorem Adds.trans (h : t.Adds t' files) (h' : t'.Adds t'' files')
    (hne : ∀ q ∈ files.map Prod.fst, q ∉ files'.map Prod.fst) :
    t.Adds t'' (files ++ files') where
  here := h'.here.trans h.here
  written f hf := by
    rcases List.mem_append.mp hf with hf | hf
    · rw [h'.others f.1 (hne _ (List.mem_map_of_mem hf))]
      exact h.written f hf
    · exact h'.written f hf
  others q hq := by
    rw [List.map_append, List.mem_append, not_or] at hq
    rw [h'.others q hq.2, h.others q hq.1]

theorem Adds.put (t : FileTree) (p : Place) (bytes : ByteArray) :
    t.Adds (t.put p bytes) [(p, bytes)] where
  here := rfl
  written f hf := by
    obtain rfl := List.mem_singleton.mp hf
    rw [bytes?_put, if_pos rfl]
  others q hq := by
    rw [bytes?_put, if_neg (by simpa using hq)]

theorem Adds.of_frame (hfiles : t'.files = t.files) (hhere : t'.here = t.here)
    (h : t'.Adds t'' files) : t.Adds t'' files where
  here := h.here.trans hhere
  written := h.written
  others q hq := (h.others q hq).trans (by rw [bytes?, bytes?, hfiles])

/-- Where there was no file, there are the ones that were written. -/
theorem Adds.bytes?_eq_some_iff {q : Place} {bytes : ByteArray} (h : t.Adds t' files)
    (hq : t.bytes? q = none) : t'.bytes? q = some bytes ↔ (q, bytes) ∈ files := by
  constructor
  · intro hbytes
    by_cases hm : q ∈ files.map Prod.fst
    · obtain ⟨⟨p, content⟩, hf, rfl⟩ := List.mem_map.mp hm
      obtain rfl := Option.some.inj ((h.written _ hf).symm.trans hbytes)
      exact hf
    · rw [h.others q hm, hq] at hbytes
      cases hbytes
  · intro hf
    exact h.written _ hf

end FileTree

/-! ### Units that are offered to a directory -/

namespace OutputDirectory

variable {d d' : OutputDirectory} {t t' : FileTree} {u : SourceUnit} {us : List SourceUnit}
  {answer : Except Failure Unit} {calls : Calls}

/-- The directory as a sink, in a tree of files. -/
def inTree : Sink (StateM (OutputDirectory × FileTree)) := fun u =>
  (Morphism.stack OutputDirectory FileTree).map (sink u)

/-- The file of a unit, if it is written. -/
def fileOf (d : OutputDirectory) (t : FileTree) (u : SourceUnit) : Place × ByteArray :=
  (t.place d.root ++ [u.identity], u.text.toUTF8)

theorem store_run (d : OutputDirectory) (t : FileTree) (u : SourceUnit) :
    (d.store u : StateM FileTree (Except String Unit)).run t =
      match t.createDirectories d.root with
      | (t', .error reason) => (.error reason, t')
      | (t', .ok _) => ((t'.write (d.pathOf u) u.text).2, (t'.write (d.pathOf u) u.text).1) := by
  have hmade : (FileSystem.createDirectories d.root : StateM FileTree _).run t =
      ((t.createDirectories d.root).2, (t.createDirectories d.root).1) := rfl
  rw [store, Sink.run_bind, hmade]
  rcases t.createDirectories d.root with ⟨t', reason | ⟨⟩⟩
  · rfl
  · rfl

/-- If a unit's file is written, it is added. -/
theorem adds_of_store (hu : Separatorless u.identity)
    (h : (d.store u : StateM FileTree (Except String Unit)).run t = (.ok (), t')) :
    t.Adds t' [d.fileOf t u] := by
  obtain ⟨hfiles, hhere⟩ := t.createDirectories_frame d.root
  rw [store_run] at h
  rcases hmade : t.createDirectories d.root with ⟨made, reason | ⟨⟩⟩
  · rw [hmade] at h
    cases h
  · rw [hmade] at h hfiles hhere
    rcases hwrite : made.write (d.pathOf u) u.text with ⟨stored, answer⟩
    simp only [hwrite] at h
    cases h
    obtain ⟨-, rfl⟩ := FileTree.write_join hu.slash_not_mem hwrite
    have hadds : made.Adds (made.put (t.place d.root ++ [u.identity]) u.text.toUTF8)
        [d.fileOf t u] := .put made _ _
    rw [FileTree.place_congr hhere]
    exact hadds.of_frame hfiles hhere

/-- What a directory does with a unit whose identity is new to it. -/
inductive Offered (d : OutputDirectory) (t : FileTree) (u : SourceUnit) :
    Except Failure Unit → OutputDirectory → FileTree → Prop where
  /-- In a dry run it is accepted. -/
  | skipped : d.dryRun = true → Offered d t u (.ok ()) ((d.take u).accept u) t
  /-- It is accepted, and its file is written. -/
  | written {t' : FileTree} : d.dryRun = false →
      (d.store u : StateM FileTree (Except String Unit)).run t = (.ok (), t') →
      Offered d t u (.ok ()) ((d.take u).accept u) t'
  /-- Its file cannot be written. -/
  | failed {reason : String} {t' : FileTree} : d.dryRun = false →
      (d.store u : StateM FileTree (Except String Unit)).run t = (.error reason, t') →
      Offered d t u (.error (.io reason)) (d.take u) t'

theorem offered_of_run (hu : Separatorless u.identity) (hnew : u.identity ∉ d.taken)
    (h : (inTree u).run (d, t) = (answer, d', t')) : Offered d t u answer d' t' := by
  have hresponds : Responds d t u answer d' t' := responds_of_run h
  cases hresponds with
  | refused ho =>
      rw [offer_of_new hu hnew] at ho
      cases ho
  | skipped _ hd => exact .skipped hd
  | written _ hd hs => exact .written hd hs
  | failed _ hd hs => exact .failed hd hs

theorem Offered.eq_of_dryRun (h : Offered d t u answer d' t') (hd : d.dryRun = true) : t' = t := by
  cases h with
  | skipped _ => rfl
  | written hwet _ | failed hwet _ =>
      rw [hd] at hwet
      cases hwet

theorem Offered.store_of_not_dryRun (h : Offered d t u (.ok ()) d' t') (hd : d.dryRun = false) :
    (d.store u : StateM FileTree (Except String Unit)).run t = (.ok (), t') := by
  cases h with
  | skipped hdry =>
      rw [hd] at hdry
      cases hdry
  | written _ hstore => exact hstore

theorem fileOf_congr (hroot : d'.root = d.root) (hhere : t'.here = t.here) (u : SourceUnit) :
    d'.fileOf t' u = d.fileOf t u := by
  rw [fileOf, fileOf, hroot, FileTree.place_congr hhere]

/-! ### Units that are accepted -/

/-- Writes the files of units in a directory, until one cannot be written. -/
def storeAll (root : String) : List SourceUnit → StateM FileTree (Except String Unit)
  | [] => pure (.ok ())
  | u :: us => do
    match ← (store { root } u : StateM FileTree (Except String Unit)) with
    | .error reason => pure (.error reason)
    | .ok () => storeAll root us

theorem storeAll_cons_ok (h : (d.store u : StateM FileTree (Except String Unit)).run t =
    (.ok (), t')) (us : List SourceUnit) :
    (storeAll d.root (u :: us)).run t = (storeAll d.root us).run t' := by
  have hstore : (store { root := d.root } u : StateM FileTree (Except String Unit)).run t =
      (.ok (), t') := h
  rw [storeAll, Sink.run_bind, hstore]

theorem storeAll_cons_error {reason : String}
    (h : (d.store u : StateM FileTree (Except String Unit)).run t = (.error reason, t'))
    (us : List SourceUnit) : ((storeAll d.root (u :: us)).run t).1 = .error reason := by
  have hstore : (store { root := d.root } u : StateM FileTree (Except String Unit)).run t =
      (.error reason, t') := h
  rw [storeAll, Sink.run_bind, hstore]
  rfl

theorem storeAll_append {root : String} (h : (storeAll root us).run t = (.ok (), t'))
    (vs : List SourceUnit) : (storeAll root (us ++ vs)).run t = (storeAll root vs).run t' := by
  induction us generalizing t with
  | nil =>
      cases h
      rfl
  | cons u us ih =>
      rcases hstore : (store { root } u : StateM FileTree (Except String Unit)).run t with
        ⟨reason | ⟨⟩, made⟩
      · have herror := storeAll_cons_error hstore us
        rw [h] at herror
        cases herror
      · rw [storeAll_cons_ok hstore] at h
        rw [List.cons_append, storeAll_cons_ok hstore]
        exact ih h

/-- The units were accepted: what the directory and the tree hold then. -/
structure Accepted (d : OutputDirectory) (t : FileTree) (us : List SourceUnit)
    (d' : OutputDirectory) (t' : FileTree) : Prop where
  /-- It is the same directory. -/
  root : d'.root = d.root
  /-- It is still a dry run, or is none. -/
  dryRun : d'.dryRun = d.dryRun
  /-- The identities are taken. -/
  taken : d'.taken = d.taken ++ us.map (·.identity)
  /-- The files are told of. -/
  written : d'.written = d.written ++ us.map d.pathOf
  /-- In a dry run the tree is as it was. -/
  skipped : d.dryRun = true → t' = t
  /-- Else all files were written. -/
  stored : d.dryRun = false → (storeAll d.root us).run t = (.ok (), t')
  /-- They are there, and other files as they were. -/
  adds : d.dryRun = false → t.Adds t' (us.map (d.fileOf t))

theorem Accepted.refl (d : OutputDirectory) (t : FileTree) : Accepted d t [] d t where
  root := rfl
  dryRun := rfl
  taken := by simp
  written := by simp
  skipped _ := rfl
  stored _ := rfl
  adds _ := .refl t

/-- A unit is accepted, and then others with other identities. -/
theorem Accepted.cons {between : OutputDirectory} {tree : FileTree} (hu : Separatorless u.identity)
    (hfirst : Offered d t u (.ok ()) between tree) (hrest : Accepted between tree us d' t')
    (hne : u.identity ∉ us.map (·.identity)) : Accepted d t (u :: us) d' t' := by
  obtain ⟨hroot, hdry, htaken, hwritten⟩ : between.root = d.root ∧ between.dryRun = d.dryRun ∧
      between.taken = d.taken ++ [u.identity] ∧ between.written = d.written ++ [d.pathOf u] := by
    cases hfirst <;> exact ⟨rfl, rfl, rfl, rfl⟩
  have hpath : between.pathOf = d.pathOf := by
    funext v
    rw [pathOf, pathOf, hroot]
  have hstored := hrest.stored
  have hadds := hrest.adds
  rw [hdry] at hstored hadds
  rw [hroot] at hstored
  refine ⟨hrest.root.trans hroot, hrest.dryRun.trans hdry, ?_, ?_, fun hd => ?_, fun hd => ?_,
    fun hd => ?_⟩
  · rw [hrest.taken, htaken, List.map_cons, List.append_assoc, List.singleton_append]
  · rw [hrest.written, hwritten, hpath, List.map_cons, List.append_assoc, List.singleton_append]
  · rw [hrest.skipped (hdry.trans hd), hfirst.eq_of_dryRun hd]
  · rw [storeAll_cons_ok (hfirst.store_of_not_dryRun hd), hstored hd]
  · have hfile := adds_of_store hu (hfirst.store_of_not_dryRun hd)
    have hothers := hadds hd
    rw [funext (fileOf_congr hroot hfile.here)] at hothers
    -- the files differ because the identities do
    refine hfile.trans hothers fun q hq hm => ?_
    obtain rfl := List.mem_singleton.mp hq
    rw [List.map_map] at hm
    obtain ⟨v, hv, hplace⟩ := List.mem_map.mp hm
    have hidentity : v.identity = u.identity := by simpa [fileOf] using hplace
    rw [← hidentity] at hne
    exact hne (List.mem_map_of_mem hv)

/-- Units whose identities are new, if they are accepted. -/
theorem accepted_of_answers (hs : ∀ u ∈ us, Separatorless u.identity)
    (hn : (d.taken ++ us.map (·.identity)).Nodup)
    (h : inTree.Answers (d, t) (Calls.accepted us) (d', t')) : Accepted d t us d' t' := by
  induction us generalizing d t with
  | nil =>
      cases h
      exact .refl _ _
  | cons u us ih =>
      obtain ⟨⟨between, tree⟩, hu, ht⟩ := Sink.answers_cons_iff.mp h
      rw [List.map_cons] at hn
      obtain ⟨hnew, -⟩ := List.nodup_cons.mp (List.nodup_middle.mp hn)
      rw [List.mem_append, not_or] at hnew
      have hseparatorless := hs u List.mem_cons_self
      have hoffered := offered_of_run hseparatorless hnew.1 hu
      have htaken : between.taken = d.taken ++ [u.identity] := by cases hoffered <;> rfl
      exact .cons hseparatorless hoffered
        (ih (fun v hv => hs v (List.mem_cons_of_mem _ hv)) (by simpa [htaken] using hn) ht) hnew.2

/-- A unit whose identity is new is refused because its file cannot be written, if those before it
were accepted; in a dry run it is not refused. -/
theorem refused_of_answers {failure : Failure} (hs : ∀ v ∈ us ++ [u], Separatorless v.identity)
    (hn : (d.taken ++ (us ++ [u]).map (·.identity)).Nodup)
    (h : inTree.Answers (d, t) (Calls.accepted us ++ [(u, .error failure)]) (d', t'))
    (rest : List SourceUnit) :
    d.dryRun = false ∧ ∃ reason, failure = .io reason ∧
      ((storeAll d.root (us ++ u :: rest)).run t).1 = .error reason := by
  obtain ⟨⟨between, tree⟩, haccepted, hrefused⟩ := Sink.answers_append_iff.mp h
  rw [List.map_append, ← List.append_assoc] at hn
  have hfirst := accepted_of_answers (fun v hv => hs v (List.mem_append_left _ hv))
    (List.nodup_append.mp hn).1 haccepted
  have hnew : u.identity ∉ between.taken := fun hm => by
    rw [hfirst.taken] at hm
    exact (List.nodup_append.mp hn).2.2 _ hm _ (List.mem_singleton_self _) rfl
  obtain ⟨⟨made, tree'⟩, hu, -⟩ := Sink.answers_cons_iff.mp hrefused
  cases offered_of_run (hs u (List.mem_append_right _ (List.mem_singleton_self _))) hnew hu with
  | failed hwet hstore =>
      rw [hfirst.dryRun] at hwet
      refine ⟨hwet, _, rfl, ?_⟩
      rw [storeAll_append (hfirst.stored hwet), ← hfirst.root]
      exact storeAll_cons_error hstore rest

end OutputDirectory

/-! ### Passes into a directory -/

namespace Generator

variable {g : Generator} {s : Snapshot} {signal : Signal} {turn : Nat → Nat} {p : Pass}
  {d d' : OutputDirectory} {t t' : FileTree}

theorem passWith_inTree_eq_iff :
    (g.passWith s OutputDirectory.inTree signal turn).run (d, t) = (p, d', t') ↔
      ((g.passWith s OutputDirectory.sink signal turn :
        StateT OutputDirectory (StateM FileTree) Pass).run d).run t = ((p, d'), t') :=
  passWith_inState_eq_iff

/-- A pass into a directory is the pass into a unit store, unless a file cannot be written. -/
theorem passWith_directory_cases (hs : ∀ u ∈ g.announced s, Separatorless u.identity)
    (htaken : d.taken = [])
    (h : ((g.passWith s OutputDirectory.sink signal turn :
      StateT OutputDirectory (StateM FileTree) Pass).run d).run t = ((p, d'), t')) :
    ∃ q units, (g.passWith s UnitStore.sink signal turn).run .empty = (q, ⟨units⟩) ∧
      ((d.dryRun = false ∧ ∃ reason, p.outcome = .error (.io reason) ∧
          ((OutputDirectory.storeAll d.root units).run t).1 = .error reason) ∨
        p = q ∧ d.Accepted t units d' t') := by
  obtain ⟨calls, he, ha⟩ := passWith_eq_iff.mp (passWith_inTree_eq_iff.mpr h)
  have hcalls : ∀ u ∈ calls.map Prod.fst, Separatorless u.identity := fun u hu =>
    hs u (he.isPrefix.subset hu)
  have hn : (d.taken ++ (calls.map Prod.fst).map (·.identity)).Nodup := by
    rw [htaken, List.nil_append, List.map_map]
    exact he.nodup_identity
  obtain ⟨q, units, hstore, ⟨rfl, rfl⟩ | ⟨us, u, rest, failure, rfl, rfl, houtcome⟩⟩ :=
    he.store_cases
  · rw [Calls.map_fst_accepted] at hcalls hn
    exact ⟨p, units, hstore, .inr ⟨rfl, OutputDirectory.accepted_of_answers hcalls hn ha⟩⟩
  · rw [List.map_append, Calls.map_fst_accepted] at hcalls hn
    obtain ⟨hwet, reason, rfl, hrefused⟩ :=
      OutputDirectory.refused_of_answers hcalls hn ha rest
    exact ⟨q, _, hstore, .inl ⟨hwet, reason, houtcome, hrefused⟩⟩

end Generator

end Companion
