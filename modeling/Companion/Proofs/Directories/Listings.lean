import Companion.Proofs.Directories.Runs
import Companion.Proofs.Directories.Touches

/-!
# Directories — what a run lists

A summary lists the files of the passes that ran to their end.  A pass that ends early has made or
overwritten files too: that of the annotation comes before everything that can go wrong in a pass,
save a file that cannot be written.  These files are not listed.

* `Path.contract_eq_of_join`: the directories of two contracts have no path in common.
* `Generator.Leaves.io_of_none`: which passes that end early leave no file.
* `Options.run_written`: which files a run makes or overwrites, and when these are the files that it
  lists.
-/

namespace Companion

/-! ### Paths -/

namespace Path

/-- A member's path is the directory's, as it is written before a member, and the member. -/
theorem join_eq (directory member : String) :
    join directory member = join directory "" ++ member := by
  rw [join, join]
  split <;> simp [String.append_assoc]

theorem join_of_last {directory : String} {c : Char} (h : directory.toList.getLast? = some c)
    (hc : c ≠ '/') (member : String) : join directory member = directory ++ "/" ++ member := by
  simp [join, h]

theorem getLast?_join_contract (out : String) (c : Contract) :
    (join out c.name).toList.getLast? = some 't' := by
  rw [join_eq, String.toList_append, List.getLast?_append]
  cases c <;> rfl

theorem join_contract (out : String) (c : Contract) (member : String) :
    join (join out c.name) member = join out "" ++ (c.name ++ "/" ++ member) := by
  rw [join_of_last (getLast?_join_contract out c) (by decide), join_eq out c.name]
  simp only [String.append_assoc]

/-- A path below the directory of a contract is not below that of another. -/
theorem contract_eq_of_join {out member member' : String} {c c' : Contract}
    (h : join (join out c.name) member = join (join out c'.name) member') : c = c' := by
  rw [join_contract, join_contract] at h
  have htext := congrArg String.toList h
  simp only [String.toList_append, List.append_cancel_left_eq] at htext
  cases c <;> cases c' <;> first | rfl | simp [Contract.name] at htext

end Path

/-! ### A small example -/

/-- A tree with a template for lists, and a snapshot of a struct and of a class whose unit has the
identity of the annotation's. -/
def FileTree.ofAttribute : FileTree :=
  let annotations :=
    "[[\"GenerateList\",\"AutoCollection\",[\"collectionType\"],[[\"type\",\"int\"]]]]"
  let struct := "[1,\"struct\",\"Point\",\"Shop\",\"public\",true," ++ annotations ++ "]"
  let shadow :=
    "[2,\"class\",\"Attribute\",\"GenerateList\",\"public\",true," ++ annotations ++ "]"
  { directories := [["templates"]]
    files := [(["snapshot.json"], ("[\"\",[" ++ struct ++ "," ++ shadow ++ "]]").toUTF8),
      (["templates", "List.Default.txt"], (Template.row ⟨.list, .autoBacked⟩).content.toUTF8)] }

variable {σ : Type} [FileSystem (StateM σ)] {o : Options} {s : Snapshot} {g : Generator}
  {gs : Generators} {x : DirectoryRun} {notes : List (DirectoryRun × List String)}
  {files : List String} {path : String}

/-! ### Passes that end early -/

/-- A pass that ends early leaves no file only if the annotation's cannot be written. -/
theorem Generator.Leaves.io_of_none {failure : Failure} (h : g.Leaves s (.error failure) 0)
    (hg : g.marker ∈ Annotation.all) : ∃ reason, failure = .io reason := by
  cases h with
  | refused hu hs =>
      obtain rfl := Option.some.inj hu
      have hidentity := Annotation.separatorless_definitionIdentity _ hg
      exact absurd hidentity hs
  | unwritten _ => exact ⟨_, rfl⟩

namespace Options

theorem Wrote.io_of_untouched {failure : Failure} (h : o.Wrote s g x [])
    (hg : g.marker ∈ Annotation.all) (ho : x.outcome = .error failure) :
    ∃ reason, failure = .io reason := by
  obtain ⟨k, hk, hwritten, hfiles⟩ := h.leaves
  rcases hfiles with hfiles | ⟨⟨reason, hio⟩, -⟩
  · obtain rfl : k = 0 := by simpa [hwritten, Generator.announced] using hfiles
    rw [ho] at hk
    exact hk.io_of_none hg
  · rw [ho] at hio
    exact ⟨reason, Except.error.inj hio⟩

/-- If all files could be written, a pass touched those that its directory tells of. -/
theorem Wrote.files_eq (h : o.Wrote s g x files)
    (ho : ∀ reason, x.outcome ≠ .error (.io reason)) : files = x.directory.written := by
  obtain ⟨k, -, -, hfiles | ⟨⟨reason, hio⟩, -⟩⟩ := h.leaves
  · exact hfiles
  · exact absurd hio (ho reason)

theorem Wrote.files_of_ok {report : Report} (h : o.Wrote s g x files)
    (ho : x.outcome = .ok report) : files = x.directory.written :=
  h.files_eq (by simp [ho])

/-- The files of a pass are below the directory of its contract. -/
theorem Wrote.exists_join (h : o.Wrote s g x files) (hp : path ∈ files) :
    ∃ member, path = Path.join (Path.join o.out x.contract.name) member := by
  obtain ⟨k, -, hwritten, hfiles⟩ := h.leaves
  have hannounced : ∃ j, path ∈ ((g.announced s).take j).map (o.pathOf g) := by
    rcases hfiles with rfl | ⟨-, rfl⟩
    · exact ⟨k, hwritten ▸ hp⟩
    · exact ⟨k + 1, hp⟩
  obtain ⟨j, hp⟩ := hannounced
  obtain ⟨u, -, rfl⟩ := List.mem_map.mp hp
  exact ⟨u.identity, by rw [h.contract]; rfl⟩

/-- The files that are listed are those that were touched by passes that ran to their end. -/
theorem exists_listed_iff (hnotes : List.Forall₂ (fun g n => o.Wrote s g n.1 n.2) gs notes) :
    (∃ entry ∈ (notes.map Prod.fst).filterMap (·.written), path ∈ entry.2) ↔
      ∃ n ∈ notes, (∃ report, n.1.outcome = .ok report) ∧ path ∈ n.2 := by
  simp only [List.filterMap_map, List.mem_filterMap, Function.comp_def, DirectoryRun.written,
    Option.map_eq_some_iff]
  constructor
  · rintro ⟨_, ⟨n, hmem, report, ho, rfl⟩, hp⟩
    obtain ⟨g, -, hwrote⟩ := exists_of_mem_right hnotes hmem
    have hok := eq_ok_of_toOption ho
    exact ⟨n, hmem, ⟨report, hok⟩, by rwa [hwrote.files_of_ok hok]⟩
  · rintro ⟨n, hmem, ⟨report, ho⟩, hp⟩
    obtain ⟨g, -, hwrote⟩ := exists_of_mem_right hnotes hmem
    exact ⟨_, ⟨n, hmem, report, by rw [ho]; rfl, rfl⟩, by rwa [← hwrote.files_of_ok ho]⟩

/-- In passes of different contracts, the files that are listed are all that were touched if and
only if the passes that ended early touched none. -/
theorem listed_iff (hnotes : List.Forall₂ (fun g n => o.Wrote s g n.1 n.2) gs notes)
    (hn : (gs.map (·.contract)).Nodup) :
    (∀ path, (∃ n ∈ notes, path ∈ n.2) ↔
        ∃ entry ∈ (notes.map Prod.fst).filterMap (·.written), path ∈ entry.2) ↔
      ∀ n ∈ notes, ∀ failure, n.1.outcome = .error failure → n.2 = [] := by
  rw [map_eq_of_forall₂ hnotes fun _ _ h => h.contract.symm] at hn
  simp only [exists_listed_iff hnotes]
  constructor
  · intro h n hmem failure ho
    refine List.eq_nil_iff_forall_not_mem.mpr fun path hp => ?_
    obtain ⟨n', hmem', ⟨report, hok⟩, hp'⟩ := (h path).mp ⟨n, hmem, hp⟩
    -- the path is below one contract's directory only, so the two passes are one
    obtain ⟨g, -, hwrote⟩ := exists_of_mem_right hnotes hmem
    obtain ⟨g', -, hwrote'⟩ := exists_of_mem_right hnotes hmem'
    obtain ⟨member, hpath⟩ := hwrote.exists_join hp
    obtain ⟨member', hpath'⟩ := hwrote'.exists_join hp'
    obtain rfl : n = n' := List.inj_on_of_nodup_map hn hmem hmem'
      (Path.contract_eq_of_join (hpath.symm.trans hpath'))
    rw [ho] at hok
    cases hok
  · intro h path
    constructor
    · rintro ⟨n, hmem, hp⟩
      cases ho : n.1.outcome with
      | ok report => exact ⟨n, hmem, ⟨report, ho⟩, hp⟩
      | error failure =>
          rw [h n hmem failure ho] at hp
          cases hp
    · rintro ⟨n, hmem, -, hp⟩
      exact ⟨n, hmem, hp⟩

/-- **Which files a run makes or overwrites, and which it lists.**  Let a run that is not dry give a
summary, in any file system; and whichever of the writes that fail touch their file, note the files
that are touched.  That changes nothing of the run.

* The files are, pass by pass, those of the first announced units of each contract: of all of them
  if the pass ran to its end, else of those that were accepted and, if the next one could not be
  written, perhaps of that one too.
* They are the files that the summary lists if and only if no pass that ended early has touched one.
* A pass that ends early has touched none only if the annotation's file cannot be written. -/
theorem run_written {a c : σ} (o : Options) (env : Environment.Variables) (random : RandomTokens)
    (touches : σ → String → String → Bool) {summary : Summary} (hd : o.dryRun = false)
    (h : (o.run env random : StateM σ _).run a = (.ok summary, c)) :
    ∃ (settings : Settings) (s : Snapshot) (gs : Generators) (b : σ)
      (notes : List (DirectoryRun × List String)),
      o.Loads env random a settings s gs b ∧
      (o.run env random : StateM (Noted σ touches) _).run ⟨a, []⟩ =
        (.ok summary, ⟨c, notes.flatMap Prod.snd⟩) ∧
      summary.passes = notes.map Prod.fst ∧
      List.Forall₂ (fun g n => o.Wrote s g n.1 n.2) gs notes ∧
      ((∀ path, path ∈ notes.flatMap Prod.snd ↔ ∃ entry ∈ summary.written, path ∈ entry.2) ↔
        ∀ n ∈ notes, ∀ failure, n.1.outcome = .error failure → n.2 = []) ∧
      ∀ n ∈ notes, ∀ failure, n.1.outcome = .error failure → n.2 = [] →
        ∃ reason, failure = .io reason := by
  obtain ⟨settings, s, gs, b, hloads, xs, hall, rfl⟩ := run_ok_iff.mp h
  obtain ⟨notes, rfl, hnotes, hnoted⟩ := exists_runAll_noted hall hd []
  refine ⟨settings, s, gs, b, notes, hloads, ?_, rfl, hnotes, ?_, ?_⟩
  · exact run_ok_iff.mpr
      ⟨settings, s, gs, _, loads_noted_iff.mpr ⟨b, hloads, rfl⟩, _, hnoted, rfl⟩
  · simp only [List.mem_flatMap]
    exact listed_iff hnotes hloads.fresh.nodup_contract
  · rintro ⟨x, files⟩ hmem failure ho rfl
    obtain ⟨g, hg, hwrote⟩ := exists_of_mem_right hnotes hmem
    obtain ⟨a, ha, catalog, rfl⟩ := hloads.fresh.exists_of_mem hg
    exact hwrote.io_of_untouched ha ho

set_option synthInstance.maxSize 400 in
/-- A run over it: for lists only the annotation's file is written, and then the pass ends. -/
theorem exists_run_ofAttribute :
    ∃ (summary : Summary) (t : FileTree),
      (({ snapshot := "snapshot.json" } : Options).run
          [("AUTOCOLLECTION_TEMPLATE_DIR", "templates")] (⟨0⟩ : Seed).tokens :
          StateM FileTree _).run
        .ofAttribute = (.ok summary, t) ∧
      summary.failures = [(.list, "Identity collision: GenerateList.Attribute.g.cs")] ∧
      summary.written =
        [(.readOnlyList, ["generated/ReadOnlyList/GenerateReadOnlyList.Attribute.g.cs"])] ∧
      summary.diagnostics = [] ∧
      summary.passes.flatMap (·.directory.written) =
        ["generated/ReadOnlyList/GenerateReadOnlyList.Attribute.g.cs",
          "generated/List/GenerateList.Attribute.g.cs"] := by
  have hrun : ((({ snapshot := "snapshot.json" } : Options).run
      [("AUTOCOLLECTION_TEMPLATE_DIR", "templates")] (⟨0⟩ : Seed).tokens : StateM FileTree _).run
        .ofAttribute).1.toOption.map (fun x =>
          (x.failures, x.written, x.diagnostics, x.passes.flatMap (·.directory.written))) =
      some ([(.list, "Identity collision: GenerateList.Attribute.g.cs")],
        [(.readOnlyList, ["generated/ReadOnlyList/GenerateReadOnlyList.Attribute.g.cs"])], [],
        ["generated/ReadOnlyList/GenerateReadOnlyList.Attribute.g.cs",
          "generated/List/GenerateList.Attribute.g.cs"]) := by
    decide +kernel
  obtain ⟨summary, t, hx, htold⟩ := exists_run_of_map hrun
  simp only [Prod.mk.injEq] at htold
  exact ⟨summary, t, hx, htold⟩

/-- The theorem at a class whose unit has the identity of the annotation's, in a tree, where a write
that fails touches nothing: the annotation's file is written, but not listed. -/
theorem run_written_attribute :
    let o : Options := { snapshot := "snapshot.json" }
    let env := [("AUTOCOLLECTION_TEMPLATE_DIR", "templates")]
    let random := (⟨0⟩ : Seed).tokens
    let readOnly := "generated/ReadOnlyList/GenerateReadOnlyList.Attribute.g.cs"
    let list := "generated/List/GenerateList.Attribute.g.cs"
    ∃ (summary : Summary) (t : FileTree),
      (o.run env random : StateM FileTree _).run .ofAttribute = (.ok summary, t) ∧
      (o.run env random : StateM (Noted FileTree fun _ _ _ => false) _).run ⟨.ofAttribute, []⟩ =
        (.ok summary, ⟨t, [readOnly, list]⟩) ∧
      summary.failures = [(.list, "Identity collision: GenerateList.Attribute.g.cs")] ∧
      summary.written = [(.readOnlyList, [readOnly])] := by
  intro o env random readOnly list
  obtain ⟨summary, t, hrun, hfailures, hlisted, -, hall⟩ := exists_run_ofAttribute
  obtain ⟨-, s, gs, -, notes, -, hnoted, hpasses, hnotes, -⟩ :=
    o.run_written env random (fun _ _ _ => false) rfl hrun
  -- no file could not be written, so each pass touched what its directory tells of
  have htouched : notes.flatMap Prod.snd = [readOnly, list] := by
    rw [← hall, hpasses, List.flatMap_map, List.flatMap_def, List.flatMap_def]
    refine congrArg List.flatten (List.map_congr_left fun n hmem => ?_)
    obtain ⟨g, -, hwrote⟩ := exists_of_mem_right hnotes hmem
    refine hwrote.files_eq fun reason hio => ?_
    have hfailed : (n.1.contract, "IO error: " ++ reason) ∈ summary.failures :=
      List.mem_filterMap.mpr ⟨n.1, hpasses ▸ List.mem_map_of_mem hmem, n.1.failure_of_io hio⟩
    rw [hfailures] at hfailed
    exact absurd (second_of_io_message (congrArg Prod.snd (List.mem_singleton.mp hfailed)))
      (by decide)
  rw [htouched] at hnoted
  exact ⟨summary, t, hrun, hnoted, hfailures, hlisted⟩

end Options

end Companion
