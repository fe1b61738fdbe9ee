import Companion.Proofs.Directories.Sinks
import Companion.Proofs.Directories.Systems
import Companion.Seed

/-!
# Directories — a run of the program

A run lets each contract write into a directory of its own, and these directories are apart.  So a
run tells what the same generators do with a unit store each, and the stores are found as files.

* `DirectoryRun.Matches` and `Summary.Tells`: what is told of one contract's pass, and of all.
* `ContractRun.Fails`: the words in which a pass that ended early is told of.
* `ContractRun.storeAll`: the units of contracts, written one after the other.
* `Options.runOne_cases` and `Options.runAll_cases`: a pass matches unless a file cannot be written.
* `Options.exists_dry` and `Options.exists_wet`: so does a dry run, and one that writes.
* `Options.run_refines`: what a run tells and writes, dry or not.
-/

namespace Companion

variable {t t' : FileTree} {p q : Place} {s : Snapshot} {g : Generator} {gs : Generators}
  {o : Options} {out : String} {r : ContractRun} {runs : List ContractRun} {x : DirectoryRun}
  {xs : List DirectoryRun}

theorem Contract.name_inj {c c' : Contract} (h : c.name = c'.name) : c = c' := by
  cases c <;> cases c' <;> first | rfl | exact absurd h (by decide)

/-! ### What is told of a contract -/

namespace ContractRun

/-- The files of the units in a directory of the contract, if the pass ran to its end: first the
annotation's, then the classes'. -/
def written (out : String) (r : ContractRun) : Option (Contract × List String) :=
  r.outcome.toOption.map fun report =>
    (r.contract,
      (report.definition :: report.published).map (Path.join (Path.join out r.contract.name)))

/-- The reports about declarations. -/
def diagnostics (r : ContractRun) : List Diagnostic :=
  match r.outcome with
  | .ok report => report.diagnostics
  | .error failure => failure.faults

/-- Why the pass ended early, in words, if it did. -/
def failure (r : ContractRun) : Option (Contract × String) :=
  match r.outcome with
  | .ok _ => none
  | .error failure => some (r.contract, failure.message)

/-- The words for a pass into a unit store that ended early, if the host did not ask to stop. -/
inductive Fails (r : ContractRun) : String → Prop where
  /-- Two units have the same identity. -/
  | collision {identity : String} : r.outcome = .error (.collision identity) →
      Fails r ("Identity collision: " ++ identity)
  /-- A template is missing, and the reports gathered before are kept. -/
  | missingTemplate {v : Variant} {faults : List Diagnostic} :
      r.outcome = .error (.missingTemplate (.missingTemplate v) faults) → r.diagnostics = faults →
      Fails r ("Configuration fault: " ++ ("template resource '" ++ v.resource ++
        "' not found for contract " ++ v.contract.name))

/-- The units as files below a place. -/
def filesAt (p : Place) (r : ContractRun) : List (Place × ByteArray) :=
  r.output.units.map fun u => (p ++ [r.contract.name, u.identity], u.text.toUTF8)

theorem exists_of_mem_filesAt {f : Place × ByteArray} (h : f ∈ r.filesAt p) :
    ∃ u ∈ r.output.units, f.1 = p ++ [r.contract.name, u.identity] ∧ f.2 = u.text.toUTF8 := by
  obtain ⟨u, hu, rfl⟩ := List.mem_map.mp h
  exact ⟨u, hu, rfl, rfl⟩

/-- The files of two contracts are in two directories. -/
theorem contract_eq_of_filesAt {r' : ContractRun} {f f' : Place × ByteArray}
    (h : f ∈ r.filesAt p) (h' : f' ∈ r'.filesAt p) (heq : f.1 = f'.1) :
    r.contract = r'.contract := by
  obtain ⟨u, -, hplace, -⟩ := exists_of_mem_filesAt h
  obtain ⟨u', -, hplace', -⟩ := exists_of_mem_filesAt h'
  rw [hplace, hplace'] at heq
  exact Contract.name_inj (List.cons.inj (List.append_cancel_left heq)).1

/-- If there was no file below a place, the files there are the units that were added; other files
stay. -/
theorem bytes?_of_adds (h : t.Adds t' (runs.flatMap (·.filesAt p)))
    (hout : ∀ f ∈ t.files, ¬p <+: f.1) :
    (∀ q bytes, p <+: q → (t'.bytes? q = some bytes ↔ ∃ r ∈ runs, (q, bytes) ∈ r.filesAt p)) ∧
      ∀ q, ¬p <+: q → t'.bytes? q = t.bytes? q := by
  refine ⟨fun q bytes hq => ?_, fun q hq => ?_⟩
  · have hnone : t.bytes? q = none :=
      FileTree.bytes?_eq_none fun f hf heq => hout f hf (heq ▸ hq)
    rw [h.bytes?_eq_some_iff hnone, List.mem_flatMap]
  · refine h.others q fun hm => hq ?_
    obtain ⟨f, hf, rfl⟩ := List.mem_map.mp hm
    obtain ⟨r, -, hf⟩ := List.mem_flatMap.mp hf
    obtain ⟨u, -, hplace, -⟩ := exists_of_mem_filesAt hf
    exact ⟨_, hplace.symm⟩

/-- Writes the units of each contract in a directory of its name, until a file cannot be written. -/
def storeAll (out : String) : List ContractRun → StateM FileTree (Except String Unit)
  | [] => pure (.ok ())
  | r :: rs => do
    match ← OutputDirectory.storeAll (Path.join out r.contract.name) r.output.units with
    | .error reason => pure (.error reason)
    | .ok () => storeAll out rs

theorem storeAll_cons_ok
    (h : (OutputDirectory.storeAll (Path.join out r.contract.name) r.output.units).run t =
      (.ok (), t')) :
    (storeAll out (r :: runs)).run t = (storeAll out runs).run t' := by
  rw [storeAll, Sink.run_bind, h]

theorem storeAll_cons_error {reason : String}
    (h : ((OutputDirectory.storeAll (Path.join out r.contract.name) r.output.units).run t).1 =
      .error reason) : ((storeAll out (r :: runs)).run t).1 = .error reason := by
  rw [storeAll, Sink.run_bind, h]
  rfl

end ContractRun

theorem DirectoryRun.failure_of_io {reason : String} (h : x.outcome = .error (.io reason)) :
    x.failure = some (x.contract, "IO error: " ++ reason) := by
  rw [failure, h]
  rfl

/-- The words for a file that cannot be written are told from others by a letter. -/
theorem second_of_io_message {reason text : String} (h : "IO error: " ++ reason = text) :
    text.toList[1]? = some 'O' := by
  rw [← h, String.toList_append]
  rfl

/-- What is told of a pass into a directory is what is told of a pass into a unit store. -/
structure DirectoryRun.Matches (out : String) (x : DirectoryRun) (r : ContractRun) : Prop where
  /-- The same files are told of. -/
  written : x.written = r.written out
  /-- The same reports are. -/
  diagnostics : x.diagnostics = r.diagnostics
  /-- The same failure is. -/
  failure : x.failure = r.failure

/-- A run tells of a snapshot of so many declarations, and of these passes. -/
structure Summary.Tells (x : Summary) (declarations : Nat) (out : String)
    (runs : List ContractRun) : Prop where
  /-- How many declarations there are. -/
  declarations : x.declarations = declarations
  /-- The files, contract by contract. -/
  written : x.written = runs.filterMap (·.written out)
  /-- The reports, contract by contract. -/
  diagnostics : x.diagnostics = runs.flatMap (·.diagnostics)
  /-- The failures, contract by contract. -/
  failures : x.failures = runs.filterMap (·.failure)

theorem Summary.tells_of_matches {n : Nat} (h : List.Forall₂ (DirectoryRun.Matches out) xs runs) :
    Tells ⟨n, xs⟩ n out runs := by
  refine ⟨rfl, ?_, ?_, ?_⟩
  · have hmap := map_eq_of_forall₂ h fun _ _ hx => hx.written
    simpa [written, List.filterMap_map] using congrArg (List.filterMap id) hmap
  · rw [diagnostics, List.flatMap_def, List.flatMap_def]
    exact congrArg List.flatten (map_eq_of_forall₂ h fun _ _ hx => hx.diagnostics)
  · have hmap := map_eq_of_forall₂ h fun _ _ hx => hx.failure
    simpa [failures, List.filterMap_map] using congrArg (List.filterMap id) hmap

/-! ### Contracts in their directories -/

namespace Generators

/-- What one contract's pass holds: the units that it reports, or the annotation's unit only. -/
theorem runOne_units (g : Generator) (s : Snapshot) :
    (∀ report, (runOne g s .never).1.outcome = .ok report →
      (runOne g s .never).1.output.units.map (·.identity) =
        report.definition :: report.published) ∧
    ∀ failure, (runOne g s .never).1.outcome = .error failure →
      (runOne g s .never).1.output.units = [g.definition] := by
  cases hb : (g.batch s .never id).units with
  | error failure =>
      rw [runOne_of_error hb]
      exact ⟨nofun, fun _ _ => rfl⟩
  | ok ready =>
      rw [runOne_of_ok hb]
      refine ⟨fun report ho => ?_, nofun⟩
      cases ho
      simp [Generator.announced, Generator.prepared_of_batch_ok hb, Generator.definition]

theorem runOne_of_store {p : Generator.Pass} {units : List SourceUnit}
    (h : (g.passWith s UnitStore.sink .never id).run .empty = (p, ⟨units⟩)) :
    (runOne g s .never).1 = ⟨g.contract, ⟨units⟩, p.outcome⟩ := by
  simp only [runOne, Generator.pass, h]

section Fresh

variable {settings : Settings} {random : RandomTokens} {failure : Failure}

theorem Fresh.separatorless (h : Fresh settings random gs) (hsettings : settings.validate = .ok ())
    (hrandom : random.Separatorless) (hs : s.Separatorless) (hg : g ∈ gs) :
    ∀ u ∈ g.announced s, Separatorless u.identity := by
  obtain ⟨a, ha, catalog, rfl⟩ := h.exists_of_mem hg
  exact Generator.separatorless_announced rfl ha hsettings
    (settings.namespaceTokens.separatorless_token (hrandom a)) hs

/-- A pass that ends early has published the annotation's unit, and no other. -/
theorem Fresh.units_of_failure (h : Fresh settings random gs) (hr : r ∈ (run s .never gs).1)
    (ho : r.outcome = .error failure) :
    r.output.units = [r.contract.marker.definition settings.annotationNamespace] := by
  rw [run_eq_map _ s fun _ => rfl] at hr
  obtain ⟨g, hg, rfl⟩ := List.mem_map.mp hr
  obtain ⟨a, ha, catalog, rfl⟩ := h.exists_of_mem hg
  have hmarker : ∀ a ∈ Annotation.all, a.contract.marker = a := by decide
  rw [(runOne_units _ s).2 failure ho]
  change _ = [a.contract.marker.definition _]
  rw [hmarker a ha]
  rfl

/-- It is told of in words that say why. -/
theorem exists_fails (hr : r ∈ (run s .never gs).1) (ho : r.outcome = .error failure) :
    ∃ text, r.Fails text ∧ r.failure = some (r.contract, text) := by
  rw [run_eq_map _ s fun _ => rfl] at hr
  obtain ⟨g, hg, rfl⟩ := List.mem_map.mp hr
  cases hb : (g.batch s .never id).units with
  | ok ready =>
      rw [runOne_of_ok hb] at ho
      cases ho
  | error failure =>
      rw [runOne_of_error hb]
      rcases Generator.batch_error hb with ⟨v, rfl⟩ | rfl | ⟨identity, rfl⟩
      · exact ⟨_, .missingTemplate rfl rfl, rfl⟩
      · have hstops := (Generator.batch_cancelled_iff.mp hb).2
        rw [Generator.stops_of_never fun _ => rfl] at hstops
        cases hstops
      · exact ⟨_, .collision rfl, rfl⟩

end Fresh

end Generators

namespace Options

theorem place_contract (t : FileTree) (out : String) (c : Contract) :
    t.place (Path.join out c.name) = t.place out ++ [c.name] := by
  cases c with
  | readOnlyList => exact FileTree.place_join ⟨by decide, by decide, by decide⟩ (by decide)
  | list => exact FileTree.place_join ⟨by decide, by decide, by decide⟩ (by decide)

/-- One contract's pass matches the one into a unit store, unless a file cannot be written. -/
theorem runOne_cases (o : Options) (t : FileTree)
    (hs : ∀ u ∈ g.announced s, Separatorless u.identity)
    (hr : r = (Generators.runOne g s .never).1) :
    ∃ x t', (o.runOne s g : StateM FileTree _).run t = (x, t') ∧
      ((o.dryRun = false ∧ ∃ reason, x.outcome = .error (.io reason) ∧
          ((OutputDirectory.storeAll (Path.join o.out r.contract.name) r.output.units).run t).1 =
            .error reason) ∨
        x.Matches o.out r ∧ (o.dryRun = true → t' = t) ∧
          (o.dryRun = false →
            (OutputDirectory.storeAll (Path.join o.out r.contract.name) r.output.units).run t =
              (.ok (), t') ∧ t.Adds t' (r.filesAt (t.place o.out)))) := by
  rcases hrun : ((g.pass s OutputDirectory.sink .never).run (o.directory g.contract) :
    StateM FileTree _).run t with ⟨⟨p, d'⟩, t'⟩
  have hfile : (o.directory g.contract).fileOf t = fun u =>
      (t.place o.out ++ [g.contract.name, u.identity], u.text.toUTF8) := by
    funext u
    rw [OutputDirectory.fileOf, directory, place_contract, List.append_assoc]
    rfl
  obtain ⟨q, units, hstore, hcases⟩ := Generator.passWith_directory_cases hs rfl hrun
  have hunits := (Generators.runOne_units g s).1
  rw [Generators.runOne_of_store hstore] at hr hunits
  subst hr
  refine ⟨⟨g.contract, d', p.outcome⟩, t', ?_, ?_⟩
  · rw [runOne, Sink.run_bind, hrun]
    rfl
  · rcases hcases with hio | ⟨rfl, haccepted⟩
    · exact .inl hio
    · have hadds := haccepted.adds
      rw [hfile] at hadds
      refine .inr ⟨⟨?_, rfl, rfl⟩, haccepted.skipped, fun hd => ⟨haccepted.stored hd, hadds hd⟩⟩
      -- the paths are those of the identities that are reported
      rw [DirectoryRun.written, ContractRun.written, haccepted.written]
      cases ho : p.outcome with
      | error failure => rfl
      | ok report =>
          dsimp only [Except.toOption, Option.map_some]
          rw [← hunits report ho, List.map_map]
          rfl

/-- Every contract's pass matches the one into a unit store, unless a file cannot be written. -/
theorem runAll_cases (o : Options) (t : FileTree)
    (hs : ∀ g ∈ gs, ∀ u ∈ g.announced s, Separatorless u.identity)
    (hn : (gs.map (·.contract)).Nodup)
    (hruns : runs = gs.map fun g => (Generators.runOne g s .never).1) :
    ∃ xs t', (o.runAll s gs : StateM FileTree _).run t = (xs, t') ∧
      ((o.dryRun = false ∧ ∃ reason, (∃ x ∈ xs, x.outcome = .error (.io reason)) ∧
          ((ContractRun.storeAll o.out runs).run t).1 = .error reason) ∨
        List.Forall₂ (DirectoryRun.Matches o.out) xs runs ∧ (o.dryRun = true → t' = t) ∧
          (o.dryRun = false → (ContractRun.storeAll o.out runs).run t = (.ok (), t') ∧
            t.Adds t' (runs.flatMap (·.filesAt (t.place o.out))))) := by
  induction gs generalizing t runs with
  | nil =>
      subst hruns
      exact ⟨[], t, rfl, .inr ⟨.nil, fun _ => rfl, fun _ => ⟨rfl, .refl t⟩⟩⟩
  | cons g gs ih =>
      rw [List.map_cons] at hruns
      subst hruns
      rw [List.map_cons, List.nodup_cons] at hn
      obtain ⟨x, made, hone, hfirst⟩ := o.runOne_cases t (hs g List.mem_cons_self) rfl
      obtain ⟨xs, t', hothers, hrest⟩ :=
        ih made (fun g hg => hs g (List.mem_cons_of_mem _ hg)) hn.2 rfl
      refine ⟨x :: xs, t', ?_, ?_⟩
      · rw [runAll, Sink.run_bind, hone, Sink.run_bind, hothers]
        rfl
      · rcases hfirst with ⟨hwet, reason, hio, herror⟩ | ⟨hx, hdry, hwet⟩
        · exact .inl ⟨hwet, reason, ⟨x, List.mem_cons_self, hio⟩,
            ContractRun.storeAll_cons_error herror⟩
        · rcases hrest with ⟨hd, reason, ⟨y, hy, hio⟩, herror⟩ | ⟨hxs, hdrys, hwets⟩
          · refine .inl ⟨hd, reason, ⟨y, List.mem_cons_of_mem _ hy, hio⟩, ?_⟩
            rw [ContractRun.storeAll_cons_ok (hwet hd).1]
            exact herror
          · refine .inr ⟨.cons hx hxs, fun hd => (hdrys hd).trans (hdry hd), fun hd => ?_⟩
            obtain ⟨hstored, hadd⟩ := hwet hd
            obtain ⟨hstoreds, hadds⟩ := hwets hd
            rw [FileTree.place_congr hadd.here] at hadds
            refine ⟨(ContractRun.storeAll_cons_ok hstored).trans hstoreds,
              hadd.trans hadds fun q hq hm => ?_⟩
            obtain ⟨f, hf, rfl⟩ := List.mem_map.mp hq
            obtain ⟨f', hf', heq⟩ := List.mem_map.mp hm
            obtain ⟨r, hr, hf'⟩ := List.mem_flatMap.mp hf'
            obtain ⟨g', hg', rfl⟩ := List.mem_map.mp hr
            have hcontract := ContractRun.contract_eq_of_filesAt hf hf' heq.symm
            exact hn.1 (List.mem_map.mpr ⟨g', hg', hcontract.symm⟩)

/-- Reading leaves a tree as it is, so every generator has the same templates. -/
theorem load_of_catalog {settings : Settings} {random : RandomTokens} {catalog : Catalog}
    (hcatalog :
      ((Catalog.shippedWith settings.templateDir : StateM FileTree _).run t).1 = .ok catalog) :
    (Generators.load settings random : StateM FileTree _).run t =
      (.ok (.create settings catalog random), t) := by
  have hread : (Catalog.shippedWith settings.templateDir : StateM FileTree _).run t =
      (.ok catalog, t) := Prod.ext hcatalog (Catalog.readOnly_shippedWith _ t)
  rw [Generators.load, Generators.create]
  generalize Annotation.all = markers
  induction markers with
  | nil => rfl
  | cons marker markers ih =>
      exact Generators.loadAll_cons_ok_iff.mpr
        ⟨_, t, _, Generator.load_ok_iff.mpr ⟨catalog, hread, rfl⟩, ih, rfl⟩

/-- The inputs can be read one by one. -/
theorem loads_of_inputs {env : Environment.Variables} {settings : Settings} {catalog : Catalog}
    (random : RandomTokens)
    (hsettings : ((o.settingsSource.load env : StateM FileTree _).run t).1 = .ok settings)
    (hsnapshot : ((Snapshot.load o.snapshot : StateM FileTree _).run t).1 = .ok s)
    (hcatalog :
      ((Catalog.shippedWith settings.templateDir : StateM FileTree _).run t).1 = .ok catalog) :
    o.Loads env random t settings s (.create settings catalog random) t :=
  ⟨t, t, Prod.ext hsettings (SettingsSource.readOnly_load _ _ t),
    Prod.ext hsnapshot (Snapshot.readOnly_load _ t), load_of_catalog hcatalog⟩

section Loaded

variable {env : Environment.Variables} {random : RandomTokens} {settings : Settings}

/-- A dry run tells of the passes into unit stores, and leaves the tree as it is. -/
theorem exists_dry (hd : o.dryRun = true) (hloads : o.Loads env random t settings s gs t)
    (hs : ∀ g ∈ gs, ∀ u ∈ g.announced s, Separatorless u.identity)
    (hruns : runs = gs.map fun g => (Generators.runOne g s .never).1) :
    ∃ dry : Summary, (o.run env random : StateM FileTree _).run t = (.ok dry, t) ∧
      dry.Tells s.declarations.length o.out runs := by
  obtain ⟨xs, t', hall, ⟨hwet, -⟩ | ⟨hmatches, htree, -⟩⟩ :=
    runAll_cases o t hs hloads.fresh.nodup_contract hruns
  · rw [hd] at hwet
    cases hwet
  · obtain rfl := htree hd
    exact ⟨_, run_of_loads hloads hall, Summary.tells_of_matches hmatches⟩

/-- A run that writes tells of the same passes and leaves their units as files, or a contract fails
since a file cannot be written. -/
theorem exists_wet (hd : o.dryRun = false) (hloads : o.Loads env random t settings s gs t)
    (hs : ∀ g ∈ gs, ∀ u ∈ g.announced s, Separatorless u.identity)
    (hruns : runs = gs.map fun g => (Generators.runOne g s .never).1)
    (hout : ∀ f ∈ t.files, ¬t.place o.out <+: f.1) :
    ∃ (wet : Summary) (t' : FileTree),
      (o.run env random : StateM FileTree _).run t = (.ok wet, t') ∧
      (((ContractRun.storeAll o.out runs).run t).1 = .ok () →
        wet.Tells s.declarations.length o.out runs ∧
        (∀ q bytes, t.place o.out <+: q →
          (t'.bytes? q = some bytes ↔ ∃ r ∈ runs, (q, bytes) ∈ r.filesAt (t.place o.out))) ∧
        ∀ q, ¬t.place o.out <+: q → t'.bytes? q = t.bytes? q) ∧
      ∀ reason, ((ContractRun.storeAll o.out runs).run t).1 = .error reason →
        ∃ c, (c, "IO error: " ++ reason) ∈ wet.failures := by
  obtain ⟨xs, t', hall, hcases⟩ := runAll_cases o t hs hloads.fresh.nodup_contract hruns
  refine ⟨_, t', run_of_loads hloads hall, ?_⟩
  rcases hcases with ⟨-, reason, ⟨x, hx, hio⟩, herror⟩ | ⟨hmatches, -, hwet⟩
  · refine ⟨fun hok => ?_, fun reason' herror' => ?_⟩
    · rw [herror] at hok
      cases hok
    · rw [herror] at herror'
      cases herror'
      exact ⟨x.contract, List.mem_filterMap.mpr ⟨x, hx, DirectoryRun.failure_of_io hio⟩⟩
  · obtain ⟨hstored, hadds⟩ := hwet hd
    refine ⟨fun _ => ⟨Summary.tells_of_matches hmatches, ContractRun.bytes?_of_adds hadds hout⟩,
      fun reason herror => ?_⟩
    rw [hstored] at herror
    cases herror

end Loaded

/-- **A run does what its generators do with a unit store each.**  Let there be settings, a snapshot
and templates that can be read, no separator in a name or namespace of the snapshot nor in a random
token, and no file in the output directory; and let the generators for these settings, templates and
tokens each run by itself.

* A dry run tells of their passes, contract by contract, and leaves the tree as it is.
* If the units of all contracts can be written, a run that writes tells of the same passes.  Then
  the files in the output directory are these units, each in the directory of its contract, and
  other files stay.  If one of them cannot be written, a contract fails for that reason.
* The units of a pass that ends early are that of the annotation only, and it is told of in words
  that say which identity occurs twice, or which template is missing. -/
theorem run_refines (o : Options) (env : Environment.Variables) (random : RandomTokens)
    (t : FileTree) {settings : Settings} {s : Snapshot} {catalog : Catalog}
    (hrandom : random.Separatorless)
    (hsettings : ((o.settingsSource.load env : StateM FileTree _).run t).1 = .ok settings)
    (hsnapshot : ((Snapshot.load o.snapshot : StateM FileTree _).run t).1 = .ok s)
    (hcatalog :
      ((Catalog.shippedWith settings.templateDir : StateM FileTree _).run t).1 = .ok catalog)
    (hs : s.Separatorless) (hout : ∀ f ∈ t.files, ¬t.place o.out <+: f.1) :
    let runs := (Generators.run s .never (.create settings catalog random)).1
    runs.map (·.contract) = Contract.all ∧
    (∀ r ∈ runs, ∀ failure, r.outcome = .error failure →
      r.output.units = [r.contract.marker.definition settings.annotationNamespace] ∧
      ∃ text, r.Fails text ∧ r.failure = some (r.contract, text)) ∧
    (∃ dry : Summary,
      ({ o with dryRun := true }.run env random : StateM FileTree _).run t = (.ok dry, t) ∧
      dry.Tells s.declarations.length o.out runs) ∧
    ∃ (wet : Summary) (t' : FileTree),
      ({ o with dryRun := false }.run env random : StateM FileTree _).run t = (.ok wet, t') ∧
      (((ContractRun.storeAll o.out runs).run t).1 = .ok () →
        wet.Tells s.declarations.length o.out runs ∧
        (∀ q bytes, t.place o.out <+: q →
          (t'.bytes? q = some bytes ↔ ∃ r ∈ runs, (q, bytes) ∈ r.filesAt (t.place o.out))) ∧
        ∀ q, ¬t.place o.out <+: q → t'.bytes? q = t.bytes? q) ∧
      ∀ reason, ((ContractRun.storeAll o.out runs).run t).1 = .error reason →
        ∃ c, (c, "IO error: " ++ reason) ∈ wet.failures := by
  intro runs
  have hfresh := Generators.fresh_create settings catalog random
  have hruns : runs = (Generators.create settings catalog random).map fun g =>
      (Generators.runOne g s .never).1 := Generators.run_eq_map _ s fun _ => rfl
  have hseparatorless : ∀ g ∈ Generators.create settings catalog random,
      ∀ u ∈ g.announced s, Separatorless u.identity := fun g hg =>
    hfresh.separatorless (SettingsSource.validate_of_load hsettings) hrandom hs hg
  have hloads : o.Loads env random t settings s (.create settings catalog random) t :=
    loads_of_inputs random hsettings hsnapshot hcatalog
  refine ⟨?_, ?_, ?_, ?_⟩
  · rw [hruns, List.map_map]
    exact hfresh.map_contract
  · exact fun r hr failure ho =>
      ⟨hfresh.units_of_failure hr ho, Generators.exists_fails hr ho⟩
  -- the inputs are the same, dry or not
  · exact exists_dry rfl hloads hseparatorless hruns
  · exact exists_wet rfl hloads hseparatorless hruns hout

end Options

/-- The tokens of a seed are hexadecimal digits. -/
theorem Seed.separatorless_tokens (seed : Seed) : seed.tokens.Separatorless := fun _ _ =>
  (separatorless_hex 16 _).append (separatorless_hex 16 _)

namespace Options

/-- The theorem at a class that is served from a template in a directory, and one whose unit has the
identity of an annotation's. -/
theorem run_refines_cart :
    let annotation := fun name =>
      "[[\"" ++ name ++ "\",\"AutoCollection\",[\"collectionType\"],[[\"type\",\"int\"]]]]]"
    let cart := "[1,\"class\",\"Cart\",\"Shop\",\"public\",true," ++ annotation "GenerateList"
    let shadow := "[2,\"class\",\"Attribute\",\"GenerateReadOnlyList\",\"public\",true," ++
      annotation "GenerateReadOnlyList"
    let snapshot := "[\"\",[" ++ cart ++ "," ++ shadow ++ "]]"
    let t : FileTree :=
      { directories := [["templates"]]
        files := [(["snapshot.json"], snapshot.toUTF8),
          (["templates", "List.Default.txt"],
            (Template.row ⟨.list, .autoBacked⟩).content.toUTF8),
          (["templates", "ReadOnlyList.Default.txt"],
            (Template.row ⟨.readOnlyList, .autoBacked⟩).content.toUTF8)] }
    let o : Options := { snapshot := "snapshot.json" }
    let env := [("AUTOCOLLECTION_TEMPLATE_DIR", "templates")]
    let random := (⟨0⟩ : Seed).tokens
    ∃ (dry wet : Summary) (t' : FileTree),
      ({ o with dryRun := true }.run env random : StateM FileTree _).run t = (.ok dry, t) ∧
      (o.run env random : StateM FileTree _).run t = (.ok wet, t') ∧
      wet.written =
        [(.list, ["generated/List/GenerateList.Attribute.g.cs",
          "generated/List/Shop.Cart.g.cs"])] ∧
      wet.failures =
        [(.readOnlyList, "Identity collision: GenerateReadOnlyList.Attribute.g.cs")] ∧
      dry.written = wet.written ∧ dry.failures = wet.failures ∧
      ∀ q, ¬["generated"] <+: q → t'.bytes? q = t.bytes? q := by
  intro annotation cart shadow snapshot t o env random
  let s : Snapshot :=
    { declarations := [.cart (some "Shop") [.listOf "AutoCollection" "int"],
        ⟨2, .class, "Attribute", some "GenerateReadOnlyList", .public, true,
          [⟨"GenerateReadOnlyList", "AutoCollection", ["collectionType"], [.type "int"]⟩]⟩] }
  have hsettings : ((o.settingsSource.load env : StateM FileTree _).run t).1 =
      .ok { templateDir := some "templates" } := by
    decide +kernel
  have hsnapshot : ((Snapshot.load o.snapshot : StateM FileTree _).run t).1 = .ok s :=
    eq_ok_of_toOption (by decide +kernel)
  obtain ⟨catalog, hcatalog⟩ : ∃ catalog,
      ((Catalog.shippedWith (some "templates") : StateM FileTree _).run t).1 = .ok catalog :=
    exists_ok_of_isSome_toOption (by decide +kernel)
  have hs : s.Separatorless := by
    unfold Snapshot.Separatorless
    decide +kernel
  obtain ⟨-, -, ⟨dry, hdry, hdrytells⟩, wet, t', hwet, htells, hfails⟩ :=
    run_refines o env random t (Seed.separatorless_tokens ⟨0⟩) hsettings hsnapshot hcatalog hs
      (by decide +kernel)
  have hrun : (((o.run env random : StateM FileTree _).run t).1.toOption.map fun x =>
      (x.written, x.failures)) =
        some ([(.list, ["generated/List/GenerateList.Attribute.g.cs",
            "generated/List/Shop.Cart.g.cs"])],
          [(.readOnlyList, "Identity collision: GenerateReadOnlyList.Attribute.g.cs")]) := by
    decide +kernel
  have hwet' : (o.run env random : StateM FileTree _).run t = (.ok wet, t') := hwet
  rw [hwet'] at hrun
  obtain ⟨hwritten, hfailures⟩ := Prod.mk.inj (Option.some.inj hrun)
  -- the only contract that fails does so for another reason, so each unit can be written
  obtain ⟨hwettells, -, hothers⟩ := htells <| by
    rcases hstored : ((ContractRun.storeAll o.out _).run t).1 with reason | ⟨⟩
    · obtain ⟨c, hc⟩ := hfails reason hstored
      rw [hfailures] at hc
      exact absurd (second_of_io_message (congrArg Prod.snd (List.mem_singleton.mp hc)))
        (by decide)
    · rfl
  have hplace : t.place o.out = ["generated"] := by decide +kernel
  rw [hplace] at hothers
  exact ⟨dry, wet, t', hdry, hwet', hwritten, hfailures,
    hdrytells.written.trans hwettells.written.symm,
    hdrytells.failures.trans hwettells.failures.symm, hothers⟩

end Options

end Companion
