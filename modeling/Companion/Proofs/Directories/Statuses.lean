import Companion.CommandLine.Program
import Companion.Proofs.Directories.Runs
import Companion.Proofs.Passes.Accounting
import Companion.Proofs.Passes.Isolation

/-!
# Directories — the status of the program

The status is read off from failures and reports.  A class that carries an annotation has a unit, or
there is an error about it; so the status says whether each of these classes has been delivered.

* `Generator.Accounts.names` and `Generator.Accounts.length_classes`: no error, no class without a
  unit.
* `Options.hasErrors_eq_false_iff`: when a summary has no errors.
* `Summary.Delivers`: the units of all annotated classes are listed.
* `Options.exists_hasErrors_eq_false_iff`: when a run gives a summary without errors.
* `Options.status_iff`: when the status is 0.
-/

namespace Companion

/-! ### Annotated classes -/

namespace Generator

variable {g : Generator} {s : Snapshot} {drawn identities : List String} {ds : List Declaration}
  {warnings errors : List Diagnostic}

/-- Whether the declaration is a class that carries the annotation. -/
def asks (g : Generator) (d : Declaration) : Bool := g.isAnnotated d && d.kind == .class

/-- Each annotated class has an identity, or there is an error. -/
theorem Accounts.length_classes (h : g.Accounts drawn ds identities warnings errors) :
    identities.length + errors.length = (ds.filter g.asks).length := by
  induction h with
  | nil => rfl
  | other ha _ ih => rw [List.filter_cons_of_neg (by simp [asks, ha]), ih]
  | notAClass ha hk _ _ ih => rw [List.filter_cons_of_neg (by simp [asks, hk]), ih]
  | rejected ha hk _ _ _ _ ih | served ha hk _ _ _ ih =>
      rw [List.filter_cons_of_pos (by simp [asks, ha, hk]), List.length_cons, List.length_cons]
      omega

/-- If there is no error, the identities are those of the annotated classes, in their order. -/
theorem Accounts.names (h : g.Accounts drawn ds identities warnings []) :
    List.Forall₂ (g.Names drawn) (ds.filter g.asks) identities := by
  generalize he : ([] : List Diagnostic) = errors at h
  induction h with
  | nil => exact .nil
  | other ha _ ih =>
      rw [List.filter_cons_of_neg (by simp [asks, ha])]
      exact ih he
  | notAClass ha hk _ _ ih =>
      rw [List.filter_cons_of_neg (by simp [asks, hk])]
      exact ih he
  | rejected => cases he
  | served ha hk _ hn _ ih =>
      rw [List.filter_cons_of_pos (by simp [asks, ha, hk])]
      exact .cons hn (ih he)

/-- The reports about declarations are no errors if no class was rejected. -/
theorem isError_diagnostics_iff (g : Generator) (s : Snapshot) :
    (∀ x ∈ g.diagnostics s, x.isError = false) ↔ g.rejected s = [] := by
  have hskipped : ∀ x ∈ g.skipped s, x.isError = false := by
    rw [skipped_eq]
    intro x hx
    obtain ⟨d, -, hd⟩ := List.mem_filterMap.mp hx
    have hwarning := (hd ▸ g.fate d).of_warning
    simp [Diagnostic.isError, hwarning.severity]
  have hrejected : ∀ x ∈ g.rejected s, x.isError = true := by
    rw [rejected_eq]
    intro x hx
    obtain ⟨d, -, hd⟩ := List.mem_filterMap.mp hx
    obtain ⟨code, -, herror⟩ := (hd ▸ g.fate d).of_error
    simp [Diagnostic.isError, herror.severity]
  rw [diagnostics, List.eq_nil_iff_forall_not_mem]
  constructor
  · intro h x hx
    have hfalse := h x (List.mem_append_right _ hx)
    rw [hrejected x hx] at hfalse
    cases hfalse
  · intro h x hx
    exact (List.mem_append.mp hx).elim (hskipped x) fun hx => absurd hx (h x)

/-- Declarations that are no classes change neither what is asked for nor what is rejected. -/
theorem asked_of_inserted {s' : Snapshot}
    (h : Inserted (fun d => d.kind ≠ .class) s.declarations s'.declarations) :
    g.requests s' = g.requests s ∧ g.rejected s' = g.rejected s := by
  rw [requests_eq, requests_eq, rejected_eq, rejected_eq]
  exact ⟨h.filterMap_eq fun d hd => (Faulty.notAClass hd).requestOf?_eq_none,
    h.filterMap_eq fun d hd => by simp [errorOf?, hd]⟩

end Generator

variable {σ : Type} [FileSystem (StateM σ)] {a b c : σ} {o : Options} {env : Environment.Variables}
  {random : RandomTokens} {settings : Settings} {s s' : Snapshot} {g : Generator}
  {gs : Generators} {x : DirectoryRun} {xs : List DirectoryRun} {summary : Summary}

/-! ### Summaries without errors -/

/-- The pass ran to its end. -/
def DirectoryRun.Succeeded (x : DirectoryRun) : Prop := ∃ report, x.outcome = .ok report

theorem Summary.hasErrors_eq_false_iff :
    summary.hasErrors = false ↔
      ∀ x ∈ summary.passes, x.Succeeded ∧ ∀ d ∈ x.diagnostics, d.isError = false := by
  have hfailure : ∀ x : DirectoryRun, x.failure = none ↔ x.Succeeded := fun x => by
    unfold DirectoryRun.failure DirectoryRun.Succeeded
    cases x.outcome <;> simp
  simp only [hasErrors, failures, diagnostics, Bool.or_eq_false_iff, Bool.not_eq_false',
    List.isEmpty_iff, List.filterMap_eq_nil_iff, List.any_eq_false, List.mem_flatMap,
    forall_exists_index, and_imp, Bool.not_eq_true, hfailure]
  constructor
  · exact fun h x hx => ⟨h.1 x hx, fun d => h.2 d x hx⟩
  · exact fun h => ⟨fun x hx => (h x hx).1, fun d x hx => (h x hx).2 d⟩

namespace Options

/-- The pass of a generator that remembers nothing ends without errors if it runs to its end and
rejects no class. -/
theorem Ran.clean_iff (h : o.Ran s g x) :
    (x.Succeeded ∧ ∀ d ∈ x.diagnostics, d.isError = false) ↔
      x.Succeeded ∧ g.rejected s = [] := by
  refine and_congr_right fun ⟨report, ho⟩ => ?_
  obtain ⟨k, hk, -⟩ := h.leaves
  rw [ho] at hk
  cases hk with
  | completed _ _ _ hdiagnostics =>
      rw [← Generator.isError_diagnostics_iff, ← hdiagnostics, DirectoryRun.diagnostics, ho]

theorem hasErrors_eq_false_iff {n : Nat} (h : List.Forall₂ (o.Ran s) gs xs) :
    Summary.hasErrors ⟨n, xs⟩ = false ↔
      (∀ x ∈ xs, x.Succeeded) ∧ ∀ g ∈ gs, g.rejected s = [] := by
  rw [Summary.hasErrors_eq_false_iff]
  constructor
  · refine fun hclean => ⟨fun x hx => (hclean x hx).1, fun g hg => ?_⟩
    obtain ⟨x, hx, hran⟩ := exists_of_mem_left h hg
    exact (hran.clean_iff.mp (hclean x hx)).2
  · intro ⟨hsucceeded, hrejected⟩ x hx
    obtain ⟨g, hg, hran⟩ := exists_of_mem_right h hx
    exact hran.clean_iff.mpr ⟨hsucceeded x hx, hrejected g hg⟩

end Options

/-! ### Classes that are delivered -/

/-- The summary lists, for the generator's contract, the file of the annotation's unit and then one
for each annotated class, in their order, under an identity that the class can have. -/
def Summary.Delivers (summary : Summary) (o : Options) (s : Snapshot) (g : Generator) : Prop :=
  ∃ identities,
    List.Forall₂ (g.Names (g.tokens.drawnUntil (g.tokensAfter s))) (s.declarations.filter g.asks)
      identities ∧
    (g.contract, (g.definition.identity :: identities).map
      (Path.join (Path.join o.out g.contract.name))) ∈ summary.written

namespace Options

/-- What a pass that ran to its end has written. -/
theorem Ran.written_of_succeeded (h : o.Ran s g x) (hs : x.Succeeded) :
    g.missing? (g.requests s) = none ∧
      x.written = some (g.contract,
        (g.definition.identity :: (g.prepared s).map (·.unit.identity)).map
          (Path.join (Path.join o.out g.contract.name))) := by
  obtain ⟨report, ho⟩ := hs
  obtain ⟨k, hk, hwritten⟩ := h.leaves
  rw [ho] at hk
  cases hk with
  | completed hm _ _ _ =>
      refine ⟨hm, ?_⟩
      rw [DirectoryRun.written, ho, hwritten, List.take_length, h.contract]
      simp [Except.toOption, Generator.announced, pathOf, Function.comp_def]

theorem succeeded_of_written {entry : Contract × List String} (h : x.written = some entry) :
    x.Succeeded := by
  unfold DirectoryRun.written at h
  obtain ⟨report, ho, -⟩ := Option.map_eq_some_iff.mp h
  exact ⟨report, eq_ok_of_toOption ho⟩

/-- A generator that remembers nothing delivers if and only if its pass runs to its end and rejects
no class. -/
theorem delivers_iff {n : Nat} (h : List.Forall₂ (o.Ran s) gs xs)
    (hn : (gs.map (·.contract)).Nodup) (hg : g ∈ gs) (hmemo : g.memo = {}) (hx : x ∈ xs)
    (hran : o.Ran s g x) :
    Summary.Delivers ⟨n, xs⟩ o s g ↔ x.Succeeded ∧ g.rejected s = [] := by
  have hsound : g.Sound [] := Generator.sound_of_memo_eq hmemo
  constructor
  · rintro ⟨identities, hnames, hlisted⟩
    obtain ⟨y, hy, hwritten⟩ := List.mem_filterMap.mp hlisted
    have hsucceeded := succeeded_of_written hwritten
    -- the entry is of the generator's own contract, so its pass is the one
    obtain ⟨g', hg', hran'⟩ := exists_of_mem_right h hy
    obtain ⟨hm, hown⟩ := hran'.written_of_succeeded hsucceeded
    rw [hown] at hwritten
    obtain ⟨hcontract, hpaths⟩ := Prod.mk.inj (Option.some.inj hwritten)
    obtain rfl : g' = g := List.inj_on_of_nodup_map hn hg' hg hcontract
    rw [map_eq_of_forall₂ h fun _ _ hr => hr.contract.symm] at hn
    obtain rfl : y = x := List.inj_on_of_nodup_map hn hy hx
      (hran'.contract.trans hran.contract.symm)
    have hlength : identities.length = ((g'.prepared s).map (·.unit.identity)).length := by
      simpa using (congrArg List.length hpaths).symm
    have haccounts := (hsound.accounts hm).length_classes
    rw [← hlength, ← hnames.length_eq] at haccounts
    exact ⟨hsucceeded, List.length_eq_zero_iff.mp (by omega)⟩
  · rintro ⟨hsucceeded, hrejected⟩
    obtain ⟨hm, hwritten⟩ := hran.written_of_succeeded hsucceeded
    have haccounts := hsound.accounts hm
    rw [hrejected, List.nil_append] at haccounts
    exact ⟨_, haccounts.names, List.mem_filterMap.mpr ⟨x, hx, hwritten⟩⟩

/-- A summary has no errors if and only if every contract delivers. -/
theorem hasErrors_eq_false_iff_delivers {n : Nat} (hfresh : gs.Fresh settings random)
    (h : List.Forall₂ (o.Ran s) gs xs) :
    Summary.hasErrors ⟨n, xs⟩ = false ↔ ∀ g ∈ gs, Summary.Delivers ⟨n, xs⟩ o s g := by
  have hn := hfresh.nodup_contract
  have hmemo : ∀ g ∈ gs, g.memo = {} := fun g hg => by
    obtain ⟨m, -, catalog, rfl⟩ := hfresh.exists_of_mem hg
    rfl
  rw [hasErrors_eq_false_iff h]
  constructor
  · intro ⟨hsucceeded, hrejected⟩ g hg
    obtain ⟨x, hx, hran⟩ := exists_of_mem_left h hg
    exact (delivers_iff h hn hg (hmemo g hg) hx hran).mpr ⟨hsucceeded x hx, hrejected g hg⟩
  · refine fun hdelivers => ⟨fun x hx => ?_, fun g hg => ?_⟩
    · obtain ⟨g, hg, hran⟩ := exists_of_mem_right h hx
      exact ((delivers_iff h hn hg (hmemo g hg) hx hran).mp (hdelivers g hg)).1
    · obtain ⟨x, hx, hran⟩ := exists_of_mem_left h hg
      exact ((delivers_iff h hn hg (hmemo g hg) hx hran).mp (hdelivers g hg)).2

/-! ### Snapshots that differ in what is no class -/

/-- Over the same requests a pass leaves the same state, and runs to its end or not. -/
theorem runOne_of_requests_eq (hr : g.requests s' = g.requests s)
    (h : (o.runOne s g : StateM σ _).run a = (x, b)) :
    ∃ x', (o.runOne s' g : StateM σ _).run a = (x', b) ∧ (x'.Succeeded ↔ x.Succeeded) := by
  obtain ⟨calls, p, he, hx, ha⟩ := exists_ends_of_runOne h
  obtain ⟨p', he', halike⟩ := he.of_requests_eq hr
  refine ⟨_, runOne_run (Generator.passWith_inState_eq_iff.mp
    (Generator.passWith_eq_iff.mpr ⟨calls, he', ha⟩)), ?_⟩
  rw [hx]
  unfold DirectoryRun.Succeeded
  dsimp only
  obtain ⟨houtcome, -, -⟩ := halike
  generalize p.outcome = outcome, p'.outcome = outcome' at houtcome ⊢
  cases houtcome with
  | failed _ => simp
  | reported _ => simp

theorem runAll_of_requests_eq (hr : ∀ g ∈ gs, g.requests s' = g.requests s)
    (h : (o.runAll s gs : StateM σ _).run a = (xs, b)) :
    ∃ xs', (o.runAll s' gs : StateM σ _).run a = (xs', b) ∧
      ((∀ x ∈ xs', x.Succeeded) ↔ ∀ x ∈ xs, x.Succeeded) := by
  induction gs generalizing a xs with
  | nil =>
      cases h
      exact ⟨[], rfl, Iff.rfl⟩
  | cons g gs ih =>
      rcases hone : (o.runOne s g : StateM σ _).run a with ⟨y, c⟩
      rcases hothers : (o.runAll s gs : StateM σ _).run c with ⟨ys, e⟩
      rw [runAll, Sink.run_bind, hone, Sink.run_bind, hothers] at h
      cases h
      obtain ⟨y', hone', hy⟩ := runOne_of_requests_eq (hr g List.mem_cons_self) hone
      obtain ⟨ys', hothers', hys⟩ := ih (fun g hg => hr g (List.mem_cons_of_mem _ hg)) hothers
      refine ⟨y' :: ys', ?_, ?_⟩
      · rw [runAll, Sink.run_bind, hone', Sink.run_bind, hothers']
        rfl
      · rw [List.forall_mem_cons, List.forall_mem_cons, hy, hys]

/-- The passes do not depend on where the snapshot was read from. -/
theorem runAll_withSnapshot (o : Options) (path : String) (s : Snapshot) (gs : Generators) :
    ({ o with snapshot := path }.runAll s gs : StateM σ _) = o.runAll s gs := by
  induction gs with
  | nil => rfl
  | cons g gs ih =>
      rw [runAll, runAll, ih]
      rfl

/-- Declarations that are no classes do not decide whether there are errors. -/
theorem hasErrors_of_inserted {path : String}
    (h : Inserted (fun d => d.kind ≠ .class) s.declarations s'.declarations)
    (hloads : o.Loads env random a settings s gs b)
    (hloads' : { o with snapshot := path }.Loads env random a settings s' gs b)
    (hrun : (o.run env random : StateM σ _).run a = (.ok summary, c)) :
    ∃ summary', ({ o with snapshot := path }.run env random : StateM σ _).run a =
      (.ok summary', c) ∧ summary'.hasErrors = summary.hasErrors := by
  rcases hall : (o.runAll s gs : StateM σ _).run b with ⟨xs, c'⟩
  rw [run_of_loads hloads hall] at hrun
  cases hrun
  obtain ⟨xs', hall', hsucceeded⟩ :=
    runAll_of_requests_eq (fun g _ => (Generator.asked_of_inserted h).1) hall
  refine ⟨⟨s'.declarations.length, xs'⟩, ?_, ?_⟩
  · exact run_of_loads hloads' ((congrFun (runAll_withSnapshot ..) b).trans hall')
  · have hrejected : ∀ g : Generator, g.rejected s' = g.rejected s := fun g =>
      (Generator.asked_of_inserted h).2
    rw [Bool.eq_iff_iff, ← not_iff_not, Bool.not_eq_true, Bool.not_eq_true,
      hasErrors_eq_false_iff (runAll_ran hall'), hasErrors_eq_false_iff (runAll_ran hall),
      hsucceeded]
    simp only [hrejected]

/-! ### The status -/

theorem program_run (style : Style) {words : List String} (h : CommandLine.parse words = .ok o)
    (env : Environment.Variables) (random : RandomTokens) (a : σ) :
    (program style words env random : StateM σ _).run a =
      (.ofRun style o ((o.run env random : StateM σ _).run a).1,
        ((o.run env random : StateM σ _).run a).2) := by
  rw [program, h]
  rfl

theorem status_ofRun (style : Style) (o : Options) (answer : Except RunFault Summary) :
    (Ending.ofRun style o answer).status = 0 ∧
        (∃ summary, answer = .ok summary ∧ summary.hasErrors = false) ∨
      (Ending.ofRun style o answer).status = 1 ∧
        ¬∃ summary, answer = .ok summary ∧ summary.hasErrors = false := by
  cases answer with
  | error fault => exact .inr ⟨rfl, by simp⟩
  | ok summary =>
      cases h : summary.hasErrors with
      | false => exact .inl ⟨by simp [Ending.ofRun, h], summary, rfl, h⟩
      | true => exact .inr ⟨by simp [Ending.ofRun, h], by simp [h]⟩

/-- Each pass is told of once, among the files or among the failures. -/
theorem told_perm (xs : List DirectoryRun) :
    ((xs.filterMap (·.written)).map Prod.fst ++ (xs.filterMap (·.failure)).map Prod.fst).Perm
      (xs.map (·.contract)) := by
  induction xs with
  | nil => exact .nil
  | cons x xs ih =>
      cases ho : x.outcome with
      | ok report =>
          have hw : x.written = some (x.contract, x.directory.written) := by
            rw [DirectoryRun.written, ho]
            rfl
          have hf : x.failure = none := by rw [DirectoryRun.failure, ho]
          rw [List.filterMap_cons_some hw, List.filterMap_cons_none hf]
          exact ih.cons _
      | error failure =>
          have hw : x.written = none := by
            rw [DirectoryRun.written, ho]
            rfl
          have hf : x.failure = some (x.contract, failure.message) := by
            rw [DirectoryRun.failure, ho]
          rw [List.filterMap_cons_none hw, List.filterMap_cons_some hf]
          exact List.perm_middle.trans (ih.cons _)

/-- A run gives a summary without errors if and only if every contract delivers. -/
theorem exists_hasErrors_eq_false_iff :
    (∃ summary, ((o.run env random : StateM σ _).run a).1 = .ok summary ∧
        summary.hasErrors = false) ↔
      ∃ settings s gs b summary c, o.Loads env random a settings s gs b ∧
        (o.run env random : StateM σ _).run a = (.ok summary, c) ∧
        ∀ g ∈ gs, summary.Delivers o s g := by
  constructor
  · rintro ⟨summary, hok, herrors⟩
    have hrun : (o.run env random : StateM σ _).run a = (.ok summary, _) := Prod.ext hok rfl
    obtain ⟨settings, s, gs, b, hloads, xs, hall, rfl⟩ := run_ok_iff.mp hrun
    exact ⟨settings, s, gs, b, _, _, hloads, hrun,
      (hasErrors_eq_false_iff_delivers hloads.fresh (runAll_ran hall)).mp herrors⟩
  · rintro ⟨settings, s, gs, b, summary, c, hloads, hrun, hdelivers⟩
    rcases hall : (o.runAll s gs : StateM σ _).run b with ⟨xs, c'⟩
    rw [run_of_loads hloads hall] at hrun ⊢
    cases hrun
    exact ⟨_, rfl,
      (hasErrors_eq_false_iff_delivers hloads.fresh (runAll_ran hall)).mpr hdelivers⟩

/-- With inputs that can be read, every contract has its pass, and is told of once. -/
theorem exists_run_of_loads (h : o.Loads env random a settings s gs b) :
    ∃ summary c, (o.run env random : StateM σ _).run a = (.ok summary, c) ∧
      summary.passes.map (·.contract) = Contract.all ∧
      (summary.written.map Prod.fst ++ summary.failures.map Prod.fst).Perm Contract.all := by
  rcases hall : (o.runAll s gs : StateM σ _).run b with ⟨xs, c⟩
  have hcontracts := map_eq_of_forall₂ (runAll_ran hall) fun _ _ hr => hr.contract.symm
  rw [h.fresh.map_contract] at hcontracts
  exact ⟨_, _, run_of_loads h hall, hcontracts.symm,
    (told_perm _).trans (.of_eq hcontracts.symm)⟩

/-- **When the status is 0.**  Let the command line be understood, in any file system.

* The status is 0 if the inputs can be read, the generators made and, for each contract, the files
  that are listed are that of the annotation and then one for each annotated class; otherwise it
  is 1.
* If the inputs can be read and the generators made, every contract has its pass, and is told of
  once, among the files or among the failures.
* If another command line names a snapshot with further declarations that are no classes, annotated
  or not, then the status is the same. -/
theorem status_iff (style : Style) {words : List String} (h : CommandLine.parse words = .ok o)
    (env : Environment.Variables) (random : RandomTokens) (a : σ) :
    let status := ((program style words env random : StateM σ _).run a).1.status
    (status = 0 ↔ ∃ settings s gs b summary c, o.Loads env random a settings s gs b ∧
      (o.run env random : StateM σ _).run a = (.ok summary, c) ∧
      ∀ g ∈ gs, summary.Delivers o s g) ∧
    (status ≠ 0 → status = 1) ∧
    ∀ settings s gs b, o.Loads env random a settings s gs b →
      (∃ summary c, (o.run env random : StateM σ _).run a = (.ok summary, c) ∧
        summary.passes.map (·.contract) = Contract.all ∧
        (summary.written.map Prod.fst ++ summary.failures.map Prod.fst).Perm Contract.all) ∧
      ∀ words' path s', CommandLine.parse words' = .ok { o with snapshot := path } →
        { o with snapshot := path }.Loads env random a settings s' gs b →
        Inserted (fun d => d.kind ≠ .class) s.declarations s'.declarations →
        ((program style words' env random : StateM σ _).run a).1.status = status := by
  intro status
  have hstatus : status =
      (Ending.ofRun style o ((o.run env random : StateM σ _).run a).1).status := by
    simp only [status, program_run style h]
  have hcases := status_ofRun style o ((o.run env random : StateM σ _).run a).1
  rw [exists_hasErrors_eq_false_iff, ← hstatus] at hcases
  refine ⟨?_, ?_, fun settings s gs b hloads => ⟨exists_run_of_loads hloads, ?_⟩⟩
  · rcases hcases with ⟨hzero, hdelivers⟩ | ⟨hone, hnone⟩
    · exact iff_of_true hzero hdelivers
    · exact iff_of_false (by rw [hone]; decide) hnone
  · rcases hcases with ⟨hzero, -⟩ | ⟨hone, -⟩
    · exact fun hne => absurd hzero hne
    · exact fun _ => hone
  · intro words' path s' hwords' hloads' hinserted
    obtain ⟨summary, c, hrun, -⟩ := exists_run_of_loads hloads
    obtain ⟨summary', hrun', herrors⟩ := hasErrors_of_inserted hinserted hloads hloads' hrun
    rw [hstatus, program_run style hwords', hrun', hrun]
    simp only [Ending.ofRun, herrors]

/-- The theorem at a class that is served from a template in a directory, and at the same class
after a struct that carries the annotation too. -/
theorem status_iff_cart :
    let template := Template.row ⟨.list, .autoBacked⟩
    let annotations :=
      "[[\"GenerateList\",\"AutoCollection\",[\"collectionType\"],[[\"type\",\"int\"]]]]"
    let cart := "[1,\"class\",\"Cart\",\"Shop\",\"public\",true," ++ annotations ++ "]"
    let point := "[2,\"struct\",\"Point\",\"Shop\",\"public\",true," ++ annotations ++ "]"
    let t : FileTree :=
      { directories := [["templates"]]
        files := [(["one.json"], ("[\"\",[" ++ cart ++ "]]").toUTF8),
          (["two.json"], ("[\"\",[" ++ point ++ "," ++ cart ++ "]]").toUTF8),
          (["templates", "List.Default.txt"], template.content.toUTF8)] }
    let env := [("AUTOCOLLECTION_TEMPLATE_DIR", "templates")]
    let random := (⟨0⟩ : Seed).tokens
    let status := fun words =>
      ((program ⟨false⟩ words env random : StateM FileTree _).run t).1.status
    status ["one.json"] = 0 ∧ status ["two.json"] = status ["one.json"] ∧
      ∃ (settings : Settings) (s : Snapshot) (gs : Generators) (summary : Summary)
        (t' : FileTree),
        gs.Fresh settings random ∧
        (({ snapshot := "one.json" } : Options).run env random : StateM FileTree _).run t =
          (.ok summary, t') ∧
        ∀ g ∈ gs, summary.Delivers { snapshot := "one.json" } s g := by
  intro template annotations cart point t env random status
  let o : Options := { snapshot := "one.json" }
  let class' := Declaration.cart (some "Shop") [.listOf "AutoCollection" "int"]
  let struct : Declaration := { class' with symbol := 2, kind := .struct, name := "Point" }
  have hparse : CommandLine.parse ["one.json"] = .ok o := eq_ok_of_toOption (by decide +kernel)
  have hparse' : CommandLine.parse ["two.json"] = .ok { o with snapshot := "two.json" } :=
    eq_ok_of_toOption (by decide +kernel)
  have hsettings : ((o.settingsSource.load env : StateM FileTree _).run t).1 =
      .ok { templateDir := some "templates" } := by
    decide +kernel
  have hsnapshot : ((Snapshot.load "one.json" : StateM FileTree _).run t).1 =
      .ok { declarations := [class'] } :=
    eq_ok_of_toOption (by decide +kernel)
  have hsnapshot' : ((Snapshot.load "two.json" : StateM FileTree _).run t).1 =
      .ok { declarations := [struct, class'] } :=
    eq_ok_of_toOption (by decide +kernel)
  obtain ⟨catalog, hcatalog⟩ : ∃ catalog,
      ((Catalog.shippedWith (some "templates") : StateM FileTree _).run t).1 = .ok catalog :=
    exists_ok_of_isSome_toOption (by decide +kernel)
  have hzero : status ["one.json"] = 0 := by decide +kernel
  obtain ⟨hiff, -, hinputs⟩ := status_iff ⟨false⟩ hparse env random t
  obtain ⟨-, hsame⟩ := hinputs _ _ _ t (loads_of_inputs random hsettings hsnapshot hcatalog)
  obtain ⟨settings, s, gs, _, summary, t', hloads, hrun, hdelivers⟩ := hiff.mp hzero
  exact ⟨hzero,
    hsame ["two.json"] "two.json" _ hparse' (loads_of_inputs random hsettings hsnapshot' hcatalog)
      (.insert (by decide) (.keep _ .nil)),
    settings, s, gs, summary, t', hloads.fresh, hrun, hdelivers⟩

end Options

end Companion
