import Companion.CommandLine.Summary
import Companion.Data.SnapshotFile
import Companion.Files.Path
import Companion.Generators
import Companion.Settings.Load

/-!
# Command line — a run

A run reads the settings and the snapshot, makes the generators, and lets each contract write into a
directory of its own below the output directory.  What cannot be read ends the run; a contract whose
pass ends early does not.

* `Options.run` is a run.
-/

namespace Companion

/-- Why a run ends before the first pass. -/
inductive RunFault where
  /-- The settings cannot be used. -/
  | settings (fault : SettingsFault)
  /-- The snapshot of this file cannot be read. -/
  | snapshot (path : String) (fault : SnapshotFault)
  /-- The templates cannot be used. -/
  | templates (fault : TemplateFault)

/-- What is wrong with a snapshot's file, in words. -/
def SnapshotFault.message : SnapshotFault → String
  | .unreadable reason => (Failure.io reason).message
  | .invalid problem =>
    (Failure.invalidSnapshot (problem.message?.getD "the text is not well formed")).message

namespace RunFault

/-- What could not be done. -/
def context : RunFault → String
  | .settings _ => "Failed to load configuration"
  | .snapshot path _ => "Failed to load snapshot " ++ path
  | .templates _ => "Failed to prepare generators"

/-- Why it could not be done. -/
def cause : RunFault → String
  | .settings fault => fault.message
  | .snapshot _ fault => fault.message
  | .templates fault => (Failure.template fault).message

/-- The fault in words. -/
def message (f : RunFault) : String := f.context ++ ": " ++ f.cause

end RunFault

namespace Options

variable {m : Type → Type} [Monad m] [FileSystem m]

/-- The directory of a contract, before its pass. -/
def directory (o : Options) (c : Contract) : OutputDirectory :=
  { root := Path.join o.out c.name, dryRun := o.dryRun }

/-- One contract's pass. -/
def runOne (o : Options) (s : Snapshot) (g : Generator) : m DirectoryRun := do
  let (pass, directory) ← (g.pass s OutputDirectory.sink .never).run (o.directory g.contract)
  pure ⟨g.contract, directory, pass.outcome⟩

/-- Every contract's pass, one after the other. -/
def runAll (o : Options) (s : Snapshot) : Generators → m (List DirectoryRun)
  | [] => pure []
  | g :: gs => do
    let one ← runOne o s g
    let others ← runAll o s gs
    pure (one :: others)

/-- Where the settings come from. -/
def settingsSource (o : Options) : SettingsSource := { path := o.config }

/-- A run. -/
def run (o : Options) (env : Environment.Variables) (random : RandomTokens) :
    m (Except RunFault Summary) := do
  match ← (o.settingsSource.load env : m (Except SettingsFault Settings)) with
  | .error fault => return .error (.settings fault)
  | .ok settings =>
    match ← (Snapshot.load o.snapshot : m (Except SnapshotFault Snapshot)) with
    | .error fault => return .error (.snapshot o.snapshot fault)
    | .ok snapshot =>
      match ← (Generators.load settings random : m (Except TemplateFault Generators)) with
      | .error fault => return .error (.templates fault)
      | .ok generators =>
        let passes ← runAll o snapshot generators
        return .ok ⟨snapshot.declarations.length, passes⟩

end Options

end Companion
