import Companion.Files.Path
import Companion.Files.System
import Companion.Settings.Basic
import Companion.UnitStore

/-!
# Output directory — units as files

A sink that writes each unit to a file of its own, named by the identity, in one directory.  An
identity with a path separator is refused, and so is one that was offered before.  In a dry run
nothing is written, and identities are told apart all the same.
-/

namespace Companion

/-- A directory that units are written to. -/
structure OutputDirectory where
  /-- The path of the directory. -/
  root : String
  /-- Whether nothing is to be written. -/
  dryRun : Bool := false
  /-- The paths of the units accepted, in order. -/
  written : List String := []
  /-- The identities offered. -/
  taken : List String := []
  deriving DecidableEq, Repr

namespace OutputDirectory

variable {m : Type → Type} [Monad m] [FileSystem m]

/-- The path of a unit's file. -/
def pathOf (d : OutputDirectory) (u : SourceUnit) : String := Path.join d.root u.identity

/-- Whether the unit may be offered to the file system. -/
def offer (d : OutputDirectory) (u : SourceUnit) : Except Failure OutputDirectory :=
  if hasSeparator u.identity.toList then
    .error (.refused u.identity "identity contains a path separator")
  else if d.taken.contains u.identity then .error (.collision u.identity)
  else .ok { d with taken := d.taken ++ [u.identity] }

/-- The unit is accepted. -/
def accept (d : OutputDirectory) (u : SourceUnit) : OutputDirectory :=
  { d with written := d.written ++ [d.pathOf u] }

/-- Writes a unit's file, after making the directory. -/
def store (d : OutputDirectory) (u : SourceUnit) : m (Except String Unit) := do
  match ← FileSystem.createDirectories d.root with
  | .error reason => pure (.error reason)
  | .ok () => FileSystem.write (d.pathOf u) u.text

/-- The directory as a sink. -/
def sink : Sink (StateT OutputDirectory m) := fun u => do
  match (← get).offer u with
  | .error failure => pure (.error failure)
  | .ok d =>
    set d
    if d.dryRun then
      set (d.accept u)
      pure (.ok ())
    else
      match ← (d.store u : m (Except String Unit)) with
      | .error reason => pure (.error (.io reason))
      | .ok () =>
        set (d.accept u)
        pure (.ok ())

end OutputDirectory

end Companion
