import Companion.Files.Path
import Companion.Files.System
import Companion.Json.Format
import Companion.Yaml.Format

/-!
# Data — snapshots in files

A snapshot is read from a file as YAML if the name of the file ends in `.yaml` or `.yml`, in just
this case, and as JSON otherwise.
-/

namespace Companion

/-- Why a snapshot cannot be read. -/
inductive SnapshotFault where
  /-- The file cannot be read, or is no text, for the reason given. -/
  | unreadable (reason : String)
  /-- The text is no snapshot. -/
  | invalid (problem : Problem)

namespace Snapshot

/-- Reads a snapshot from a JSON text. -/
def ofJson (text : String) : Reading Snapshot := Json.decode Snapshot.read text

/-- Reads a snapshot from a YAML text. -/
def ofYaml (text : String) : Reading Snapshot := Yaml.decode Snapshot.read text

/-- Reads a snapshot from the text of a file. -/
def ofFileText (path text : String) : Reading Snapshot :=
  match Path.extension? path with
  | some "yaml" => ofYaml text
  | some "yml" => ofYaml text
  | _ => ofJson text

variable {m : Type → Type} [Monad m] [FileSystem m]

/-- Reads a snapshot from a file. -/
def load (path : String) : m (Except SnapshotFault Snapshot) := do
  match ← (FileSystem.readText path : m (Except String String)) with
  | .error reason => return .error (.unreadable reason)
  | .ok text =>
    match ofFileText path text with
    | .error problem => return .error (.invalid problem)
    | .ok s => return .ok s

end Snapshot

end Companion
