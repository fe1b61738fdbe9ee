import Companion.Files.Path
import Companion.Files.System
import Companion.Settings.Basic
import Companion.Settings.Environment
import Companion.Toml.Document

/-!
# Settings — where they come from

Settings come in layers: the defaults, then a file, then environment variables; each goes over the
ones before it, key by key.  A file is read as TOML whatever it is called; if there is none of the
name, the name with `.toml` added is tried.  A file that is missing, or no text, gives nothing; one
that is not well formed is a fault.  What has been put together is checked before it is used.

* `SettingsSource.layered` puts the layers together.
-/

namespace Companion

/-- Where settings come from. -/
structure SettingsSource where
  /-- The file, if one is named. -/
  path : Option String := none
  /-- What the names of environment variables begin with. -/
  mark : String := "AUTOCOLLECTION"
  deriving DecidableEq, Repr

namespace SettingsSource

/-- The layers, put together. -/
def layered (file given : List (String × SettingValue)) : SettingValue :=
  ((SettingValue.table []).setAll file).setAll given

/-- The settings that the layers make, if they can be used. -/
def settings (file given : List (String × SettingValue)) : Except SettingsFault Settings :=
  match Settings.read (layered file given) with
  | .error _ => .error .unreadable
  | .ok s =>
    match s.validate with
    | .error fault => .error fault
    | .ok () => .ok s

/-- A text without a byte order mark at its front. -/
def withoutMark (text : String) : String :=
  match text.toList with
  | '\uFEFF' :: cs => String.ofList cs
  | _ => text

variable {m : Type → Type} [Monad m] [FileSystem m]

/-- The path of the file, if there is one. -/
def file? (path : String) : m (Option String) := do
  if ← FileSystem.isFile path then return some path
  match Path.addExtension? path "toml" with
  | none => return none
  | some other => if ← FileSystem.isFile other then return some other else return none

/-- The text of the file, if there is one and it is a text. -/
def text? (s : SettingsSource) : m (Option String) := do
  match s.path with
  | none => return none
  | some path =>
    match ← (file? path : m (Option String)) with
    | none => return none
    | some found =>
      match ← (FileSystem.readText found : m (Except String String)) with
      | .error _ => return none
      | .ok text => return some (withoutMark text)

/-- Reads, puts together and checks the settings. -/
def load (s : SettingsSource) (env : Environment.Variables) :
    m (Except SettingsFault Settings) := do
  let given := Environment.settings s.mark env
  match ← (s.text? : m (Option String)) with
  | none => return settings [] given
  | some text =>
    match Toml.read? text with
    | none => return .error .unreadable
    | some file => return settings file given

end SettingsSource

end Companion
