/-!
# Files — what is asked of a file system

The operations on files that the program needs, in any monad.  An operation that can fail says why
in words, which are only ever shown.
-/

namespace Companion

/-- A file system. -/
class FileSystem (m : Type → Type) where
  /-- Whether the path leads to a file or directory. -/
  isPresent : String → m Bool
  /-- Whether the path leads to a file. -/
  isFile : String → m Bool
  /-- The bytes of a file. -/
  read : String → m (Except String ByteArray)
  /-- Makes a directory and those above it, as far as they are missing. -/
  createDirectories : String → m (Except String Unit)
  /-- Makes or replaces a file. -/
  write : String → String → m (Except String Unit)

namespace FileSystem

variable {m : Type → Type} [Monad m] [FileSystem m]

/-- The text of a file, which must be UTF-8. -/
def readText (path : String) : m (Except String String) := do
  match ← FileSystem.read path with
  | .error reason => pure (.error reason)
  | .ok bytes =>
    match String.fromUTF8? bytes with
    | some text => pure (.ok text)
    | none => pure (.error "stream did not contain valid UTF-8")

end FileSystem

end Companion
