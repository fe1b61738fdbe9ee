import Companion.Files.Path
import Companion.Files.System

/-!
# Files — a file system as a value

A tree of directories and files, and a current directory.  A path is followed name by name from the
root or the current directory: an empty name and a dot stay, two dots go up, and any other name must
be a directory unless it is the last.  A name of more than 255 bytes, a path of 4096 bytes or more,
and a path with a NUL lead nowhere.
-/

namespace Companion

/-- Where a directory or file is: the names from the root. -/
abbrev Place := List String

/-- Directories, files and the current directory. -/
structure FileTree where
  /-- The directories, apart from the root. -/
  directories : List Place := []
  /-- The files with their bytes. -/
  files : List (Place × ByteArray) := []
  /-- The current directory. -/
  here : Place := []

namespace FileTree

/-- What a path leads to. -/
inductive Target where
  /-- A directory. -/
  | directory (place : Place)
  /-- A file. -/
  | file (place : Place) (bytes : ByteArray)
  /-- Nothing yet, but the directory above is there. -/
  | absent (place : Place)

/-- Whether there is a directory. -/
def isDirectory (t : FileTree) (p : Place) : Bool := p.isEmpty || t.directories.contains p

/-- The bytes of a file. -/
def bytes? (t : FileTree) (p : Place) : Option ByteArray := t.files.lookup p

/-- Whether a name may be looked up. -/
def isName (name : String) : Bool := name.utf8ByteSize ≤ 255

/-- Whether a path may be followed. -/
def isPath (path : String) : Bool :=
  !path.isEmpty && path.utf8ByteSize < 4096 && !path.toList.contains '\x00'

/-- Follows names from a directory. -/
def follow (t : FileTree) (p : Place) : List String → Option Target
  | [] => some (.directory p)
  | name :: rest =>
    if name == "" || name == "." then follow t p rest
    else if name == ".." then follow t p.dropLast rest
    else if !isName name then none
    else
      let q := p ++ [name]
      if t.isDirectory q then follow t q rest
      else match t.bytes? q, rest with
        | some bytes, [] => some (.file q bytes)
        | none, [] => some (.absent q)
        | _, _ => none

/-- The directory that a path starts from. -/
def origin (t : FileTree) (path : String) : Place := if Path.isAbsolute path then [] else t.here

/-- What a path leads to. -/
def target? (t : FileTree) (path : String) : Option Target :=
  if isPath path then t.follow (t.origin path) (Path.names path) else none

/-- Makes the directories that names lead through; what was made stays also if that fails. -/
def make (t : FileTree) (p : Place) : List String → FileTree × Except String Unit
  | [] => (t, .ok ())
  | name :: rest =>
    if name == "" || name == "." then make t p rest
    else if name == ".." then make t p.dropLast rest
    else if !isName name then (t, .error "File name too long")
    else
      let q := p ++ [name]
      if t.isDirectory q then make t q rest
      else if (t.bytes? q).isSome then (t, .error "Not a directory")
      else make { t with directories := q :: t.directories } q rest

/-- Makes or replaces a file. -/
def put (t : FileTree) (p : Place) (bytes : ByteArray) : FileTree :=
  { t with files := (p, bytes) :: t.files.filter fun f => f.1 != p }

/-- Whether a path leads to a file or directory. -/
def isPresent (t : FileTree) (path : String) : Bool :=
  match t.target? path with
  | some (.directory _) | some (.file _ _) => true
  | _ => false

/-- Whether a path leads to a file. -/
def isFile (t : FileTree) (path : String) : Bool :=
  match t.target? path with
  | some (.file _ _) => true
  | _ => false

/-- The bytes of the file that a path leads to. -/
def read (t : FileTree) (path : String) : Except String ByteArray :=
  match t.target? path with
  | some (.file _ bytes) => .ok bytes
  | some (.directory _) => .error "Is a directory"
  | _ => .error "No such file or directory"

/-- Makes a directory and those above it; an empty path asks for nothing. -/
def createDirectories (t : FileTree) (path : String) : FileTree × Except String Unit :=
  if path.isEmpty then (t, .ok ())
  else if isPath path then t.make (t.origin path) (Path.names path)
  else (t, .error "Invalid path")

/-- Makes or replaces the file that a path leads to. -/
def write (t : FileTree) (path text : String) : FileTree × Except String Unit :=
  match t.target? path with
  | some (.file p _) | some (.absent p) => (t.put p text.toUTF8, .ok ())
  | some (.directory _) => (t, .error "Is a directory")
  | none => (t, .error "No such file or directory")

/-- The files below the current directory, with their paths from there. -/
def listing (t : FileTree) : List (String × ByteArray) :=
  t.files.filterMap fun (p, bytes) =>
    if t.here.isPrefixOf p then some ("/".intercalate (p.drop t.here.length), bytes) else none

instance : FileSystem (StateM FileTree) where
  isPresent path := fun t => (t.isPresent path, t)
  isFile path := fun t => (t.isFile path, t)
  read path := fun t => (t.read path, t)
  createDirectories path := fun t => let (t, r) := t.createDirectories path; (r, t)
  write path text := fun t => let (t, r) := t.write path text; (r, t)

end FileTree

end Companion
