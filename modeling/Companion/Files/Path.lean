import Companion.Text.Pieces

/-!
# Files — paths

A path is a text whose names are parted by slashes.  Joining, and reading the last name or its
extension, are operations on the text: nothing is looked up, and nothing is normalised.
-/

namespace Companion.Path

/-- The pieces between the slashes. -/
def names (path : String) : List String := (Text.pieces '/' path.toList).map String.ofList

/-- The path of a member of a directory: one slash between them, none after an empty path or a
slash. -/
def join (directory member : String) : String :=
  match directory.toList.getLast? with
  | none | some '/' => directory ++ member
  | some _ => directory ++ "/" ++ member

/-- Whether the path starts at the root. -/
def isAbsolute (path : String) : Bool := path.toList.head? == some '/'

/-- The path as a list of characters from the end, without trailing slashes and dots that stand
alone. -/
def trimmedReverse : List Char → List Char
  | '/' :: r => trimmedReverse r
  | '.' :: '/' :: r => trimmedReverse r
  | r => r

/-- The path without trailing slashes and dots that stand alone. -/
def trimmed (path : String) : String :=
  String.ofList (trimmedReverse path.toList.reverse).reverse

/-- The last name of the path; none if the path ends in a dot or two that stand alone. -/
def fileName? (path : String) : Option String :=
  match (names (trimmed path)).getLast? with
  | none => none
  | some name => if name == "" || name == "." || name == ".." then none else some name

/-- What follows the last dot of the last name, unless the dot is its first character. -/
def extension? (path : String) : Option String :=
  match fileName? path with
  | none => none
  | some name =>
    let reversed := name.toList.reverse
    match reversed.dropWhile (· != '.') with
    | _ :: _ :: _ => some (String.ofList (reversed.takeWhile (· != '.')).reverse)
    | _ => none

/-- The path with an extension added to its last name. -/
def addExtension? (path extension : String) : Option String :=
  (fileName? path).map fun _ => trimmed path ++ "." ++ extension

end Companion.Path
