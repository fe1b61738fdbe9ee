import Companion.Decimal.Numeral
import Companion.Settings.Value
import Companion.Text.Parser

/-!
# Settings — keys

A key names a place in a table.  It is a name, or a path: a name followed by further names, each
after a dot, and by numbers in brackets.  A text that is no path is a name as it stands.  Names are
in lower case.

A value is put in its place by `SettingValue.set`.  What stands on the way and is no table, or no
list where a number leads into it, is replaced by an empty one.  A table is merged into the one that
is there, key by key; any other value replaces what is there.
-/

namespace Companion

/-- A step of a path. -/
inductive KeyStep where
  /-- Into a table. -/
  | name (name : String)
  /-- Into a list. -/
  | item (index : Nat)
  deriving DecidableEq, Repr

/-- A place in a table. -/
structure Key where
  /-- The name in the table. -/
  head : String
  /-- The way on from there. -/
  steps : List KeyStep := []
  deriving DecidableEq, Repr

namespace Key

open Text Parser

/-- Whether the character may stand in a name of a path. -/
def isNameChar (c : Char) : Bool := c.isAlphanum || c == ' ' || c == '_' || c == '-'

/-- A step of a path. -/
def step : Parser KeyStep := do
  match ← next with
  | '.' => return .name (lower (String.ofList (← many1 isNameChar)))
  | '[' =>
    let _ ← many (· == ' ')
    let ds ← many1 Char.isDigit
    let _ ← many (· == ' ')
    exactly [']']
    return .item (Decimal.value ds)
  | _ => failure

/-- So many steps at most, up to the end of the text. -/
def onward : Nat → Parser (List KeyStep)
  | 0 => return []
  | n + 1 => do
    if (← rest).isEmpty then return []
    let s ← step
    return s :: (← onward n)

/-- A path. -/
def path (size : Nat) : Parser Key := do
  let head ← many1 isNameChar
  return ⟨lower (String.ofList head), ← onward size⟩

/-- The key that a text stands for. -/
def ofText (s : String) : Key :=
  ((path s.length).runAll? s.toList).getD ⟨lower s, []⟩

end Key

namespace SettingValue

/-- The entries of a table; none if it is no table. -/
def entries : SettingValue → List (String × SettingValue)
  | .table es => es
  | _ => []

/-- The items of a list; none if it is no list. -/
def items : SettingValue → List SettingValue
  | .list vs => vs
  | _ => []

/-- The value of a name. -/
def get? (t : SettingValue) (name : String) : Option SettingValue := t.entries.lookup name

/-- Entries with a name's value replaced, or added at the end. -/
def replaced (name : String) (v : SettingValue) :
    List (String × SettingValue) → List (String × SettingValue)
  | [] => [(name, v)]
  | (n, w) :: es => if n == name then (n, v) :: es else (n, w) :: replaced name v es

/-- The table with a name's value replaced. -/
def put (t : SettingValue) (name : String) (v : SettingValue) : SettingValue :=
  .table (replaced name v t.entries)

mutual

/-- Gives a name a value; a table is merged into what is there. -/
def merge (t : SettingValue) (name : String) : SettingValue → SettingValue
  | .table incoming =>
    t.put (Text.lower name) (mergeAll ((t.get? (Text.lower name)).getD (.table [])) incoming)
  | v => t.put (Text.lower name) v

/-- Gives several names their values. -/
def mergeAll (t : SettingValue) : List (String × SettingValue) → SettingValue
  | [] => t
  | (name, v) :: more => mergeAll (t.merge name v) more

end

/-- What stands in the place of a path once a value has been put there. -/
def arrive (old : SettingValue) : SettingValue → SettingValue
  | .table incoming => mergeAll (.table old.entries) incoming
  | v => v

/-- Puts a value in its place along a path. -/
def follow (v : SettingValue) : List KeyStep → SettingValue → SettingValue
  | [], old => arrive old v
  | .name name :: steps, old => old.put name (follow v steps ((old.get? name).getD .absent))
  | .item i :: steps, old =>
    let padded := old.items ++ List.replicate (i + 1 - old.items.length) .absent
    .list (padded.modify i (follow v steps))

/-- Puts a value in its place. -/
def set (t : SettingValue) (k : Key) (v : SettingValue) : SettingValue :=
  match k.steps with
  | [] => t.merge k.head v
  | steps => t.put k.head (follow v steps ((t.get? k.head).getD .absent))

/-- Puts several values in their places; the later ones go over the earlier. -/
def setAll (t : SettingValue) (values : List (String × SettingValue)) : SettingValue :=
  values.foldl (fun t (k, v) => t.set (.ofText k) v) t

end SettingValue

end Companion
