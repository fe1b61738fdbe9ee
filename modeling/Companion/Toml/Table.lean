import Companion.Settings.Value

/-!
# Toml — tables under construction

Tables come about in four ways: by a header, by a longer header that passes through them, by a
dotted key, or as the next of a list of tables.  A table has one header at most, and what a header,
a key or a list has made is not made again in another way:

* a header may name a table that longer headers have passed through, and no other;
* a dotted key may go on in tables that headers passed through or dotted keys made, and must end in
  one that dotted keys made;
* a header or a dotted key that leads into a list of tables goes on in the last of them.
-/

namespace Companion.Toml

/-- How a table came about. -/
inductive Origin where
  /-- By its header. -/
  | header
  /-- By a longer header. -/
  | passing
  /-- By a dotted key. -/
  | dotted
  deriving DecidableEq, Repr

/-- What stands under a name. -/
inductive Node where
  /-- A value. -/
  | value (v : SettingValue)
  /-- A table. -/
  | table (origin : Origin) (entries : List (String × Node))
  /-- A list of tables. -/
  | tables (each : List (List (String × Node)))

/-- The names of a table, and what stands under them. -/
abbrev Entries := List (String × Node)

namespace Entries

/-- The entries with a name's node replaced, or added at the end. -/
def put (name : String) (node : Node) : Entries → Entries
  | [] => [(name, node)]
  | (n, old) :: es => if n == name then (n, node) :: es else (n, old) :: put name node es

/-- Changes the last of several tables. -/
def changeLast (f : Entries → Option Entries) : List Entries → Option (List Entries)
  | [] => none
  | [es] => (f es).map ([·])
  | es :: more => (changeLast f more).map (es :: ·)

/-- Changes the table that a header leads to. -/
def within (f : Entries → Option Entries) : List String → Entries → Option Entries
  | [], es => f es
  | name :: path, es =>
    match es.lookup name with
    | none => (within f path []).map fun inner => put name (.table .passing inner) es
    | some (.value _) => none
    | some (.table origin old) =>
      (within f path old).map fun inner => put name (.table origin inner) es
    | some (.tables each) =>
      (changeLast (within f path) each).map fun each => put name (.tables each) es

/-- Gives a new name a value. -/
def add (name : String) (v : SettingValue) (es : Entries) : Option Entries :=
  if (es.lookup name).isSome then none else some (put name (.value v) es)

/-- Gives the name at the end of a dotted key a value; `inside` says that the table was made by
dotted keys. -/
def addDotted (name : String) (v : SettingValue) (inside : Bool) :
    List String → Entries → Option Entries
  | [], es => if inside then add name v es else none
  | n :: path, es =>
    match es.lookup n with
    | none => (addDotted name v true path []).map fun inner => put n (.table .dotted inner) es
    | some (.value _) => none
    | some (.table .header _) => none
    | some (.table .passing old) =>
      (addDotted name v false path old).map fun inner => put n (.table .passing inner) es
    | some (.table .dotted old) =>
      (addDotted name v true path old).map fun inner => put n (.table .dotted inner) es
    | some (.tables each) =>
      (changeLast (addDotted name v false path) each).map fun each => put n (.tables each) es

/-- Gives a key a value. -/
def assign (path : List String) (name : String) (v : SettingValue) (es : Entries) :
    Option Entries :=
  if path.isEmpty then add name v es else addDotted name v false path es

/-- A header names a table. -/
def openTable (name : String) (es : Entries) : Option Entries :=
  match es.lookup name with
  | none => some (put name (.table .header []) es)
  | some (.table .passing old) => some (put name (.table .header old) es)
  | _ => none

/-- A header names the next of a list of tables. -/
def openNext (name : String) (es : Entries) : Option Entries :=
  match es.lookup name with
  | none => some (put name (.tables [[]]) es)
  | some (.tables each) => some (put name (.tables (each ++ [[]])) es)
  | _ => none

end Entries

mutual

/-- The value of a node. -/
def Node.toValue : Node → SettingValue
  | .value v => v
  | .table _ entries => .table (entriesToValues entries)
  | .tables each => .list (tablesToValues each)

/-- The values of entries. -/
def entriesToValues : List (String × Node) → List (String × SettingValue)
  | [] => []
  | (name, node) :: es => (name, node.toValue) :: entriesToValues es

/-- The values of tables. -/
def tablesToValues : List (List (String × Node)) → List SettingValue
  | [] => []
  | es :: more => .table (entriesToValues es) :: tablesToValues more

end

end Companion.Toml
