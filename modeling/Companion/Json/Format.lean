import Companion.Data.Schema
import Companion.Json.Document

/-!
# Json — values read from JSON

What is read from a JSON value, and which problem is reported.  A record is an object of its fields
in any order, or a list of them in their own order.  Unknown fields of an object are passed over,
and only have to be JSON; a known field may be there once.  In a list, fields with defaults may be
left off at the end.

A name from a choice may also be the only name of an object whose value is null.  A tagged value is
an object or a list of tag and content.  In an object the content may come before the tag; it is
then kept until the tag is known.

* `decode` reads a value from a text: of several problems, the first in the text counts.
-/

namespace Companion.Json

/-- What the value is, in a report; none if it cannot be read at all. -/
def found? : Json → Option Found
  | .null => some .null
  | .boolean b => some (.boolean b)
  | .number (.natural n) => some (.integer n.toNat)
  | .number (.negative n) => some (.integer (-n))
  | .number (.real x) => some (.real x)
  | .number .tooLarge => none
  | .string s => s.map .string
  | .array _ => some .sequence
  | .object _ => some .map
  | .deep _ => none
  | .broken => none

/-- The value is not of the type expected. -/
def mismatch {α : Type} (expected : Expected) (j : Json) : Reading α :=
  match j.found? with
  | some found => .error (.invalidType found expected)
  | none => .error .malformed

/-- Reads a string. -/
def readText (expected : Expected) : Json → Reading String
  | .string (some s) => .ok s
  | j => j.mismatch expected

/-- Reads a truth value. -/
def readFlag : Json → Reading Bool
  | .boolean b => .ok b
  | j => j.mismatch .flag

/-- Reads a natural number. -/
def readNatural : Json → Reading UInt64
  | .number (.natural n) => .ok n
  | .number (.negative n) => .error (.invalidValue (.integer (-n)) .natural)
  | j => j.mismatch .natural

/-- Reads a value that may be null. -/
def readOptional {α : Type} (read : Json → Reading α) : Json → Reading (Option α)
  | .null => .ok none
  | j => some <$> read j

/-- Reads a list. -/
def readList {α : Type} (read : Json → Reading α) : Json → Reading (List α)
  | .array items => items.mapM read
  | j => j.mismatch .list

/-! ### Choices -/

/-- The choice of a name. -/
def pick {α : Type} (options : List (String × α)) (name : String) : Reading α :=
  match options.lookup name with
  | some a => .ok a
  | none => .error (.unknownVariant name (options.map (·.1)))

/-- Reads one of several names. -/
def readChoice {α : Type} (options : List (String × α)) : Json → Reading α
  | .string (some name) => pick options name
  | .object ((some name, j) :: others) =>
    match pick options name, j with
    | .error problem, _ => .error problem
    | .ok a, .null => if others.isEmpty then .ok a else .error .malformed
    | .ok _, j => j.mismatch .unit
  | _ => .error .malformed

/-! ### Records -/

/-- The place and the value of a member, the first member having place `i`. -/
def member? (name : String) : Nat → List (Option String × Json) → Option (Nat × Json)
  | _, [] => none
  | i, (some n, j) :: ms => if n = name then some (i, j) else member? name (i + 1) ms
  | i, (none, _) :: ms => member? name (i + 1) ms

/-- The fields of an object. -/
def namedFields (members : List (Option String × Json)) : Fields Json where
  get? name := member? name 0 members
  missing name := ⟨members.length, .missingField name⟩
  byName := true

/-- The first thing that is wrong with the names of an object, or with a member that is passed over.
`seen` are the names that have been there. -/
def stray? (names : List String) : Nat → List String → List (Option String × Json) → Option Fault
  | _, _, [] => none
  | i, _, (none, _) :: _ => some ⟨i, .malformed⟩
  | i, seen, (some n, j) :: ms =>
    if names.contains n then
      if seen.contains n then some ⟨i, .duplicateField n⟩ else stray? names (i + 1) (n :: seen) ms
    else if j.isWhole then stray? names (i + 1) seen ms
    else some ⟨i, .malformed⟩

/-- Reads a record from an object. -/
def readObject {α : Type} (r : Record Json α) (members : List (Option String × Json)) : Reading α :=
  match stray? r.names 0 [] members, r.read (namedFields members) with
  | none, .ok a => .ok a
  | none, .error e => .error e.problem
  | some e, .ok _ => .error e.problem
  | some d, .error e => .error (d.first e).problem

/-- The fields of a record of the given name that is written as a list. -/
def listedFields (record : String) (names : List String) (items : List Json) : Fields Json where
  get? name := items[names.idxOf name]?.map fun j => (names.idxOf name, j)
  missing name :=
    ⟨items.length, .invalidLength (names.idxOf name) (.recordOf record names.length)⟩
  byName := false

/-- Reads a record from a list. -/
def readItems {α : Type} (name : String) (r : Record Json α) (items : List Json) : Reading α :=
  match r.read (listedFields name r.names items) with
  | .error e => .error e.problem
  | .ok a => if items.length ≤ r.names.length then .ok a else .error .malformed

/-- Reads a record. -/
def readRecord {α : Type} (name : String) (r : Record Json α) : Json → Reading α
  | .object members => readObject r members
  | .array items => readItems name r items
  | j => j.mismatch (.record name)

/-! ### Tagged values -/

/-- The next tag or content among members: whether it is the tag, its value, and what follows it. -/
def relevant? (tag content : String) :
    List (Option String × Json) → Reading (Option (Bool × Json × List (Option String × Json)))
  | [] => .ok none
  | (none, _) :: _ => .error .malformed
  | (some n, j) :: ms =>
    if n = tag then .ok (some (true, j, ms))
    else if n = content then .ok (some (false, j, ms))
    else if j.isWhole then relevant? tag content ms
    else .error .malformed

/-- Neither tag nor content may follow any more. -/
def noMore (tag content : String) (members : List (Option String × Json)) : Reading Unit := do
  match ← relevant? tag content members with
  | none => pure ()
  | some (isTag, _, _) => .error (.duplicateField (if isTag then tag else content))

/-- Reads what an alternative holds. -/
def readContent {α : Type} (name : String) : Alternative α → Json → Reading α
  | .bare _ a, .null => .ok a
  | .bare label _, j => j.mismatch (.bare name label)
  | .holding make, j => make <$> j.readText .text

/-- Reads a tagged value from an object. -/
def readTaggedObject {α : Type} (t : Tagged α) (members : List (Option String × Json)) :
    Reading α := do
  match ← relevant? t.tag t.content members with
  | none => .error (.missingField t.tag)
  | some (true, label, ms) =>
    let alternative ← label.readChoice t.alternatives
    match ← relevant? t.tag t.content ms with
    | none =>
      match alternative with
      | .bare _ a => pure a
      | .holding _ => .error (.missingField t.content)
    | some (true, _, _) => .error (.duplicateField t.tag)
    | some (false, j, rest) =>
      let a ← readContent t.name alternative j
      noMore t.tag t.content rest
      pure a
  | some (false, j, ms) =>
    if !j.isPlain then .error .malformed
    else match ← relevant? t.tag t.content ms with
    | none => .error (.missingField t.tag)
    | some (false, _, _) => .error (.duplicateField t.content)
    | some (true, label, rest) =>
      let alternative ← label.readChoice t.alternatives
      let a ← readContent t.name alternative j
      noMore t.tag t.content rest
      pure a

/-- Reads a tagged value from a list. -/
def readTaggedItems {α : Type} (t : Tagged α) : List Json → Reading α
  | [] => .error (.invalidLength 0 (.tagged t.name))
  | label :: items => do
    let alternative ← label.readChoice t.alternatives
    match items with
    | [] => .error (.invalidLength 1 (.tagged t.name))
    | [j] => readContent t.name alternative j
    | j :: _ =>
      let _ ← readContent t.name alternative j
      .error .malformed

/-- Reads a tagged value. -/
def readTagged {α : Type} (t : Tagged α) : Json → Reading α
  | .object members => readTaggedObject t members
  | .array items => readTaggedItems t items
  | j => j.mismatch (.tagged t.name)

instance : DataFormat Json where
  text := readText .text
  path := readText .path
  flag := readFlag
  natural := readNatural
  optional := readOptional
  list := readList
  choice := readChoice
  record := readRecord
  tagged := readTagged

/-! ### Texts -/

/-- Reads a value from a JSON text. -/
def decode {α : Type} (f : Json → Reading α) (text : String) : Reading α :=
  let document := read text
  match f document.value with
  | .error problem => .error problem
  | .ok a => if document.complete then .ok a else .error .malformed

end Companion.Json
