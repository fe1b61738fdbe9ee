import Companion.Json.Number

/-!
# Json — values

A JSON value as it stands in a text.  The members of an object keep their order and may repeat a
name.  A value may also be what is left of a text that is not JSON: reading goes on as far as the
text does, and what cannot be read is `broken`.  Nothing follows a broken value in its list, so the
first thing that is wrong comes first.

* `isWhole` says that a value is JSON throughout.
* `isPlain` says in addition that it can be kept: its strings are texts, its numbers are in range,
  and it is not nested too deeply.
-/

namespace Companion

/-- A JSON value, or what is left of one. -/
inductive Json where
  /-- The null value. -/
  | null
  /-- A truth value. -/
  | boolean (value : Bool)
  /-- A number. -/
  | number (value : Json.Number)
  /-- A string; none if its escapes are no text. -/
  | string (value : Option String)
  /-- A list. -/
  | array (items : List Json)
  /-- An object; a name is none if its escapes are no text, or if no name could be read. -/
  | object (members : List (Option String × Json))
  /-- A list or an object that has too many others around it. -/
  | deep (inner : Json)
  /-- The place where the text stops being JSON. -/
  | broken
  deriving Inhabited

namespace Json

mutual

/-- The value is JSON throughout. -/
def isWhole : Json → Bool
  | .array items => areWhole items
  | .object members => membersAreWhole members
  | .deep inner => inner.isWhole
  | .broken => false
  | _ => true

/-- All values are JSON throughout. -/
def areWhole : List Json → Bool
  | [] => true
  | j :: js => j.isWhole && areWhole js

/-- The values of all members are JSON throughout. -/
def membersAreWhole : List (Option String × Json) → Bool
  | [] => true
  | (_, j) :: ms => j.isWhole && membersAreWhole ms

end

mutual

/-- The value can be kept. -/
def isPlain : Json → Bool
  | .null => true
  | .boolean _ => true
  | .number .tooLarge => false
  | .number _ => true
  | .string value => value.isSome
  | .array items => arePlain items
  | .object members => membersArePlain members
  | .deep _ => false
  | .broken => false

/-- All values can be kept. -/
def arePlain : List Json → Bool
  | [] => true
  | j :: js => j.isPlain && arePlain js

/-- All members can be kept. -/
def membersArePlain : List (Option String × Json) → Bool
  | [] => true
  | (name, j) :: ms => name.isSome && j.isPlain && membersArePlain ms

end

end Json

end Companion
