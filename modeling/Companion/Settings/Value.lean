import Companion.Data.Schema
import Companion.Text.Lower

/-!
# Settings — values from a source

What a source of settings holds before it is known what is asked for.  Values are read leniently:

* a text from a truth value, a number or a text;
* a truth value from a number, which is true unless it is zero, or from one of the usual words;
* a choice from a text in any case, or from a table with that single key;
* a record from a table, whose other keys do not count.

A value that cannot be read has no further explanation.
-/

namespace Companion

/-- A value in a source of settings. -/
inductive SettingValue where
  /-- Nothing. -/
  | absent
  /-- A truth value. -/
  | flag (b : Bool)
  /-- A whole number. -/
  | whole (n : Int)
  /-- A number. -/
  | real (x : Float)
  /-- A text. -/
  | text (s : String)
  /-- A list. -/
  | list (items : List SettingValue)
  /-- A table of keys, each there once. -/
  | table (entries : List (String × SettingValue))
  deriving Inhabited

namespace SettingValue

/-- A truth value in words. -/
def flagName (b : Bool) : String := if b then "true" else "false"

/-- Reads a text. -/
def readText : SettingValue → Reading String
  | .flag b => .ok (flagName b)
  | .whole n => .ok (toString n)
  | .real x => .ok (Decimal.Layout.plain.write x)
  | .text s => .ok s
  | _ => .error .malformed

/-- The words that stand for true. -/
def trueWords : List String := ["1", "true", "on", "yes"]

/-- The words that stand for false. -/
def falseWords : List String := ["0", "false", "off", "no"]

/-- Reads a truth value. -/
def readFlag : SettingValue → Reading Bool
  | .flag b => .ok b
  | .whole n => .ok (n != 0)
  | .real x => .ok (x != 0)
  | .text s =>
    if trueWords.contains (Text.lower s) then .ok true
    else if falseWords.contains (Text.lower s) then .ok false
    else .error .malformed
  | _ => .error .malformed

/-- Reads a value that may be absent. -/
def readOptional {α : Type} (read : SettingValue → Reading α) : SettingValue → Reading (Option α)
  | .absent => .ok none
  | v => some <$> read v

/-- The choice of a name, in any case. -/
def pick {α : Type} (options : List (String × α)) (name : String) : Reading α :=
  match options.find? fun o => Text.lower o.1 == Text.lower name with
  | some (_, a) => .ok a
  | none => .error .malformed

/-- Reads one of several names. -/
def readChoice {α : Type} (options : List (String × α)) : SettingValue → Reading α
  | .text name => pick options name
  | .table [(name, _)] => pick options name
  | _ => .error .malformed

/-- The place and the value of a key. -/
def atKey? (entries : List (String × SettingValue)) (key : String) :
    Option (Nat × SettingValue) :=
  (entries.lookup key).map fun v => (0, v)

/-- Reads a record. -/
def readRecord {α : Type} (r : Record SettingValue α) : SettingValue → Reading α
  | .table entries =>
    match r.read ⟨atKey? entries, fun name => ⟨0, .missingField name⟩, true⟩ with
    | .ok a => .ok a
    | .error e => .error e.problem
  | _ => .error .malformed

instance : Format SettingValue where
  text := readText
  path := readText
  flag := readFlag
  optional := readOptional
  choice := readChoice
  record _ := readRecord

end SettingValue

end Companion
