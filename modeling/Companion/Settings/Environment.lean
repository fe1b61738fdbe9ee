import Companion.Decimal.Numeral
import Companion.Settings.Key

/-!
# Settings — the environment

Environment variables give settings as far as their names begin with a common mark and an
underscore; case does not count.  What follows is the key.  The text of a variable is taken for a
truth value, a whole number or a number if it reads as one, and for a text otherwise.
-/

namespace Companion.Environment

open Text Parser

/-- Environment variables with their texts. -/
abbrev Variables := List (String × String)

/-- A whole number of 64 bits. -/
def whole : Parser Int := do
  let minus ← Decimal.sign
  let n := Decimal.value (← many1 Char.isDigit)
  ensure (if minus then n ≤ Nat.pow 2 63 else n < Nat.pow 2 63)
  return Decimal.withSign minus n

/-- Infinity, or no number, by name. -/
def specialNumber : Parser Float := do
  match lower (String.ofList (← many1 Char.isAlpha)) with
  | "inf" => return 1 / 0
  | "infinity" => return 1 / 0
  | "nan" => return 0 / 0
  | _ => failure

/-- A number. -/
def real : Parser Float := do
  let minus ← Decimal.sign
  let x ← specialNumber <|> (do return Decimal.nearest (← Decimal.decimal))
  return if minus then -x else x

/-- What the text of a variable is taken for. -/
def value (text : String) : SettingValue :=
  let cs := text.toList
  if lower text == "true" then .flag true
  else if lower text == "false" then .flag false
  else match whole.runAll? cs, real.runAll? cs with
    | some n, _ => .whole n
    | none, some x => .real x
    | none, none => .text text

/-- The key of a variable, if its name has the mark. -/
def key? (mark name : String) : Option String :=
  let start := (lower (mark ++ "_")).toList
  let name := (lower name).toList
  if start.isPrefixOf name then some (String.ofList (name.drop start.length)) else none

/-- The settings that the variables give. -/
def settings (mark : String) (env : Variables) : List (String × SettingValue) :=
  env.filterMap fun (name, text) => (key? mark name).map fun k => (k, value text)

end Companion.Environment
