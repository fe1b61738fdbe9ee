import Companion.Decimal.Nearest
import Companion.Text.Parser

/-!
# Decimal — numbers in texts

A decimal is digits with a point and an exponent, both of which may be missing; there must be a
digit before or after the point.
-/

namespace Companion.Decimal

open Text Parser

/-- The number that decimal digits make. -/
def value (ds : List Char) : Nat := ds.foldl (fun n c => 10 * n + (c.toNat - '0'.toNat)) 0

/-- A sign, if there is one; true stands for minus. -/
def sign : Parser Bool := do
  match ← optional? (one fun c => c == '+' || c == '-') with
  | some '-' => return true
  | _ => return false

/-- A number with a sign. -/
def withSign (minus : Bool) (n : Nat) : Int := if minus then -n else n

/-- An exponent. -/
def exponent : Parser Int := do
  let _ ← one fun c => c == 'e' || c == 'E'
  let minus ← sign
  return withSign minus (value (← many1 Char.isDigit))

/-- A decimal without sign. -/
def decimal : Parser Digits := do
  let before ← many Char.isDigit
  let after := (← optional? (do exactly ['.']; many Char.isDigit)).getD []
  ensure !(before.isEmpty && after.isEmpty)
  let power := (← optional? exponent).getD 0
  return ⟨value (before ++ after), power - after.length⟩

end Companion.Decimal
