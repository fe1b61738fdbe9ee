import Companion.Decimal.Numeral
import Companion.Text.Hex
import Companion.Text.Parser

/-!
# Toml — numbers and dates

Whole numbers have 64 bits, and may be written in base 16, 8 or 2.  Other numbers have a point, an
exponent or both, or are named.  An underscore may stand between two digits.  A positive number that
is too large for a double is none.

Dates and times are kept as texts: a capital T between date and time, a fraction of at most nine
digits without trailing zeros, and a capital Z.
-/

namespace Companion.Toml

open Text Parser

/-! ### Numbers -/

/-- Digits of a class with underscores between them, of at most so many parts; the underscores are
left out. -/
def moreDigits (p : Char → Bool) : Nat → Parser (List Char)
  | 0 => return []
  | n + 1 => do
    match ← optional? (do let _ ← optional? (exactly ['_']); one p) with
    | some c => return c :: (← moreDigits p n)
    | none => return []

/-- One digit or more. -/
def digits (p : Char → Bool) : Parser (List Char) := do
  let c ← one p
  return c :: (← moreDigits p (← rest).length)

/-- Decimal digits without a leading zero. -/
def plainDigits : Parser (List Char) := do
  match ← optional? (exactly ['0']) with
  | some () => return ['0']
  | none => digits Char.isDigit

/-- The value of digits in a base. -/
def numberOf (base : Nat) (ds : List Char) : Nat :=
  ds.foldl (fun n c => base * n + (hexValue? c).getD 0) 0

/-- A whole number in a base that is named in front. -/
def based (mark : Char) (base : Nat) : Parser Int := do
  exactly ['0', mark]
  let n := numberOf base (← digits fun c => (hexValue? c).any (· < base))
  ensure (n < Nat.pow 2 63)
  return n

/-- A whole number in base ten. -/
def decimal : Parser Int := do
  let minus ← Decimal.sign
  let n := Decimal.value (← plainDigits)
  ensure (if minus then n ≤ Nat.pow 2 63 else n < Nat.pow 2 63)
  return Decimal.withSign minus n

/-- A whole number. -/
def whole : Parser Int := do
  match (← rest).take 2 with
  | ['0', 'x'] => based 'x' 16
  | ['0', 'o'] => based 'o' 8
  | ['0', 'b'] => based 'b' 2
  | _ => decimal

/-- The digits after a point. -/
def fraction : Parser (List Char) := do
  exactly ['.']
  digits Char.isDigit

/-- An exponent. -/
def exponent : Parser Int := do
  let _ ← one fun c => c == 'e' || c == 'E'
  let minus ← Decimal.sign
  let n := Decimal.value (← digits Char.isDigit)
  return Decimal.withSign minus n

/-- A number with a point or an exponent. -/
def pointed : Parser Float := do
  let minus ← Decimal.sign
  let before ← plainDigits
  let after? ← optional? fraction
  let power? ← optional? exponent
  ensure (after?.isSome || power?.isSome)
  let after := after?.getD []
  let x := Decimal.signed minus ⟨Decimal.value (before ++ after), power?.getD 0 - after.length⟩
  ensure (!(x.isInf && !minus))
  return x

/-- Infinity, or no number. -/
def special : Parser Float := do
  let minus ← Decimal.sign
  let x : Float ←
    (do exactly ['i', 'n', 'f']; return 1 / 0) <|> (do exactly ['n', 'a', 'n']; return 0 / 0)
  return if minus then -x else x

/-- A number that is not whole. -/
def real : Parser Float := pointed <|> special

/-! ### Dates -/

/-- So many digits, with a value between two bounds. -/
def field (width low high : Nat) : Parser (List Char) := do
  let ds ← exactlyMany Char.isDigit width
  ensure (low ≤ numberOf 10 ds && numberOf 10 ds ≤ high)
  return ds

/-- Whether February has a 29th day. -/
def isLeap (year : Nat) : Bool := year % 4 == 0 && (year % 100 != 0 || year % 400 == 0)

/-- The number of days of a month. -/
def daysOf (year month : Nat) : Nat :=
  if month == 2 then if isLeap year then 29 else 28
  else if [4, 6, 9, 11].contains month then 30
  else 31

/-- A date. -/
def date : Parser (List Char) := do
  let year ← exactlyMany Char.isDigit 4
  exactly ['-']
  let month ← field 2 1 12
  exactly ['-']
  let day ← field 2 1 (daysOf (numberOf 10 year) (numberOf 10 month))
  return year ++ '-' :: month ++ '-' :: day

/-- The digits of a second's fraction as they are kept. -/
def keptFraction (ds : List Char) : List Char :=
  match ((ds.take 9).reverse.dropWhile (· == '0')).reverse with
  | [] => []
  | kept => '.' :: kept

/-- A time. -/
def time : Parser (List Char) := do
  let hour ← field 2 0 23
  exactly [':']
  let minute ← field 2 0 59
  exactly [':']
  let second ← field 2 0 60
  let after := (← optional? (do exactly ['.']; many1 Char.isDigit)).getD []
  return hour ++ ':' :: minute ++ ':' :: second ++ keptFraction after

/-- A distance from universal time. -/
def offset : Parser (List Char) := do
  match ← next with
  | 'Z' => return ['Z']
  | 'z' => return ['Z']
  | c =>
    ensure (c == '+' || c == '-')
    let hour ← field 2 0 23
    exactly [':']
    let minute ← field 2 0 59
    let zero := numberOf 10 hour == 0 && numberOf 10 minute == 0
    return (if zero then '+' else c) :: hour ++ ':' :: minute

/-- A time after a date, and its distance from universal time. -/
def timeOfDay : Parser (List Char) := do
  let _ ← one fun c => c == 'T' || c == 't' || c == ' '
  let t ← time
  return 'T' :: t ++ ((← optional? offset).getD [])

/-- A date, a time, or both, as a text. -/
def moment : Parser String :=
  (do
    let d ← date
    return String.ofList (d ++ (← optional? timeOfDay).getD []))
    <|> (do return String.ofList (← time))

end Companion.Toml
