import Companion.Decimal.Shortest

/-!
# Decimal — how a double is written

A layout says which doubles are written with a point in its place and which with a power of ten.
Both write the shortest digits.
-/

namespace Companion.Decimal

/-- The choices that are made when a double is written. -/
structure Layout where
  /-- Whether a number whose leading digit has this power of ten is written in positions. -/
  inPositions : Int → Bool
  /-- Whether a whole number gets a point and a zero. -/
  pointAlways : Bool

namespace Layout

/-- Never a power of ten, and no point that is not needed. -/
def plain : Layout := ⟨fun _ => true, false⟩

/-- A power of ten where the leading digit has one below -5 or above 15, and always a point. -/
def scientific : Layout := ⟨fun e => -5 ≤ e && e ≤ 15, true⟩

/-- Digits with the point in its place; the first digit has the given power of ten. -/
def positions (l : Layout) (digits : List Char) (leading : Int) : List Char :=
  let whole := leading + 1
  if whole ≤ 0 then "0.".toList ++ List.replicate (-whole).toNat '0' ++ digits
  else
    let before := whole.toNat
    if digits.length ≤ before then
      digits ++ List.replicate (before - digits.length) '0' ++
        if l.pointAlways then ".0".toList else []
    else digits.take before ++ '.' :: digits.drop before

/-- Digits with a power of ten: one before the point, and an exponent of two digits at least. -/
def withPower (digits : List Char) (leading : Int) : List Char :=
  let power := Nat.toDigits 10 leading.natAbs
  digits.take 1 ++ (if digits.length ≤ 1 then [] else '.' :: digits.drop 1) ++
    ['e', if leading < 0 then '-' else '+'] ++ List.replicate (2 - power.length) '0' ++ power

/-- Digits without trailing zeros. -/
def trimmed (digits : List Char) : List Char := (digits.reverse.dropWhile (· == '0')).reverse

/-- A positive number. -/
def finite (l : Layout) (d : Digits) : List Char :=
  let all := Nat.toDigits 10 d.significand
  let leading := d.exponent + all.length - 1
  if l.inPositions leading then l.positions (trimmed all) leading
  else withPower (trimmed all) leading

/-- A double. -/
def write (l : Layout) (x : Float) : String :=
  let sign := if isNegative x then ['-'] else []
  String.ofList <|
    match magnitude x with
    | .notANumber => "NaN".toList
    | .infinite => sign ++ "inf".toList
    | .zero => sign ++ l.positions ['0'] 0
    | .finite d => sign ++ l.finite d.shortest

end Layout

end Companion.Decimal
