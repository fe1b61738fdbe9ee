import Companion.Decimal.Shortest

/-!
# Decimal — the double nearest to a decimal

A quotient of two natural numbers is rounded to the nearest double, a tie to the one with the even
mantissa.  The bits of the result are its mantissa and its exponent, put together by one sum.
-/

namespace Companion.Decimal

/-- The quotient rounded to a whole number, a tie to the even one. -/
def roundedQuotient (a b : Nat) : Nat :=
  let twice := 2 * (a % b)
  let low := a / b
  if twice < b || (twice == b && low % 2 = 0) then low else low + 1

/-- The bits of infinity. -/
def infinityBits : Nat := 2047 * twoTo 52

/-- The bits of the double nearest to a positive quotient. -/
def nearestBits (a b : Nat) : Nat :=
  let guess : Int := (a.log2 : Int) - b.log2 - 52
  let scaled (q : Int) : Nat × Nat := (a * twoTo (-q).toNat, b * twoTo q.toNat)
  let exact := if (scaled guess).1 < twoTo 52 * (scaled guess).2 then guess - 1 else guess
  let q := max exact (-1074)
  let mantissa := roundedQuotient (scaled q).1 (scaled q).2
  min ((q + 1074).toNat * twoTo 52 + mantissa) infinityBits

/-- The double nearest to a decimal without sign. -/
def nearest (d : Digits) : Float :=
  let size : Int := Dyadic.digitCount d.significand + d.exponent
  let bits :=
    if d.significand = 0 || size < -400 then 0
    else if 400 < size then infinityBits
    else nearestBits (d.significand * tenTo d.exponent.toNat) (tenTo (-d.exponent).toNat)
  Float.ofBits (UInt64.ofNat bits)

/-- The double nearest to a decimal with its sign. -/
def signed (minus : Bool) (d : Digits) : Float := if minus then -nearest d else nearest d

end Companion.Decimal
