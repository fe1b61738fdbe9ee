/-!
# Decimal — the shortest digits of a double

A double stands for all reals that round to it.  Its shortest decimal is the one with the fewest
digits among those; of several with equally many digits it is the nearest to the double.

A finite double is a natural mantissa times a power of two.  The reals that round to it form an
interval from half a step below to half a step above; the step below is half as wide where the
mantissa is a power of two.  The ends belong to the interval when the mantissa is even.  For each
number of digits only two decimals can be the nearest, the neighbours of the double on the grid of
that many digits, so each grid takes two comparisons of natural numbers.
-/

namespace Companion.Decimal

/-- A positive number as a mantissa times a power of two. -/
structure Dyadic where
  /-- The mantissa. -/
  mantissa : Nat
  /-- The power of two. -/
  exponent : Int
  /-- Whether the next smaller double is only half a step away. -/
  narrowBelow : Bool
  deriving DecidableEq, Repr

/-- What the bits of a double stand for. -/
inductive Magnitude where
  /-- No number. -/
  | notANumber
  /-- Infinity. -/
  | infinite
  /-- Zero. -/
  | zero
  /-- Any other number. -/
  | finite (d : Dyadic)
  deriving DecidableEq, Repr

/-- The power of two. -/
abbrev twoTo (n : Nat) : Nat := Nat.pow 2 n

/-- The power of ten. -/
abbrev tenTo (n : Nat) : Nat := Nat.pow 10 n

/-- The sign bit of a double. -/
def isNegative (x : Float) : Bool := x.toBits.toNat ≥ twoTo 63

/-- A double without its sign. -/
def magnitude (x : Float) : Magnitude :=
  let bits : Nat := x.toBits.toNat
  let fraction : Nat := bits % twoTo 52
  let biased : Nat := bits / twoTo 52 % twoTo 11
  if biased = 2047 then if fraction = 0 then .infinite else .notANumber
  else if biased = 0 then
    if fraction = 0 then .zero else .finite ⟨fraction, -1074, false⟩
  else .finite ⟨twoTo 52 + fraction, (biased : Int) - 1075, fraction = 0 && 1 < biased⟩

/-- A decimal: digits times a power of ten. -/
structure Digits where
  /-- The digits as a number. -/
  significand : Nat
  /-- The power of ten. -/
  exponent : Int
  deriving DecidableEq, Repr

namespace Dyadic

/-- The number of decimal digits of a positive natural number. -/
def digitCount (n : Nat) : Nat := (Nat.toDigits 10 n).length

/-- The power of ten of the leading digit: the number lies between it and ten times it. -/
def leading (d : Dyadic) : Int :=
  let up := twoTo d.exponent.toNat
  let down := twoTo (-d.exponent).toNat
  if down ≤ d.mantissa * up then (digitCount (d.mantissa * up / down) : Int) - 1
  else
    match (List.range 400).find? fun j => down ≤ d.mantissa * tenTo j with
    | some j => -j
    | none => -400

/-- The nearest decimal on the grid of `count` digits that rounds to the number, if there is one. -/
def onGrid? (d : Dyadic) (count : Nat) : Option Digits :=
  let step : Int := d.leading - (count - 1 : Nat)
  let scale := twoTo (d.exponent - 2).toNat * tenTo (-step).toNat
  let unit := twoTo (2 - d.exponent).toNat * tenTo step.toNat
  let value := 4 * d.mantissa * scale
  let low := (4 * d.mantissa - if d.narrowBelow then 1 else 2) * scale
  let high := (4 * d.mantissa + 2) * scale
  let rounds (n : Nat) : Bool :=
    let x := n * unit
    if d.mantissa % 2 = 0 then low ≤ x && x ≤ high else low < x && x < high
  let below := value / unit
  let above := below + 1
  let nearerBelow := 2 * (value % unit) < unit || (2 * (value % unit) == unit && below % 2 = 0)
  match rounds below, rounds above with
  | true, true => some ⟨if nearerBelow then below else above, step⟩
  | true, false => some ⟨below, step⟩
  | false, true => some ⟨above, step⟩
  | false, false => none

/-- The shortest decimal that rounds to the number. -/
def shortest (d : Dyadic) : Digits :=
  match (List.range 17).findSome? fun i => d.onGrid? (i + 1) with
  | some digits => digits
  | none => ⟨d.mantissa, 0⟩

end Dyadic

end Companion.Decimal
