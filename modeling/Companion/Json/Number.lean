import Companion.Decimal.Layout
import Companion.Decimal.Nearest

/-!
# Json — numbers

A numeral is the text of a number, cut into its parts.  A whole number below 2^64, or a negative one
down to -2^63, is kept exactly; any other becomes a double.

A double is made from the leading digits that fit into 64 bits, as a whole number, and a power of
ten by which it is multiplied or divided.  This takes one rounding more than the nearest double
would.  A number beyond the largest double is no number.
-/

namespace Companion.Json

/-- What a numeral stands for. -/
inductive Number where
  /-- A natural number below 2^64. -/
  | natural (n : UInt64)
  /-- The negative of a positive number up to 2^63. -/
  | negative (n : Nat)
  /-- Any other number. -/
  | real (x : Float)
  /-- A number beyond the largest double. -/
  | tooLarge

/-- The text of a number. -/
structure Numeral where
  /-- Whether there is a minus sign. -/
  minus : Bool
  /-- The digits before the point. -/
  whole : List Char
  /-- The digits after the point. -/
  fraction : List Char
  /-- The exponent, if there is one: whether it is negative, and its digits. -/
  exponent : Option (Bool × List Char)
  deriving DecidableEq, Repr

/-- The value of a decimal digit. -/
def digit (c : Char) : Nat := c.toNat - '0'.toNat

/-- The value of decimal digits. -/
def digits (cs : List Char) : Nat := cs.foldl (fun n c => 10 * n + digit c) 0

/-- Appends digits to a number while it stays below 2^64, and counts the digits left over. -/
def absorb : Nat → List Char → Nat × Nat
  | n, [] => (n, 0)
  | n, c :: r =>
    if 10 * n + digit c < UInt64.size then absorb (10 * n + digit c) r else (n, r.length + 1)

/-- The power of ten as a double. -/
def powerOfTen (k : Nat) : Float := Decimal.nearest ⟨1, k⟩

/-- A double below 2^64 divided by a power of ten, in steps of at most 308 places.  Four full steps
leave nothing of it, so no more are made. -/
def shrink (x : Float) (k : Nat) : Float :=
  let steps := (k - 1) / 308
  Nat.repeat (· / powerOfTen 308) (min steps 4) x / powerOfTen (k - 308 * steps)

/-- A natural number below 2^64 times a power of ten, if it is not beyond the largest double. -/
def scale? (n : Nat) (power : Int) : Option Float :=
  let x := (UInt64.ofNat n).toFloat
  if power < 0 then some (shrink x power.natAbs)
  else if n = 0 then some x
  else if power ≤ 308 then
    let y := x * powerOfTen power.toNat
    if y.isInf then none else some y
  else none

namespace Numeral

/-- The value of the exponent. -/
def power (n : Numeral) : Int :=
  match n.exponent with
  | none => 0
  | some (true, ds) => -(digits ds : Int)
  | some (false, ds) => digits ds

/-- The double that the numeral stands for, if it is not beyond the largest. -/
def real? (n : Numeral) : Option Float :=
  let (head, left) := absorb 0 n.whole
  let (significand, unread) := absorb head n.fraction
  let x := scale? significand (left - (n.fraction.length - unread : Nat) + n.power)
  if n.minus then x.map (-·) else x

/-- What the numeral stands for. -/
def value (n : Numeral) : Number :=
  let whole := digits n.whole
  let exact := n.fraction.isEmpty && n.exponent.isNone
  if exact && !n.minus && whole < UInt64.size then .natural (UInt64.ofNat whole)
  else if exact && n.minus && 0 < whole && whole ≤ Nat.pow 2 63 then .negative whole
  else match n.real? with
    | some x => .real x
    | none => .tooLarge

end Numeral

/-! ### Reading numerals -/

/-- The digits at the front, and what follows them. -/
def spanDigits (cs : List Char) : List Char × List Char :=
  (cs.takeWhile Char.isDigit, cs.dropWhile Char.isDigit)

theorem spanDigits_append (cs : List Char) : (spanDigits cs).1 ++ (spanDigits cs).2 = cs :=
  List.takeWhile_append_dropWhile

/-- The digits before the point: a zero stands alone. -/
def readWhole? (cs : List Char) : Option (List Char × List Char) :=
  match spanDigits cs with
  | ([], _) => none
  | ('0' :: _ :: _, _) => none
  | (ds, rest) => some (ds, rest)

/-- The digits after the point, if there is a point. -/
def readFraction? : List Char → Option (List Char × List Char)
  | '.' :: cs =>
    match spanDigits cs with
    | ([], _) => none
    | (ds, rest) => some (ds, rest)
  | cs => some ([], cs)

/-- A sign, if there is one; true stands for minus. -/
def readSign : List Char → Bool × List Char
  | '-' :: r => (true, r)
  | '+' :: r => (false, r)
  | r => (false, r)

/-- The exponent, if there is one. -/
def readExponent? : List Char → Option (Option (Bool × List Char) × List Char)
  | [] => some (none, [])
  | c :: r =>
    if c == 'e' || c == 'E' then
      match spanDigits (readSign r).2 with
      | ([], _) => none
      | (ds, rest) => some (some ((readSign r).1, ds), rest)
    else some (none, c :: r)

/-- A minus sign, if there is one. -/
def readMinus : List Char → Bool × List Char
  | '-' :: r => (true, r)
  | r => (false, r)

/-- The numeral at the front, and what follows it. -/
def readNumeral? (cs : List Char) : Option (Numeral × List Char) :=
  match readWhole? (readMinus cs).2 with
  | none => none
  | some (whole, r) =>
    match readFraction? r with
    | none => none
    | some (fraction, r) =>
      match readExponent? r with
      | none => none
      | some (exponent, r) => some (⟨(readMinus cs).1, whole, fraction, exponent⟩, r)

theorem readWhole?_append {cs ds rest : List Char} (h : readWhole? cs = some (ds, rest)) :
    cs = ds ++ rest ∧ ds ≠ [] := by
  have key := spanDigits_append cs
  unfold readWhole? at h
  split at h
  · cases h
  · cases h
  · rename_i ds' rest' hne _ hs
    rw [hs] at key
    cases h
    exact ⟨key.symm, hne⟩

theorem readFraction?_length {cs ds rest : List Char} (h : readFraction? cs = some (ds, rest)) :
    rest.length ≤ cs.length := by
  unfold readFraction? at h
  split at h
  · rename_i r
    have key := congrArg List.length (spanDigits_append r)
    split at h
    · cases h
    · rename_i hs
      rw [hs] at key
      cases h
      simp at key ⊢
      omega
  · cases h
    exact Nat.le_refl _

theorem readSign_length (cs : List Char) : (readSign cs).2.length ≤ cs.length := by
  unfold readSign
  split <;> simp

theorem readExponent?_length {cs rest : List Char} {e : Option (Bool × List Char)}
    (h : readExponent? cs = some (e, rest)) : rest.length ≤ cs.length := by
  unfold readExponent? at h
  split at h
  · cases h
    exact Nat.le_refl _
  · rename_i c r
    have sign := readSign_length r
    have key := congrArg List.length (spanDigits_append (readSign r).2)
    split at h
    · split at h
      · cases h
      · rename_i hs
        rw [hs] at key
        cases h
        simp at key ⊢
        omega
    · cases h
      exact Nat.le_refl _

theorem readNumeral?_length {cs rest : List Char} {n : Numeral}
    (h : readNumeral? cs = some (n, rest)) : rest.length < cs.length := by
  have sign : (readMinus cs).2.length ≤ cs.length := by
    unfold readMinus
    split <;> simp
  unfold readNumeral? at h
  split at h
  · cases h
  · rename_i hw
    obtain ⟨hc, hne⟩ := readWhole?_append hw
    have key := congrArg List.length hc
    have := List.length_pos_iff.mpr hne
    simp at key
    split at h
    · cases h
    · rename_i hf
      have := readFraction?_length hf
      split at h
      · cases h
      · rename_i he
        have := readExponent?_length he
        cases h
        omega

end Companion.Json
