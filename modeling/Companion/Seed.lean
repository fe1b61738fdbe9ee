import Companion.Generators

/-!
# Seed — random tokens of a process

A process takes a seed from its system, and makes from it the random tokens that its run is given:
version-4 UUIDs without hyphens.

* `Seed.uuid` is a stream of UUIDs, and `Seed.tokens` one for each annotation.
-/

namespace Companion

/-- A seed of random words. -/
structure Seed where
  /-- The seed. -/
  value : UInt64
  deriving DecidableEq, Repr, Inhabited

namespace Seed

/-- Spreads a change of any bit over the word. -/
def scatter (z : UInt64) : UInt64 :=
  let z := (z ^^^ (z >>> 30)) * 0xBF58476D1CE4E5B9
  let z := (z ^^^ (z >>> 27)) * 0x94D049BB133111EB
  z ^^^ (z >>> 31)

/-- The `i`-th word of the seed. -/
def word (s : Seed) (i : Nat) : UInt64 :=
  scatter (s.value + (UInt64.ofNat i + 1) * 0x9E3779B97F4A7C15)

/-- A seed for the `i`-th of several users. -/
def fork (s : Seed) (i : Nat) : Seed := ⟨scatter (s.word i)⟩

/-- The `i`-th version-4 UUID of the seed, without hyphens. -/
def uuid (s : Seed) (i : Nat) : String :=
  let high := (s.word (2 * i) &&& 0xFFFFFFFFFFFF0FFF) ||| 0x4000
  let low := (s.word (2 * i + 1) &&& 0x3FFFFFFFFFFFFFFF) ||| 0x8000000000000000
  Text.hex 16 high.toNat ++ Text.hex 16 low.toNat

/-- Random tokens for each annotation. -/
def tokens (s : Seed) : RandomTokens := fun a => (s.fork (List.idxOf a Annotation.all)).uuid

end Seed

end Companion
