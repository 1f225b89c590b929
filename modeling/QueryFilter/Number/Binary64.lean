/-
Binary64 numbers, as the words that hold them.

A numeral is rounded to the nearest binary64 number, a tie going to the even significand, by exact
arithmetic on natural numbers: the number is measured in units of 2 ^ -1074, the least positive one, and a
significand of at most 53 bits is left after a shift. A number too large for a finite word has no
binary64 form; one too small is a zero that keeps its sign.
-/
import QueryFilter.Number.Numeral

namespace QueryFilter

/-- A sign bit, eleven exponent bits and fifty-two fraction bits. -/
structure Binary64 where
  word : BitVec 64
  deriving DecidableEq, Repr

namespace Binary64

/-- The quotient rounded to the nearest natural number, a tie going to the even one. -/
def nearestEven (numerator denominator : Nat) : Nat :=
  let quotient := numerator / denominator
  let twice := 2 * (numerator % denominator)
  if twice < denominator then quotient
  else if denominator < twice then quotient + 1
  else quotient + quotient % 2

/-- The weight of the exponent field. -/
def exponentUnit : Nat := 0x10000000000000

/-- The weight of the sign bit. -/
def signUnit : Nat := 0x8000000000000000

/-- The first magnitude that is no longer a finite number: all exponent bits set. -/
def infiniteMagnitude : Nat :=
  0x7ff * exponentUnit

/-- The exponent and fraction bits of the number nearest to a positive fraction. With `shift` the place of
the lowest bit kept, the significand's top bit adds one to the exponent field by itself. -/
def magnitude (numerator denominator : Nat) : Nat :=
  let units := numerator * Nat.pow 2 1074
  let shift := (units / denominator).log2 - 52
  shift * exponentUnit + nearestEven units (denominator * Nat.pow 2 shift)

/-- The magnitude nearest to `coefficient · 10 ^ exponent`. Exponents far outside the range of binary64
are settled by their size: the power of ten is never computed for them. -/
def roundMagnitude (coefficient : Nat) (exponent : Int) : Nat :=
  if coefficient = 0 then 0
  else if 400 < exponent then infiniteMagnitude
  else if exponent + (Nat.toDigits 10 coefficient).length < -400 then 0
  else if 0 ≤ exponent then magnitude (coefficient * Nat.pow 10 exponent.toNat) 1
  else magnitude coefficient (Nat.pow 10 (-exponent).toNat)

/-- The word of a sign and a magnitude. -/
def ofMagnitude (negative : Bool) (magnitude : Nat) : Binary64 :=
  ⟨BitVec.ofNat 64 ((if negative then signUnit else 0) + magnitude)⟩

/-- The finite number nearest to a numeral, if there is one. -/
def ofNumeral? (numeral : Numeral) : Option Binary64 :=
  let magnitude := roundMagnitude numeral.coefficient numeral.exponent
  if magnitude < infiniteMagnitude then some (ofMagnitude numeral.negative magnitude) else none

/-- The finite number a text writes; the words for infinities and for what is not a number write none. -/
def ofText? (text : List Char) : Option Binary64 :=
  (Numeral.ofText? text).bind ofNumeral?

/-- Rounding stays within half a unit of the quotient. -/
theorem nearestEven_close (numerator : Nat) {denominator : Nat} (h : 0 < denominator) :
    2 * (nearestEven numerator denominator * denominator) ≤ 2 * numerator + denominator ∧
      2 * numerator ≤ 2 * (nearestEven numerator denominator * denominator) + denominator := by
  have whole := Nat.div_add_mod numerator denominator
  have small := Nat.mod_lt numerator h
  have expand : ∀ k, (numerator / denominator + k) * denominator =
      denominator * (numerator / denominator) + k * denominator := by
    intro k; rw [Nat.add_mul, Nat.mul_comm]
  unfold nearestEven
  simp only
  split
  · rw [Nat.mul_comm (numerator / denominator)]; omega
  · split
    · rw [expand 1]; omega
    · rcases Nat.mod_two_eq_zero_or_one (numerator / denominator) with even | odd
      · rw [even, expand 0]; omega
      · rw [odd, expand 1]; omega

end Binary64

end QueryFilter
