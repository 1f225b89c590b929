/-
Whole numbers as binary64 numbers.

A text that writes a whole number of 64 bits is also a numeral, and the binary64 number nearest to it is finite
(`Binary64.isSome_ofText?_of_whole`). Rounding goes no further than the end of the binade that the number lies
in, and the binades of 64 bits end far below the infinite magnitude.
-/
import Mathlib.Tactic.Positivity
import QueryFilter.Number.Binary64
import QueryFilter.Number.Whole
import QueryFilter.Proofs.Number.Mantissa

namespace QueryFilter

namespace Binary64

theorem nearestEven_le {numerator denominator bound : Nat} (positive : 0 < denominator)
    (below : numerator ≤ bound * denominator) : nearestEven numerator denominator ≤ bound := by
  have close := (nearestEven_close numerator positive).1
  rcases Nat.lt_or_ge bound (nearestEven numerator denominator) with above | within
  · have next : (bound + 1) * denominator ≤ nearestEven numerator denominator * denominator :=
      Nat.mul_le_mul_right denominator above
    rw [Nat.add_mul, Nat.one_mul] at next
    omega
  · exact within

theorem log2_mul_two_pow_lt {n bits : Nat} (below : n < 2 ^ bits) (shift : Nat) (shifted : 0 < shift) :
    (n * Nat.pow 2 shift).log2 < bits + shift := by
  rw [Nat.pow_eq]
  by_cases zero : n * 2 ^ shift = 0
  · rw [zero, Nat.log2_zero]
    omega
  · rw [Nat.log2_lt zero, Nat.pow_add]
    exact Nat.mul_lt_mul_of_pos_right below (by positivity)

/-- The lowest bits are shifted out, so that at most 53 are left and rounded to. -/
theorem shifted_le {units bits : Nat} (log : units.log2 < bits) (long : 53 ≤ bits) :
    (units.log2 - 52) * exponentUnit + nearestEven units (Nat.pow 2 (units.log2 - 52))
      ≤ (bits - 53) * exponentUnit + 2 * exponentUnit := by
  have scaled : (units.log2 - 52) * exponentUnit ≤ (bits - 53) * exponentUnit :=
    Nat.mul_le_mul_right exponentUnit (by omega)
  have kept : nearestEven units (2 ^ (units.log2 - 52)) ≤ 2 * exponentUnit := by
    refine nearestEven_le (by positivity) ?_
    calc units ≤ 2 ^ (units.log2 + 1) := Nat.le_of_lt Nat.lt_log2_self
      _ ≤ 2 ^ (53 + (units.log2 - 52)) := Nat.pow_le_pow_right (by omega) (by omega)
      _ = 2 * exponentUnit * 2 ^ (units.log2 - 52) := by rw [Nat.pow_add]; rfl
  rw [Nat.pow_eq]
  omega

/-- The magnitude of a whole number. The shift is held by a name, so that its power is never computed. -/
theorem exists_magnitude_whole (n : Nat) : ∃ shift, shift = 1074 ∧ magnitude n 1 =
    ((n * Nat.pow 2 shift).log2 - 52) * exponentUnit
      + nearestEven (n * Nat.pow 2 shift) (Nat.pow 2 ((n * Nat.pow 2 shift).log2 - 52)) := by
  refine ⟨_, rfl, ?_⟩
  unfold magnitude
  simp only [Nat.div_one, Nat.one_mul]

theorem magnitude_whole_le {n bits : Nat} (below : n < 2 ^ bits) :
    magnitude n 1 ≤ (bits + 1074 - 53) * exponentUnit + 2 * exponentUnit := by
  obtain ⟨shift, held, eq⟩ := exists_magnitude_whole n
  have bound := shifted_le (log2_mul_two_pow_lt below shift (by omega)) (by omega)
  rwa [← eq, held] at bound

theorem roundMagnitude_whole_lt {n : Nat} (below : n < 2 ^ 64) : roundMagnitude n 0 < infiniteMagnitude := by
  unfold roundMagnitude
  split
  · decide
  · have bound := magnitude_whole_le below
    have finite : (64 + 1074 - 53) * exponentUnit + 2 * exponentUnit < infiniteMagnitude := by decide
    rw [if_neg (by omega), if_neg (by omega), if_pos (by omega)]
    simp only [Int.toNat_zero, Nat.pow_eq, Nat.pow_zero, Nat.mul_one]
    omega

theorem isSome_ofNumeral?_of_lt {negative : Bool} {n : Nat} (below : n < 2 ^ 64) :
    (ofNumeral? ⟨negative, n, 0⟩).isSome = true := by
  unfold ofNumeral?
  rw [if_pos (roundMagnitude_whole_lt below)]
  rfl

end Binary64

/-! ## Whole numbers as numerals -/

/-- The digits of a text that writes a whole number. -/
theorem Whole.digits_of_ofText? {text : List Char} {n : Int} (written : ofText? text = some n) :
    (Text.takeSign text).2 ≠ [] ∧ (Text.takeSign text).2.all Text.isDigit = true
      ∧ Text.digitsValue (Text.takeSign text).2 < 2 ^ 64 := by
  have range := ofText?_range written
  unfold ofText? at written
  simp only at written
  split at written
  · cases written
  · rename_i accepted
    obtain ⟨nonempty, digits⟩ := Text.not_refused_iff.1 accepted
    refine ⟨nonempty, digits, ?_⟩
    obtain ⟨value, -, -⟩ := inRange?_eq_some_iff.1 written
    have low : (-9223372036854775808 : Int) ≤ n := range.1
    have high : n ≤ 9223372036854775807 := range.2
    split at value <;> omega

/-- Digits alone are a numeral without places. -/
theorem Numeral.ofText?_of_digits {text : List Char} (nonempty : (Text.takeSign text).2 ≠ [])
    (digits : (Text.takeSign text).2.all Text.isDigit = true) :
    ofText? text = some ⟨(Text.takeSign text).1, Text.digitsValue (Text.takeSign text).2, 0⟩ := by
  let m : Mantissa := ⟨(Text.takeSign text).2, none, digits, rfl, by simpa using nonempty⟩
  have split : (Text.takeSign text).2 = m.text ++ [] := by simp [m, Mantissa.text, Mantissa.fractionText]
  have digits' : m.digits = (Text.takeSign text).2 := List.append_nil _
  rw [ofText?_of_parts split rfl, digits']
  rfl

/-- A text that writes a whole number writes a finite binary64 number. -/
theorem Binary64.isSome_ofText?_of_whole {text : List Char} {n : Int} (written : Whole.ofText? text = some n) :
    (ofText? text).isSome = true := by
  obtain ⟨nonempty, digits, below⟩ := Whole.digits_of_ofText? written
  unfold ofText?
  rw [Numeral.ofText?_of_digits nonempty digits]
  exact isSome_ofNumeral?_of_lt below

end QueryFilter
