/-
Whole numbers of 64 bits, as text.

A whole number is an optional sign and at least one digit, and lies in the range of signed 64-bit words.
-/
import QueryFilter.Text.Digits

namespace QueryFilter.Whole

/-- The least and the greatest whole number that can be bound. -/
def least : Int := -9223372036854775808

def greatest : Int := 9223372036854775807

/-- A number that is in the range. -/
def inRange? (n : Int) : Option Int :=
  if least ≤ n ∧ n ≤ greatest then some n else none

/-- The whole number a text writes; a text outside the range writes none. -/
def ofText? (text : List Char) : Option Int :=
  let (negative, digits) := Text.takeSign text
  if digits.isEmpty || !digits.all Text.isDigit then none
  else
    let magnitude : Int := Text.digitsValue digits
    inRange? (if negative then -magnitude else magnitude)

theorem inRange?_eq_some_iff {n m : Int} : inRange? n = some m ↔ n = m ∧ least ≤ n ∧ n ≤ greatest := by
  unfold inRange?
  split
  · rename_i range
    simp [range]
  · rename_i outside
    simp only [reduceCtorEq, false_iff, not_and]
    exact fun _ low high => outside ⟨low, high⟩

theorem ofText?_range {text : List Char} {n : Int} (h : ofText? text = some n) :
    least ≤ n ∧ n ≤ greatest := by
  unfold ofText? at h
  simp only at h
  split at h
  · cases h
  · obtain ⟨rfl, range⟩ := inRange?_eq_some_iff.1 h
    exact range

end QueryFilter.Whole
