/-
How far a decimal reaches.

A mantissa keeps as many digits as its coefficient and its places have room for, and the first digit dropped rounds the
last one kept. Whether the outcome still fits when it is multiplied by a power of ten does not depend on what was
dropped: it fits exactly when the number written is more than half a unit below the bound of the coefficients
(`Decimal.fitsAt_mantissa`). The multiplier one is the case of the mantissa alone.

Both sides come down to the same comparison. A coefficient that has no room for one more digit can be multiplied by the
power of ten of its places and by no greater one (`Decimal.scaled_lt_iff`), and so can the number it was rounded from.
-/
import Mathlib.Tactic.Positivity
import Mathlib.Tactic.Ring
import QueryFilter.Number.Decimal
import QueryFilter.Proofs.Number.Mantissa

namespace QueryFilter

namespace Text

theorem digitValue_le {c : Char} (digit : isDigit c = true) : digitValue c ≤ 9 := by
  have bounds : '0' ≤ c ∧ c ≤ '9' := by simpa [isDigit] using digit
  have high : c.toNat ≤ 57 := bounds.2
  have zero : '0'.toNat = 48 := rfl
  unfold digitValue
  omega

theorem five_le_digitValue_iff {c : Char} (digit : isDigit c = true) :
    5 ≤ digitValue c ↔ '5' ≤ c ∧ c ≤ '9' := by
  have bounds : '0' ≤ c ∧ c ≤ '9' := by simpa [isDigit] using digit
  have zero : '0'.toNat = 48 := rfl
  have five : '5' ≤ c ↔ 53 ≤ c.toNat := Iff.rfl
  unfold digitValue
  rw [five]
  have low : 48 ≤ c.toNat := bounds.1
  exact ⟨fun up => ⟨by omega, bounds.2⟩, fun up => by omega⟩

theorem digitsValue_cons (c : Char) (cs : List Char) :
    digitsValue (c :: cs) = digitValue c * 10 ^ cs.length + digitsValue cs := by
  have split := digitsValue_append [c] cs
  rwa [List.singleton_append, Nat.pow_eq, show digitsValue [c] = digitValue c from Nat.zero_add _] at split

/-- Digits behind a number, one of them read on to it. -/
theorem behind_digitsValue_cons (n : Nat) (c : Char) (cs : List Char) :
    n * 10 ^ (c :: cs).length + digitsValue (c :: cs) = (n * 10 + digitValue c) * 10 ^ cs.length + digitsValue cs := by
  rw [digitsValue_cons, List.length_cons]
  ring

theorem digitsValue_lt {cs : List Char} (digits : cs.all isDigit = true) : digitsValue cs < 10 ^ cs.length := by
  induction cs with
  | nil => decide
  | cons c cs ih =>
    rw [List.all_cons, Bool.and_eq_true] at digits
    have rest := ih digits.2
    have first : digitValue c * 10 ^ cs.length ≤ 9 * 10 ^ cs.length :=
      Nat.mul_le_mul_right _ (digitValue_le digits.1)
    rw [digitsValue_cons, List.length_cons, Nat.pow_succ]
    omega

end Text

namespace Decimal

/-- What has been read fits when it is multiplied by a power of ten. -/
def FitsAt (exponent : Nat) : Option (Nat × Nat) → Prop
  | some (coefficient, scale) => coefficient * 10 ^ exponent < coefficientBound * 10 ^ scale
  | none => False

/-- The number n / 10 ^ places is more than half a unit below the bound of the coefficients. -/
def InRange (n places : Nat) : Prop :=
  2 * n < (2 * coefficientBound - 1) * 10 ^ places

instance (n places : Nat) : Decidable (InRange n places) :=
  inferInstanceAs (Decidable (_ < _))

/-! ## Multiplying by powers of ten -/

/-- Of two numbers, the first less but not ten times less, the first stays less until it is multiplied by a greater
power of ten. -/
theorem scaled_lt_iff {a b e s : Nat} (below : a < b) (top : e ≤ s ∨ b ≤ 10 * a) :
    a * 10 ^ e < b * 10 ^ s ↔ e ≤ s := by
  constructor
  · intro less
    rcases top with low | top
    · exact low
    · by_contra high
      have reached : b * 10 ^ s ≤ a * 10 ^ e :=
        calc b * 10 ^ s ≤ 10 * a * 10 ^ s := Nat.mul_le_mul_right _ top
          _ = a * 10 ^ (s + 1) := by ring
          _ ≤ a * 10 ^ e := Nat.mul_le_mul_left a (Nat.pow_le_pow_right (by decide) (by omega))
      omega
  · intro low
    calc a * 10 ^ e ≤ a * 10 ^ s := Nat.mul_le_mul_left a (Nat.pow_le_pow_right (by decide) low)
      _ < b * 10 ^ s := Nat.mul_lt_mul_of_pos_right below (by positivity)

section

variable {c d e n s j : Nat}

theorem fitsAt_some : FitsAt e (some (c, s)) ↔ c * 10 ^ e < coefficientBound * 10 ^ s := Iff.rfl

theorem fitsAt_some_iff (small : c < coefficientBound) (top : e ≤ s ∨ coefficientBound ≤ 10 * c) :
    FitsAt e (some (c, s)) ↔ e ≤ s :=
  scaled_lt_iff small top

theorem inRange_scaled_iff : InRange (n * 10 ^ e) (s + j) ↔
    2 * n * 10 ^ e < (2 * coefficientBound - 1) * 10 ^ j * 10 ^ s := by
  unfold InRange
  rw [Nat.pow_add, Nat.mul_comm (10 ^ s), ← Nat.mul_assoc, ← Nat.mul_assoc]

/-- A number whose last places are dropped, rounding below the bound. -/
theorem inRange_iff_of_lt (below : 2 * n < (2 * coefficientBound - 1) * 10 ^ j)
    (top : e ≤ s ∨ coefficientBound * 10 ^ j ≤ 10 * n) : InRange (n * 10 ^ e) (s + j) ↔ e ≤ s := by
  rw [inRange_scaled_iff]
  refine scaled_lt_iff below (top.imp_right fun top => ?_)
  have less : (2 * coefficientBound - 1) * 10 ^ j ≤ 2 * coefficientBound * 10 ^ j :=
    Nat.mul_le_mul_right _ (Nat.sub_le _ _)
  rw [Nat.mul_assoc] at less
  omega

/-- A number whose last places are dropped, rounding up to the bound. -/
theorem inRange_iff_of_ge (reached : (2 * coefficientBound - 1) * 10 ^ j ≤ 2 * n) (below : n < coefficientBound * 10 ^ j) :
    InRange (n * 10 ^ e) (s + j) ↔ e < s := by
  rw [inRange_scaled_iff]
  cases s with
  | zero =>
    have multiplied : 2 * n ≤ 2 * n * 10 ^ e := Nat.le_mul_of_pos_right _ (by positivity)
    rw [Nat.pow_zero, Nat.mul_one]
    omega
  | succ s =>
    have wide : 2 * n < 10 * ((2 * coefficientBound - 1) * 10 ^ j) := by
      have weight : coefficientBound * 10 ^ j ≤ (2 * coefficientBound - 1) * 10 ^ j :=
        Nat.mul_le_mul_right _ (by decide)
      omega
    rw [Nat.pow_succ, Nat.mul_comm (10 ^ s), ← Nat.mul_assoc, Nat.mul_comm _ 10,
      scaled_lt_iff wide (.inr (Nat.mul_le_mul_left 10 reached)), Nat.lt_succ_iff]

/-- The power of ten of the places cancels against a greater one. -/
theorem mul_pow_lt_iff {a b : Nat} (le : s ≤ e) : a * 10 ^ e < b * 10 ^ s ↔ a * 10 ^ (e - s) < b := by
  obtain ⟨k, rfl⟩ := Nat.exists_eq_add_of_le le
  rw [Nat.add_sub_cancel_left, Nat.pow_add, Nat.mul_comm (10 ^ s), ← Nat.mul_assoc]
  exact Nat.mul_lt_mul_right (by positivity)

/-- A number that is read with all its digits. -/
theorem fitsAt_exact_iff (small : c < coefficientBound) : FitsAt e (some (c, s)) ↔ InRange (c * 10 ^ e) s := by
  rw [fitsAt_some, InRange, ← Nat.mul_assoc]
  rcases Nat.le_total s e with high | low
  · rw [mul_pow_lt_iff high, mul_pow_lt_iff high, Nat.mul_assoc]
    omega
  · rw [scaled_lt_iff small (.inl low), scaled_lt_iff (by omega) (.inl low)]

end

/-! ## Dropping digits -/

/-- The outcome of dropping digits, the first of them `d` and the others `w`: neither the coefficient nor its places
have room for `d`. -/
theorem fitsAt_dropped_iff {c d w k s e : Nat} (small : c < coefficientBound) (digit : d ≤ 9) (others : w < 10 ^ k)
    (full : e ≤ s ∨ coefficientBound ≤ c * 10 + d) :
    FitsAt e (if 5 ≤ d then roundUp? c s else some (c, s)) ↔
      InRange (((c * 10 + d) * 10 ^ k + w) * 10 ^ e) (s + (k + 1)) := by
  have bound : coefficientBound = 79228162514264337593543950336 := rfl
  have low : (c * 10 + d) * 10 ^ k ≤ (c * 10 + d) * 10 ^ k + w := Nat.le_add_right _ _
  have high : (c * 10 + d) * 10 ^ k + w < (c * 10 + d + 1) * 10 ^ k := by
    rw [Nat.add_mul _ 1, Nat.one_mul]
    omega
  generalize (c * 10 + d) * 10 ^ k + w = n at low high ⊢
  have weigh : ∀ a x b y, a * x ≤ b * y → a * (x * 10 ^ k) ≤ b * (y * 10 ^ k) := fun a x b y le => by
    rw [← Nat.mul_assoc, ← Nat.mul_assoc]
    exact Nat.mul_le_mul_right _ le
  have unit : ∀ a : Nat, a * 10 ^ (k + 1) = 10 * (a * 10 ^ k) := fun a => by ring
  have top : e ≤ s ∨ coefficientBound * 10 ^ (k + 1) ≤ 10 * n := full.imp_right fun full => by
    have reached := weigh 1 coefficientBound 1 (c * 10 + d) (by omega)
    rw [unit]
    omega
  by_cases up : 5 ≤ d
  · rw [if_pos up, roundUp?]
    by_cases room : c + 1 < coefficientBound
    · -- The last digit goes up and stays in range.
      have below := weigh 2 (c * 10 + d + 1) 10 (2 * coefficientBound - 1) (by omega)
      rw [if_pos room, fitsAt_some_iff room (full.imp_right (by omega)), inRange_iff_of_lt (by rw [unit]; omega) top]
    · -- The coefficient reaches its bound and loses a digit.
      have reached := weigh 10 (2 * coefficientBound - 1) 2 (c * 10 + d) (by omega)
      have below := weigh 1 (c * 10 + d + 1) 10 coefficientBound (by omega)
      rw [if_neg room, inRange_iff_of_ge (by rw [unit]; omega) (by rw [unit]; omega)]
      cases s with
      | zero => simp [FitsAt]
      | succ s =>
        rw [if_neg (Nat.succ_ne_zero s), fitsAt_some_iff (by omega) (.inr (by omega)), Nat.lt_succ_iff]
        rfl
  · have below := weigh 2 (c * 10 + d + 1) 10 (2 * coefficientBound - 1) (by omega)
    rw [if_neg up, fitsAt_some_iff small (full.imp_right (by omega)), inRange_iff_of_lt (by rw [unit]; omega) top]

/-! ## Reading digits -/

theorem dropRest?_digits {p : Progress} {d : Char} {digits : List Char} (isDigits : (d :: digits).all Text.isDigit = true) :
    dropRest? p (d :: digits) =
      if 5 ≤ Text.digitValue d then roundUp? p.coefficient p.scale else some (p.coefficient, p.scale) := by
  have isDigit := List.all_eq_true.1 isDigits
  have allowed : ((d :: digits).all fun c => Text.isDigit c || c == '_') = true :=
    List.all_eq_true.2 fun c mem => by rw [isDigit c mem, Bool.true_or]
  have first : deciding p (d :: digits) = d :: digits := by
    have digit := isDigit d List.mem_cons_self
    unfold deciding
    split
    · rfl
    · rw [List.dropWhile_cons_of_neg]
      rw [beq_iff_eq]
      rintro rfl
      cases digit
  unfold dropRest?
  rw [if_pos allowed, first]
  simp only [Text.five_le_digitValue_iff (isDigit d List.mem_cons_self)]

/-- Digits behind the point: the outcome fits when the number they write with what was read before is in range. -/
theorem fitsAt_fraction_iff {digits : List Char} (isDigits : digits.all Text.isDigit = true) {p : Progress}
    (point : p.pointSeen = true) (small : p.coefficient < coefficientBound) (scale : p.scale ≤ maxScale)
    (seen : p.digitSeen = true ∨ digits ≠ []) {e : Nat} (le : e ≤ maxScale) :
    FitsAt e (readDigits? p digits) ↔
      InRange ((p.coefficient * 10 ^ digits.length + Text.digitsValue digits) * 10 ^ e) (p.scale + digits.length) := by
  induction digits generalizing p with
  | nil =>
    have digitSeen : p.digitSeen = true := seen.resolve_right (not_not.2 rfl)
    rw [readDigits?, if_pos digitSeen, fitsAt_exact_iff small]
    simp [Text.digitsValue]
  | cons d digits ih =>
    have both := isDigits
    rw [List.all_cons, Bool.and_eq_true] at both
    have dropped := fun full => fitsAt_dropped_iff (e := e) (s := p.scale) small (Text.digitValue_le both.1)
      (Text.digitsValue_lt both.2) full
    rw [Text.behind_digitsValue_cons, List.length_cons, readDigits?, dropRest?_digits isDigits, point, Bool.true_and]
    by_cases last : maxScale ≤ p.scale
    · rw [if_pos (decide_eq_true last)]
      exact dropped (.inl (by omega))
    · rw [if_neg (by simpa using last), if_pos both.1]
      by_cases room : (p.push d).coefficient < coefficientBound
      · -- The number written stays the same when a digit is read on to the coefficient.
        have placed : (p.push d).scale = p.scale + 1 := if_pos point
        rw [if_pos room, ih both.2 (p := p.push d) point room (by omega) (.inl rfl), placed, Nat.add_assoc,
          Nat.add_comm 1]
        rfl
      · rw [if_neg room, if_pos rfl]
        exact dropped (.inr (Nat.not_lt.1 room))

/-- Digits before the point are all kept, or there is no decimal. -/
theorem readDigits?_whole {digits : List Char} (isDigits : digits.all Text.isDigit = true) {p : Progress}
    (point : p.pointSeen = false) (small : p.coefficient < coefficientBound) (rest : List Char) :
    readDigits? p (digits ++ rest) =
      if p.coefficient * 10 ^ digits.length + Text.digitsValue digits < coefficientBound then
        readDigits? { p with
          digitSeen := p.digitSeen || !digits.isEmpty
          coefficient := p.coefficient * 10 ^ digits.length + Text.digitsValue digits } rest
      else none := by
  induction digits generalizing p with
  | nil => simp [Text.digitsValue, small]
  | cons d digits ih =>
    rw [List.all_cons, Bool.and_eq_true] at isDigits
    rw [Text.behind_digitsValue_cons, List.cons_append, readDigits?, point, Bool.false_and, if_neg Bool.false_ne_true,
      if_pos isDigits.1]
    by_cases room : (p.push d).coefficient < coefficientBound
    · rw [if_pos room, ih isDigits.2 (p := p.push d) point room]
      simp [Progress.push, point]
    · -- More digits only make the number greater.
      have grown : p.coefficient * 10 + Text.digitValue d ≤
          (p.coefficient * 10 + Text.digitValue d) * 10 ^ digits.length := Nat.le_mul_of_pos_right _ (by positivity)
      have above : coefficientBound ≤ p.coefficient * 10 + Text.digitValue d := Nat.not_lt.1 room
      rw [if_neg room, if_neg Bool.false_ne_true, if_neg (by omega)]

/-- Nothing has been read. -/
def Progress.start : Progress := ⟨false, false, 0, 0⟩

/-- **The range of mantissas.** What is read of a mantissa fits, multiplied by a power of ten, exactly when the number it
writes is in range, multiplied by it. -/
theorem fitsAt_mantissa_iff (m : Mantissa) {e : Nat} (le : e ≤ maxScale) :
    FitsAt e (readDigits? .start m.text) ↔ InRange (Text.digitsValue m.digits * 10 ^ e) m.places := by
  have value : Text.digitsValue m.digits =
      Text.digitsValue m.whole * 10 ^ m.places + Text.digitsValue m.fraction := Text.digitsValue_append _ _
  have nonempty := m.nonempty
  have digits := m.fractionDigits
  unfold Mantissa.text
  rw [readDigits?_whole m.wholeDigits rfl (by decide)]
  simp only [Progress.start, Nat.zero_mul, Nat.zero_add, Bool.false_or]
  by_cases room : Text.digitsValue m.whole < coefficientBound
  · rw [if_pos room, value]
    unfold Mantissa.fractionText Mantissa.places Mantissa.fraction
    cases fraction : m.fraction? with
    | none =>
      rw [fraction, Option.getD_none, List.append_nil] at nonempty
      rw [Option.elim_none, readDigits?, if_pos (by simpa using nonempty), fitsAt_exact_iff room]
      simp [Text.digitsValue]
    | some fraction' =>
      rw [fraction, Option.getD_some] at nonempty digits
      rw [Ne, List.append_eq_nil_iff, not_and_or] at nonempty
      have behind := fitsAt_fraction_iff digits
        (p := ⟨!m.whole.isEmpty, true, Text.digitsValue m.whole, 0⟩) rfl room (Nat.zero_le _) (by simpa using nonempty) le
      rw [Nat.zero_add] at behind
      rw [Option.elim_some, Option.getD_some, ← behind]
      rfl
  · have reached : coefficientBound * 10 ^ m.places ≤ Text.digitsValue m.whole * 10 ^ m.places :=
      Nat.mul_le_mul_right _ (Nat.not_lt.1 room)
    have multiplied : Text.digitsValue m.digits ≤ Text.digitsValue m.digits * 10 ^ e :=
      Nat.le_mul_of_pos_right _ (by positivity)
    have bound : (2 * coefficientBound - 1) * 10 ^ m.places ≤ 2 * coefficientBound * 10 ^ m.places :=
      Nat.mul_le_mul_right _ (Nat.sub_le _ _)
    rw [Nat.mul_assoc] at bound
    rw [if_neg room]
    simp only [FitsAt, InRange, false_iff, not_lt]
    omega

end Decimal

end QueryFilter
