/-
Which numerals are decimals.

A numeral is a decimal exactly when its exponent is no greater than the most places, up or down, and its mantissa,
multiplied by the power of ten of a positive exponent, is in range (`Decimal.isSome_ofText?_iff`). So the numerals that
are no decimals are those too great, and those with an exponent that the places cannot follow, whatever number they
write.
-/
import QueryFilter.Proofs.Number.Rounding

namespace QueryFilter.Decimal

/-! ## Mantissas -/

/-- A coefficient and a scale that make a decimal. -/
def Fits (read : Nat × Nat) : Prop :=
  read.1 < coefficientBound ∧ read.2 ≤ maxScale

theorem fits_of_roundUp? {coefficient scale : Nat} {read : Nat × Nat} (fits : Fits (coefficient, scale))
    (rounded : roundUp? coefficient scale = some read) : Fits read := by
  have bound : coefficientBound = 79228162514264337593543950336 := rfl
  obtain ⟨small, places⟩ := fits
  unfold roundUp? at rounded
  split at rounded
  · rename_i room
    cases rounded
    exact ⟨room, places⟩
  · split at rounded
    · cases rounded
    · cases rounded
      exact ⟨by dsimp only at small ⊢; omega, by dsimp only at places ⊢; omega⟩

theorem fits_of_dropRest? {p : Progress} {rest : List Char} {read : Nat × Nat} (fits : Fits (p.coefficient, p.scale))
    (dropped : dropRest? p rest = some read) : Fits read := by
  unfold dropRest? at dropped
  split at dropped
  · split at dropped
    · split at dropped
      · exact fits_of_roundUp? fits dropped
      · cases dropped
        exact fits
    · cases dropped
      exact fits
  · cases dropped

theorem isMantissa_of_dropRest? {p : Progress} {rest : List Char} {read : Nat × Nat}
    (dropped : dropRest? p rest = some read) : ∀ c ∈ rest, Numeral.isMantissa c = true := by
  intro c mem
  unfold dropRest? at dropped
  split at dropped
  · rename_i allowed
    have part := List.all_eq_true.1 allowed c mem
    rw [Bool.or_eq_true, beq_iff_eq] at part
    rcases part with digit | rfl
    · exact Numeral.isMantissa_of_isDigit digit
    · rfl
  · cases dropped

/-- One step of reading: the rest is dropped, or a character is passed over that is no letter of an exponent. A digit is
kept only where there is room for it. -/
theorem readDigits?_cons {p : Progress} {c : Char} {rest : List Char} {read : Nat × Nat}
    (done : readDigits? p (c :: rest) = some read) :
    dropRest? p (c :: rest) = some read
      ∨ Numeral.isMantissa c = true ∧ ∃ q, readDigits? q rest = some read
        ∧ (Fits (p.coefficient, p.scale) → Fits (q.coefficient, q.scale)) := by
  rw [readDigits?] at done
  split at done
  · exact .inl done
  · rename_i places
    split at done
    · rename_i digit
      split at done
      · rename_i room
        refine .inr ⟨Numeral.isMantissa_of_isDigit digit, p.push c, done, fun fits => ⟨room, ?_⟩⟩
        have scale := fits.2
        simp only [Bool.and_eq_true, decide_eq_true_eq, not_and] at places
        simp only [Progress.push]
        split
        · rename_i point
          have left := places point
          omega
        · exact scale
      · split at done
        · exact .inl done
        · cases done
    · split at done
      · rename_i point
        rw [Bool.and_eq_true, decide_eq_true_eq] at point
        exact .inr ⟨by rw [point.1]; rfl, _, done, id⟩
      · split at done
        · rename_i underscore
          rw [Bool.and_eq_true, decide_eq_true_eq] at underscore
          exact .inr ⟨by rw [underscore.1]; rfl, p, done, id⟩
        · cases done

/-- What is read makes a decimal. -/
theorem fits_of_readDigits? {text : List Char} {p : Progress} {read : Nat × Nat} (fits : Fits (p.coefficient, p.scale))
    (done : readDigits? p text = some read) : Fits read := by
  induction text generalizing p with
  | nil =>
    rw [readDigits?] at done
    split at done
    · cases done
      exact fits
    · cases done
  | cons c rest ih =>
    rcases readDigits?_cons done with dropped | ⟨-, q, later, kept⟩
    · exact fits_of_dropRest? fits dropped
    · exact ih (kept fits) later

/-- What is read has no letter of an exponent. -/
theorem isMantissa_of_readDigits? {text : List Char} {p : Progress} {read : Nat × Nat}
    (done : readDigits? p text = some read) : ∀ c ∈ text, Numeral.isMantissa c = true := by
  induction text generalizing p with
  | nil => nofun
  | cons c rest ih =>
    rcases readDigits?_cons done with dropped | ⟨passed, q, later, -⟩
    · exact isMantissa_of_dropRest? dropped
    · exact List.forall_mem_cons.2 ⟨passed, ih later⟩

theorem isSome_signed?_iff (negative : Bool) {coefficient scale : Nat} :
    (signed? negative coefficient scale).isSome = true ↔ Fits (coefficient, scale) := by
  unfold signed? Fits
  split <;> simp_all

theorem isSome_make?_iff (negative : Bool) {coefficient scale : Nat} :
    (make? negative coefficient scale).isSome = true ↔ Fits (coefficient, scale) :=
  isSome_signed?_iff _

/-- A text without an exponent is a decimal of the coefficient and the scale that are read. -/
theorem map_ofPlain? (text : List Char) :
    (ofPlain? text).map (fun d => (d.coefficient, d.scale)) = readDigits? .start (Text.takeSign text).2 := by
  unfold ofPlain?
  simp only
  cases done : readDigits? ⟨false, false, 0, 0⟩ (Text.takeSign text).2 with
  | none =>
    rw [Option.bind_none, Option.map_none]
    exact done.symm
  | some read =>
    have fits := fits_of_readDigits? ⟨by decide, by decide⟩ done
    obtain ⟨d, made⟩ := Option.isSome_iff_exists.1 ((isSome_make?_iff (Text.takeSign text).1).2 fits)
    obtain ⟨coefficient, scale, -⟩ := make?_eq_some made
    rw [Option.bind_some, made, Option.map_some, coefficient, scale]
    exact done.symm

section

variable {text : List Char} {m : Mantissa}

/-- A mantissa that is read is a decimal, and all the powers of ten that it can be multiplied by are known. -/
theorem exists_ofPlain?_iff (split : (Text.takeSign text).2 = m.text) {e : Nat} (le : e ≤ maxScale) :
    (∃ d, ofPlain? text = some d ∧ FitsAt e (some (d.coefficient, d.scale))) ↔
      InRange (Text.digitsValue m.digits * 10 ^ e) m.places := by
  have read := map_ofPlain? text
  rw [split] at read
  rw [← fitsAt_mantissa_iff m le, ← read]
  cases ofPlain? text with
  | none => simp [FitsAt]
  | some d => simp

theorem isSome_ofPlain?_iff (split : (Text.takeSign text).2 = m.text) :
    (ofPlain? text).isSome = true ↔ InRange (Text.digitsValue m.digits) m.places := by
  have range := exists_ofPlain?_iff split (Nat.zero_le _)
  rw [Nat.pow_zero, Nat.mul_one] at range
  rw [← range, Option.isSome_iff_exists]
  have fits : ∀ d : Decimal, FitsAt 0 (some (d.coefficient, d.scale)) := fun d =>
    (fitsAt_some_iff d.coefficient_lt (.inl (Nat.zero_le _))).2 (Nat.zero_le _)
  simp [fits]

/-- A text with the letter of an exponent is no decimal without one. -/
theorem ofPlain?_eq_none {letter : Char} (isLetter : Numeral.isMantissa letter = false)
    (mem : letter ∈ (Text.takeSign text).2) : ofPlain? text = none := by
  have read := map_ofPlain? text
  cases plain : ofPlain? text with
  | none => rfl
  | some d =>
    rw [plain, Option.map_some] at read
    have inside := isMantissa_of_readDigits? read.symm letter mem
    rw [isLetter] at inside
    cases inside

end

/-! ## Exponents -/

/-- A mantissa n / 10 ^ places and an exponent that a decimal reaches: the places can follow the exponent, and the
mantissa leaves room for it. -/
structure Reaches (n places : Nat) (exponent : Int) : Prop where
  low : -(maxScale : Int) ≤ exponent
  high : exponent ≤ maxScale
  range : InRange (n * 10 ^ exponent.toNat) places

instance (n places : Nat) (exponent : Int) : Decidable (Reaches n places exponent) :=
  decidable_of_iff (-(maxScale : Int) ≤ exponent ∧ exponent ≤ maxScale ∧ InRange (n * 10 ^ exponent.toNat) places)
    ⟨fun ⟨low, high, range⟩ => ⟨low, high, range⟩, fun ⟨low, high, range⟩ => ⟨low, high, range⟩⟩

theorem dropDigits_lt {coefficient : Nat} (small : coefficient < coefficientBound) (count : Nat) :
    dropDigits coefficient count < coefficientBound := by
  have bound : coefficientBound = 79228162514264337593543950336 := rfl
  cases count with
  | zero => exact small
  | succ count =>
    have less : coefficient / Nat.pow 10 count ≤ coefficient := Nat.div_le_self _ _
    unfold dropDigits
    dsimp only
    omega

theorem isSome_shiftDown?_iff (d : Decimal) (n : Nat) : (shiftDown? d n).isSome = true ↔ n ≤ maxScale := by
  unfold shiftDown?
  split
  · rename_i far
    simpa using far
  · rename_i near
    rw [isSome_signed?_iff]
    have fits : Fits (dropDigits d.coefficient (d.scale + n - maxScale), d.scale + n - (d.scale + n - maxScale)) :=
      ⟨dropDigits_lt d.coefficient_lt _, by dsimp only; omega⟩
    exact ⟨fun _ => Nat.not_lt.1 near, fun _ => fits⟩

theorem isSome_shiftUp?_iff (d : Decimal) (n : Nat) :
    (shiftUp? d n).isSome = true ↔ n ≤ maxScale ∧ FitsAt n (some (d.coefficient, d.scale)) := by
  have scale := d.scale_le
  unfold shiftUp?
  split
  · rename_i low
    rw [isSome_make?_iff, fitsAt_some_iff d.coefficient_lt (.inl low)]
    exact ⟨fun _ => ⟨by omega, low⟩, fun _ => ⟨d.coefficient_lt, by dsimp only; omega⟩⟩
  · split
    · rename_i far
      simp only [Option.isSome_none, Bool.false_eq_true, false_iff, not_and]
      omega
    · rename_i high near
      rw [isSome_make?_iff, fitsAt_some, mul_pow_lt_iff (by omega), Nat.pow_eq]
      exact ⟨fun fits => ⟨by omega, fits.1⟩, fun fits => ⟨fits.2, Nat.zero_le _⟩⟩

/-- The digits of an exponent are read as a number of 32 bits, which has room for every scale. -/
theorem isSome_readUnsigned?_bind {text digits : List Char} (shape : text = digits ∨ text = '+' :: digits)
    (nonempty : digits ≠ []) (isDigits : digits.all Text.isDigit = true) {shift : Nat → Option Decimal}
    (bounded : ∀ n, (shift n).isSome = true → n ≤ maxScale) :
    ((readUnsigned? text).bind shift).isSome = true ↔ (shift (Text.digitsValue digits)).isSome = true := by
  have read : readUnsigned? text =
      if Text.digitsValue digits < 0x100000000 then some (Text.digitsValue digits) else none := by
    have accepted := Text.not_refused_iff.2 ⟨nonempty, isDigits⟩
    rcases shape with rfl | rfl
    · unfold readUnsigned?
      split
      · -- A plus is no digit.
        cases isDigits
      · exact if_neg accepted
    · exact if_neg accepted
  rw [read]
  split
  · rw [Option.bind_some]
  · rename_i great
    rw [Option.bind_none]
    constructor
    · nofun
    · intro shifted
      have scale : Text.digitsValue digits ≤ 28 := bounded _ shifted
      omega

theorem digits_of_readExponent? {letter : Char} {text : List Char} {exponent : Int}
    (read : Numeral.readExponent? (letter :: text) = some exponent) :
    (Text.takeSign text).2 ≠ [] ∧ (Text.takeSign text).2.all Text.isDigit = true
      ∧ exponent = if (Text.takeSign text).1 then -(Text.digitsValue (Text.takeSign text).2 : Int)
        else Text.digitsValue (Text.takeSign text).2 := by
  rw [Numeral.readExponent?] at read
  split at read
  · simp only at read
    split at read
    · cases read
    · rename_i accepted
      obtain ⟨nonempty, isDigits⟩ := Text.not_refused_iff.1 accepted
      cases read
      exact ⟨nonempty, isDigits, rfl⟩
  · cases read

theorem isSome_bind_iff {x : Option Decimal} {f : Decimal → Option Decimal} :
    (x.bind f).isSome = true ↔ ∃ d, x = some d ∧ (f d).isSome = true := by
  cases x <;> simp

section

variable {text rest : List Char} {m : Mantissa} {exponent : Int}

/-- The point moves down: the mantissa alone has to be in range. -/
theorem exists_shiftDown?_iff {digits : List Char} (base : (Text.takeSign text).2 = m.text) (nonempty : digits ≠ [])
    (isDigits : digits.all Text.isDigit = true) :
    (∃ d, ofPlain? text = some d ∧ ((readUnsigned? digits).bind (shiftDown? d)).isSome = true) ↔
      Reaches (Text.digitsValue m.digits) m.places (-(Text.digitsValue digits : Int)) := by
  have shifted : ∀ d, ((readUnsigned? digits).bind (shiftDown? d)).isSome = true ↔
      Text.digitsValue digits ≤ maxScale := fun d => by
    rw [isSome_readUnsigned?_bind (.inl rfl) nonempty isDigits fun n => (isSome_shiftDown?_iff d n).1,
      isSome_shiftDown?_iff]
  have multiplier : (-(Text.digitsValue digits : Int)).toNat = 0 := by omega
  simp only [shifted]
  rw [exists_and_right, ← Option.isSome_iff_exists, isSome_ofPlain?_iff base]
  constructor
  · rintro ⟨range, low⟩
    exact ⟨by omega, by omega, by rwa [multiplier, Nat.pow_zero, Nat.mul_one]⟩
  · rintro ⟨low, -, range⟩
    rw [multiplier, Nat.pow_zero, Nat.mul_one] at range
    exact ⟨range, by omega⟩

/-- The point moves up: the mantissa has to be in range behind it. -/
theorem exists_shiftUp?_iff {digits : List Char} (base : (Text.takeSign text).2 = m.text)
    (shape : rest = digits ∨ rest = '+' :: digits) (nonempty : digits ≠ []) (isDigits : digits.all Text.isDigit = true) :
    (∃ d, ofPlain? text = some d ∧ ((readUnsigned? rest).bind (shiftUp? d)).isSome = true) ↔
      Reaches (Text.digitsValue m.digits) m.places (Text.digitsValue digits) := by
  have shifted : ∀ d, ((readUnsigned? rest).bind (shiftUp? d)).isSome = true ↔
      Text.digitsValue digits ≤ maxScale ∧ FitsAt (Text.digitsValue digits) (some (d.coefficient, d.scale)) := fun d => by
    rw [isSome_readUnsigned?_bind shape nonempty isDigits fun n shifted => ((isSome_shiftUp?_iff d n).1 shifted).1,
      isSome_shiftUp?_iff]
  simp only [shifted]
  constructor
  · rintro ⟨d, plain, high, fits⟩
    exact ⟨by omega, by omega, (exists_ofPlain?_iff base high).1 ⟨d, plain, fits⟩⟩
  · rintro ⟨-, high, range⟩
    have high : Text.digitsValue digits ≤ maxScale := by omega
    obtain ⟨d, plain, fits⟩ := (exists_ofPlain?_iff base high).2 range
    exact ⟨d, plain, high, fits⟩

theorem isSome_ofScientific?_iff {letter : Char} (split : (Text.takeSign text).2 = m.text ++ letter :: rest)
    (read : Numeral.readExponent? (letter :: rest) = some exponent) :
    (ofScientific? text).isSome = true ↔ Reaches (Text.digitsValue m.digits) m.places exponent := by
  have base : (Text.takeSign (Numeral.mantissaText text)).2 = m.text := by
    rw [Numeral.mantissaText_of_parts split read]
  have tail : (text.dropWhile fun c => c != 'e' && c != 'E') = letter :: rest :=
    Numeral.exponentText_of_parts split read
  obtain ⟨nonempty, digits, rfl⟩ := digits_of_readExponent? read
  unfold ofScientific?
  rw [tail]
  change ((ofPlain? (Numeral.mantissaText text)).bind _).isSome = true ↔ _
  rw [isSome_bind_iff]
  rcases Text.takeSign_cases rest with ⟨down, rfl, signed⟩ | ⟨noMinus, up, shape, signed⟩
  · rw [signed] at nonempty digits ⊢
    exact exists_shiftDown?_iff base nonempty digits
  · rw [signed] at nonempty digits ⊢
    split
    · rename_i down
      exact absurd rfl (noMinus down)
    · exact exists_shiftUp?_iff base shape nonempty digits

/-- **The numerals that are decimals.** -/
theorem isSome_ofText?_iff (split : (Text.takeSign text).2 = m.text ++ rest)
    (read : Numeral.readExponent? rest = some exponent) :
    (ofText? text).isSome = true ↔ Reaches (Text.digitsValue m.digits) m.places exponent := by
  unfold ofText?
  rcases Numeral.readExponent?_cases read with rfl | ⟨letter, digits, rfl, isLetter⟩
  · have none : ofScientific? text = none := by
      have tail : (text.dropWhile fun c => c != 'e' && c != 'E') = [] := Numeral.exponentText_of_parts split read
      unfold ofScientific?
      rw [tail]
    cases read
    rw [List.append_nil] at split
    rw [none, Option.or_none, isSome_ofPlain?_iff split]
    constructor
    · intro range
      exact ⟨by decide, by decide, by simpa using range⟩
    · intro reaches
      simpa using reaches.range
  · rw [ofPlain?_eq_none isLetter (by rw [split]; simp), Option.none_or, isSome_ofScientific?_iff split read]

end

end QueryFilter.Decimal
