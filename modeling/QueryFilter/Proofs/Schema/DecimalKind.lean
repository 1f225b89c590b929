/-
Which checked decimals are bound as decimals.

The check of a decimal takes it through binary64, which has room for far greater numbers and far greater exponents than
decimals have. So a raw value that passes the check is bound as a decimal only when a decimal reaches its mantissa and
its exponent, and stays text otherwise (`Value.checked_decimal_iff`); it may stay text although the number it writes is
a decimal (`Value.checked_decimal_stays_text`).
-/
import QueryFilter.Proofs.Number.Decimals
import QueryFilter.Proofs.Schema.Kinds

namespace QueryFilter

/-- A raw value that passes the check of a decimal writes a numeral. -/
theorem Violation.numeral_of_ofValue? {name raw : String} (checked : ofValue? name .decimal raw = none) :
    ∃ numeral, Numeral.ofText? (Text.trim raw.toList) = some numeral := by
  simp only [ofValue?] at checked
  split at checked
  · rename_i number
    unfold Value.number? Binary64.ofText? at number
    obtain ⟨x, written⟩ := Option.isSome_iff_exists.1 number
    obtain ⟨numeral, written, -⟩ := Option.bind_eq_some_iff.1 written
    exact ⟨numeral, written⟩
  · cases checked

namespace Value

theorem isSome_read?_decimal {type : FieldType} (decimal : type.element = .decimal) (raw : String) :
    (read? type raw).isSome = (Decimal.ofText? (Text.trim raw.toList)).isSome := by
  unfold read?
  rw [decimal]
  exact Option.isSome_map

theorem OfKind.exists_decimal {value : Value} (kind : value.OfKind .decimal) : ∃ d, value = .decimal d := by
  cases kind
  exact ⟨_, rfl⟩

theorem exists_decimal_iff {type : FieldType} (decimal : type.element = .decimal) (raw : String) :
    (∃ d, coerce type raw = .decimal d) ↔ (Decimal.ofText? (Text.trim raw.toList)).isSome = true := by
  rw [← isSome_read?_decimal decimal, ← ofKind_coerce_iff, decimal]
  constructor
  · rintro ⟨d, bound⟩
    rw [bound]
    exact .decimal d
  · exact OfKind.exists_decimal

/-- **Checked decimals.** A raw value that passes the check of a decimal has a mantissa and an exponent. It is bound as
a decimal exactly when the exponent is no greater than the most places, up or down, and the mantissa, multiplied by the
power of ten of a positive exponent, is more than half a unit below the bound of the coefficients; otherwise it is bound
as text. -/
theorem checked_decimal_iff {type : FieldType} (decimal : type.element = .decimal) {name raw : String}
    (checked : Violation.ofValue? name type.element raw = none) :
    ∃ (mantissa : Numeral) (exponent : Int),
      Numeral.ofText? (Numeral.mantissaText (Text.trim raw.toList)) = some mantissa
        ∧ Numeral.readExponent? (Numeral.exponentText (Text.trim raw.toList)) = some exponent
        ∧ Numeral.ofText? (Text.trim raw.toList) =
          some { mantissa with exponent := exponent + mantissa.exponent }
        ∧ ((∃ d, coerce type raw = .decimal d) ↔
          Decimal.Reaches mantissa.coefficient (-mantissa.exponent).toNat exponent)
        ∧ ((¬ ∃ d, coerce type raw = .decimal d) → coerce type raw = .text raw) := by
  obtain ⟨numeral, written⟩ := Violation.numeral_of_ofValue? (decimal ▸ checked)
  obtain ⟨m, rest, exponent, split, read⟩ := Numeral.exists_parts written
  refine ⟨_, exponent, Numeral.ofText?_mantissaText split read, ?_, ?_, ?_, ?_⟩
  · rw [Numeral.exponentText_of_parts split read, read]
  · rw [Numeral.ofText?_of_parts split read, Int.sub_eq_add_neg]
  · rw [exists_decimal_iff decimal, Decimal.isSome_ofText?_iff split read, Int.neg_neg, Int.toNat_natCast]
  · intro other
    rw [coerce_eq_text_iff, decimal]
    exact fun kind => other kind.exists_decimal

/-- The greatest coefficient is reached with all its places and the exponent that takes them away, one unit more is
not. -/
theorem checked_decimal_iff_greatest :
    Violation.ofValue? "unitPrice" .decimal " 7.9228162514264337593543950335e28" = none
      ∧ (∃ d, coerce (.collection .decimal) " 7.9228162514264337593543950335e28" = .decimal d)
      ∧ Violation.ofValue? "unitPrice" .decimal "79228162514264337593543950336" = none
      ∧ coerce (.collection .decimal) "79228162514264337593543950336" = .text "79228162514264337593543950336" := by
  have checked : Violation.ofValue? "unitPrice" .decimal " 7.9228162514264337593543950335e28" = none := by decide +kernel
  have checked' : Violation.ofValue? "unitPrice" .decimal "79228162514264337593543950336" = none := by decide +kernel
  have element : FieldType.element (.collection .decimal) = .decimal := rfl
  refine ⟨checked, ?_, checked', ?_⟩
  · obtain ⟨mantissa, exponent, front, back, -, bound, -⟩ := checked_decimal_iff element checked
    have mantissa' : Numeral.ofText? (Numeral.mantissaText (Text.trim
        " 7.9228162514264337593543950335e28".toList)) = some ⟨false, 79228162514264337593543950335, -28⟩ := by
      decide +kernel
    have exponent' : Numeral.readExponent? (Numeral.exponentText (Text.trim
        " 7.9228162514264337593543950335e28".toList)) = some 28 := by decide +kernel
    cases front.symm.trans mantissa'
    cases back.symm.trans exponent'
    exact bound.2 (by decide)
  · obtain ⟨mantissa, exponent, front, back, -, bound, other⟩ := checked_decimal_iff element checked'
    have mantissa' : Numeral.ofText? (Numeral.mantissaText (Text.trim "79228162514264337593543950336".toList)) =
        some ⟨false, 79228162514264337593543950336, 0⟩ := by decide +kernel
    have exponent' : Numeral.readExponent? (Numeral.exponentText (Text.trim
        "79228162514264337593543950336".toList)) = some 0 := by decide +kernel
    cases front.symm.trans mantissa'
    cases back.symm.trans exponent'
    exact other fun reached => absurd (bound.1 reached) (by decide)

/-- A number with twenty-nine digits that is a decimal passes the check as half of a power of ten, and stays text. -/
theorem checked_decimal_stays_text :
    Violation.ofValue? "unitPrice" .decimal "0.5e29" = none
      ∧ coerce .decimal "0.5e29" = .text "0.5e29"
      ∧ ∃ d, coerce .decimal "50000000000000000000000000000" = .decimal d := by
  have unread : Decimal.ofText? (Text.trim "0.5e29".toList) = none := by decide +kernel
  have read : (Decimal.ofText? (Text.trim "50000000000000000000000000000".toList)).isSome = true := by decide +kernel
  refine ⟨by decide +kernel, ?_, (exists_decimal_iff rfl _).2 read⟩
  unfold coerce read?
  simp only [FieldType.element, unread]
  rfl

end Value

end QueryFilter
