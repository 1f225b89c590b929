/-
The parts of a numeral.

Behind its sign a numeral is a mantissa, digits with at most one point among them, and then an exponent. A text that
is a numeral has these parts (`Numeral.exists_parts`), and a text with these parts is one (`Numeral.ofText?_of_parts`).
The mantissa ends where the exponent's letter stands (`Numeral.mantissaText_of_parts`), so it is a numeral by itself,
with the same sign and digits.
-/
import Mathlib.Data.List.TakeWhile
import QueryFilter.Number.Numeral

namespace QueryFilter

namespace Text

/-- A text that does not begin with a character of a kind. -/
def Stops (p : Char → Bool) (rest : List Char) : Prop :=
  ∀ c, rest.head? = some c → p c = false

theorem stops_nil (p : Char → Bool) : Stops p [] := nofun

theorem stops_cons {p : Char → Bool} {c : Char} (other : p c = false) (rest : List Char) : Stops p (c :: rest) := by
  intro d first
  cases first
  exact other

theorem takeWhile_of_stops {p : Char → Bool} {run rest : List Char} (inside : run.all p = true)
    (stops : Stops p rest) : (run ++ rest).takeWhile p = run := by
  rw [List.takeWhile_append_of_pos (List.all_eq_true.1 inside)]
  cases rest with
  | nil => rw [List.takeWhile_nil, List.append_nil]
  | cons c rest => rw [List.takeWhile_cons_of_neg (by simp [stops c rfl]), List.append_nil]

theorem dropWhile_of_stops {p : Char → Bool} {run rest : List Char} (inside : run.all p = true)
    (stops : Stops p rest) : (run ++ rest).dropWhile p = rest := by
  rw [List.dropWhile_append_of_pos (List.all_eq_true.1 inside)]
  cases rest with
  | nil => rfl
  | cons c rest => rw [List.dropWhile_cons_of_neg (by simp [stops c rfl])]

theorem all_takeWhile (p : Char → Bool) (cs : List Char) : (cs.takeWhile p).all p = true :=
  List.all_eq_true.2 fun _ mem => List.mem_takeWhile_imp mem

/-- What readers of whole numbers do not refuse. -/
theorem not_refused_iff {digits : List Char} :
    ¬ (digits.isEmpty || !digits.all isDigit) = true ↔ digits ≠ [] ∧ digits.all isDigit = true := by
  rw [Bool.or_eq_true, List.isEmpty_iff, Bool.not_eq_true', not_or, Bool.not_eq_false]

theorem takeSign_cases (cs : List Char) :
    (∃ rest, cs = '-' :: rest ∧ takeSign cs = (true, rest))
      ∨ (∀ rest, cs ≠ '-' :: rest) ∧ ∃ rest, (cs = rest ∨ cs = '+' :: rest) ∧ takeSign cs = (false, rest) := by
  unfold takeSign
  split
  · rename_i rest
    exact .inl ⟨rest, rfl, rfl⟩
  · rename_i rest
    exact .inr ⟨by simp, rest, .inr rfl, rfl⟩
  · rename_i noMinus _
    exact .inr ⟨noMinus, cs, .inl rfl, rfl⟩

/-- The sign is taken off a front part of a text as off the whole, when the part has it. -/
theorem takeSign_takeWhile {p : Char → Bool} (minus : p '-' = true) (plus : p '+' = true) (cs : List Char) :
    takeSign (cs.takeWhile p) = ((takeSign cs).1, (takeSign cs).2.takeWhile p) := by
  cases cs with
  | nil => rfl
  | cons c cs =>
    by_cases isMinus : c = '-'
    · subst isMinus
      rw [List.takeWhile_cons_of_pos minus]
      rfl
    · by_cases isPlus : c = '+'
      · subst isPlus
        rw [List.takeWhile_cons_of_pos plus]
        rfl
      · by_cases inside : p c = true
        · simp [takeSign, List.takeWhile_cons_of_pos inside, isMinus, isPlus]
        · simp [takeSign, List.takeWhile_cons_of_neg inside, isMinus, isPlus]

theorem dropWhile_takeSign {p : Char → Bool} (minus : p '-' = true) (plus : p '+' = true) (cs : List Char) :
    (takeSign cs).2.dropWhile p = cs.dropWhile p := by
  unfold takeSign
  split
  · rw [List.dropWhile_cons_of_pos minus]
  · rw [List.dropWhile_cons_of_pos plus]
  · rfl

end Text

/-- Digits, one at least, and a point before some of them or none at all. -/
structure Mantissa where
  whole : List Char
  fraction? : Option (List Char)
  wholeDigits : whole.all Text.isDigit = true
  fractionDigits : (fraction?.getD []).all Text.isDigit = true
  nonempty : whole ++ fraction?.getD [] ≠ []

namespace Mantissa

/-- The digits after the point. -/
def fraction (m : Mantissa) : List Char :=
  m.fraction?.getD []

def digits (m : Mantissa) : List Char :=
  m.whole ++ m.fraction

/-- The number of digits after the point. -/
def places (m : Mantissa) : Nat :=
  m.fraction.length

/-- The point and the digits after it, if there is a point. -/
def fractionText (m : Mantissa) : List Char :=
  m.fraction?.elim [] ('.' :: ·)

def text (m : Mantissa) : List Char :=
  m.whole ++ m.fractionText

end Mantissa

namespace Numeral

/-- No letter of an exponent. -/
def isMantissa (c : Char) : Bool :=
  c != 'e' && c != 'E'

/-- The text in front of the letter of an exponent. -/
def mantissaText (text : List Char) : List Char :=
  text.takeWhile isMantissa

/-- The letter of an exponent and the text after it. -/
def exponentText (text : List Char) : List Char :=
  text.dropWhile isMantissa

theorem isMantissa_of_isDigit {c : Char} (digit : Text.isDigit c = true) : isMantissa c = true := by
  unfold isMantissa
  rw [Bool.and_eq_true, bne_iff_ne, bne_iff_ne]
  constructor
  · rintro rfl
    cases digit
  · rintro rfl
    cases digit

/-- Where an exponent is read, there is none or its letter stands in front. -/
theorem readExponent?_cases {rest : List Char} {exponent : Int} (read : readExponent? rest = some exponent) :
    rest = [] ∨ ∃ letter digits, rest = letter :: digits ∧ isMantissa letter = false := by
  cases rest with
  | nil => exact .inl rfl
  | cons letter digits =>
    by_cases isLetter : letter = 'e' ∨ letter = 'E'
    · exact .inr ⟨letter, digits, rfl, by rcases isLetter with rfl | rfl <;> rfl⟩
    · rw [readExponent?, if_neg isLetter] at read
      cases read

theorem stops_of_readExponent? {p : Char → Bool} {rest : List Char} {exponent : Int}
    (read : readExponent? rest = some exponent) (inside : ∀ c, p c = true → isMantissa c = true) :
    Text.Stops p rest := by
  rcases readExponent?_cases read with rfl | ⟨letter, digits, rfl, isLetter⟩
  · exact Text.stops_nil p
  · refine Text.stops_cons ?_ digits
    cases held : p letter with
    | false => rfl
    | true => rw [inside letter held] at isLetter; cases isLetter

/-- What the digits of a mantissa and an exponent are taken from. -/
theorem takeFraction_of_stops {m : Mantissa} {rest : List Char} (stops : Text.Stops Text.isDigit rest)
    (point : Text.Stops (· == '.') rest) : takeFraction (m.fractionText ++ rest) = (m.fraction, rest) := by
  have digits := m.fractionDigits
  unfold Mantissa.fractionText Mantissa.fraction
  cases fraction : m.fraction? with
  | none =>
    rw [Option.elim_none, List.nil_append, Option.getD_none]
    unfold takeFraction
    split
    · cases point '.' rfl
    · rfl
  | some digits' =>
    rw [fraction, Option.getD_some] at digits
    rw [Option.elim_some, Option.getD_some, List.cons_append, takeFraction, Text.takeWhile_of_stops digits stops,
      Text.dropWhile_of_stops digits stops]

/-- A mantissa and an exponent behind a sign are a numeral. -/
theorem ofText?_of_parts {text rest : List Char} {m : Mantissa} {exponent : Int}
    (split : (Text.takeSign text).2 = m.text ++ rest) (read : readExponent? rest = some exponent) :
    ofText? text = some ⟨(Text.takeSign text).1, Text.digitsValue m.digits, exponent - m.places⟩ := by
  have stops := stops_of_readExponent? read fun _ => isMantissa_of_isDigit
  have point : Text.Stops (· == '.') rest :=
    stops_of_readExponent? read fun c isPoint => by rw [beq_iff_eq.1 isPoint]; decide
  have next : Text.Stops Text.isDigit (m.fractionText ++ rest) := by
    unfold Mantissa.fractionText
    cases m.fraction? with
    | none => exact stops
    | some digits => exact Text.stops_cons (by decide) _
  have nonempty : ¬ (m.whole.isEmpty && m.fraction.isEmpty) = true := by
    rw [Bool.and_eq_true, List.isEmpty_iff, List.isEmpty_iff, ← List.append_eq_nil_iff]
    exact m.nonempty
  unfold ofText?
  simp only [split, Mantissa.text, List.append_assoc, Text.takeWhile_of_stops m.wholeDigits next,
    Text.dropWhile_of_stops m.wholeDigits next, takeFraction_of_stops stops point, if_neg nonempty, read]
  rfl

/-- A numeral has a mantissa and an exponent behind its sign. -/
theorem exists_parts {text : List Char} {numeral : Numeral} (written : ofText? text = some numeral) :
    ∃ (m : Mantissa) (rest : List Char) (exponent : Int),
      (Text.takeSign text).2 = m.text ++ rest ∧ readExponent? rest = some exponent := by
  unfold ofText? at written
  simp only at written
  have split := List.takeWhile_append_dropWhile (p := Text.isDigit) (l := (Text.takeSign text).2)
  have whole := Text.all_takeWhile Text.isDigit (Text.takeSign text).2
  generalize (Text.takeSign text).2.takeWhile Text.isDigit = digits,
    (Text.takeSign text).2.dropWhile Text.isDigit = behind at written split whole
  split at written
  · cases written
  · rename_i visible
    obtain ⟨exponent, read, -⟩ := Option.map_eq_some_iff.1 written
    unfold takeFraction at visible read
    split at visible
    · rename_i fraction
      refine ⟨⟨digits, some (fraction.takeWhile Text.isDigit), whole, Text.all_takeWhile _ _, ?_⟩,
        fraction.dropWhile Text.isDigit, exponent, ?_, read⟩
      · simpa [List.append_eq_nil_iff] using visible
      · rw [← split]
        simp [Mantissa.text, Mantissa.fractionText]
    · refine ⟨⟨digits, none, whole, rfl, by simpa using visible⟩, behind, exponent, ?_, ?_⟩
      · rw [← split]
        simp [Mantissa.text, Mantissa.fractionText]
      · simpa using read

theorem all_isMantissa_text (m : Mantissa) : m.text.all isMantissa = true := by
  have inside : ∀ digits : List Char, digits.all Text.isDigit = true → digits.all isMantissa = true :=
    fun digits all => List.all_eq_true.2 fun c mem => isMantissa_of_isDigit (List.all_eq_true.1 all c mem)
  have digits := m.fractionDigits
  unfold Mantissa.text Mantissa.fractionText
  rw [List.all_append, inside _ m.wholeDigits, Bool.true_and]
  cases fraction : m.fraction? with
  | none => rfl
  | some digits' =>
    rw [fraction] at digits
    rw [Option.elim_some, List.all_cons, inside digits' digits]
    rfl

section

variable {text rest : List Char} {m : Mantissa} {exponent : Int}

/-- The mantissa ends where the exponent begins. -/
theorem mantissaText_of_parts (split : (Text.takeSign text).2 = m.text ++ rest)
    (read : readExponent? rest = some exponent) :
    Text.takeSign (mantissaText text) = ((Text.takeSign text).1, m.text) := by
  have stops := stops_of_readExponent? read fun _ inside => inside
  unfold mantissaText
  rw [Text.takeSign_takeWhile rfl rfl, split, Text.takeWhile_of_stops (all_isMantissa_text m) stops]

theorem exponentText_of_parts (split : (Text.takeSign text).2 = m.text ++ rest)
    (read : readExponent? rest = some exponent) : exponentText text = rest := by
  have stops := stops_of_readExponent? read fun _ inside => inside
  unfold exponentText
  rw [← Text.dropWhile_takeSign rfl rfl, split, Text.dropWhile_of_stops (all_isMantissa_text m) stops]

/-- The mantissa by itself is a numeral of the same sign and digits. -/
theorem ofText?_mantissaText (split : (Text.takeSign text).2 = m.text ++ rest)
    (read : readExponent? rest = some exponent) :
    ofText? (mantissaText text) = some ⟨(Text.takeSign text).1, Text.digitsValue m.digits, -m.places⟩ := by
  have parts := mantissaText_of_parts split read
  have alone : (Text.takeSign (mantissaText text)).2 = m.text ++ [] := by rw [parts, List.append_nil]
  rw [ofText?_of_parts alone rfl, parts, Int.zero_sub]

end

end Numeral

end QueryFilter
