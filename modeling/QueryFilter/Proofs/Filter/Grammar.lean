/-
The grammar of filter text.

A segment is cut at its first two colons into a field, a code and perhaps a value (`FilterSegment.Parts`). Which
criterion a segment spells is said of these parts (`FilterSegment.Spells`), and what is wrong with one that spells
none is said of them as well (`FilterSegment.Faulty`). A segment is read as what it spells and refused for what is
wrong with it (`FilterSegment.read_eq_ok_iff_spells`, `FilterSegment.read_eq_error_iff`), so a text is read exactly
when each of its segments is well formed, and every other segment is reported once (`FilterText.read_iff_wellFormed`).
-/
import QueryFilter.Proofs.Filter.RoundTrip

namespace QueryFilter

/-- A text is the code of an operator, up to white space around it and the case of ASCII letters. -/
def Operator.SpelledBy (operator : Operator) (code : List Char) : Prop :=
  Text.lowerAscii (String.ofList (Text.trim code)) = Text.lowerAscii operator.code

/-- What stands after the second colon is a value as the operator takes it: nothing at all, a text that is not blank,
or a list in parentheses of elements that are not blank. -/
inductive Operator.Takes (operator : Operator) : Option (List Char) → Prop where
  | none (takesNone : operator.arity = .none) : Takes operator .none
  | single {text : List Char} (takesOne : operator.arity = .single) (visible : Text.isBlank text = false) :
    Takes operator (some text)
  | list {text inner : List Char} (takesList : operator.arity = .list)
    (parenthesized : Text.trim text = '(' :: (inner ++ [')']))
    (visible : ∀ piece ∈ Text.splitOn ',' inner, Text.isBlank piece = false) : Takes operator (some text)

/-- Why no operand of an operator is read from what stands after the second colon, if anything does. -/
inductive Operand.Refused (operator : Operator) : Option (List Char) → FilterFault → Prop where
  | unwanted (takesNone : operator.arity = .none) (text : List Char) :
    Refused operator (some text) (.unwantedValue operator)
  | absent (takes : operator.arity ≠ .none) : Refused operator .none (.missingValue operator)
  | blank {text : List Char} (takes : operator.arity ≠ .none) (blank : Text.isBlank text = true) :
    Refused operator (some text) (.missingValue operator)
  | notParenthesized {text : List Char} (takesList : operator.arity = .list) (visible : Text.isBlank text = false)
    (plain : ∀ inner, Text.trim text ≠ '(' :: (inner ++ [')'])) :
    Refused operator (some text) (.notParenthesized operator)
  | emptyList {text inner : List Char} (takesList : operator.arity = .list)
    (parenthesized : Text.trim text = '(' :: (inner ++ [')'])) (blank : Text.isBlank inner = true) :
    Refused operator (some text) .emptyList
  | emptyElement {text inner piece : List Char} (takesList : operator.arity = .list)
    (parenthesized : Text.trim text = '(' :: (inner ++ [')'])) (visible : Text.isBlank inner = false)
    (element : piece ∈ Text.splitOn ',' inner) (blank : Text.isBlank piece = true) :
    Refused operator (some text) .emptyElement

namespace FilterSegment

/-- A segment of the form `field:code` or `field:code:value`, with a field that is not blank, the code of an operator
and a value as the operator takes it. -/
inductive WellFormed (segment : List Char) : Prop where
  | of {field code : List Char} {value : Option (List Char)} {operator : Operator}
    (parts : Parts segment field code value) (visible : Text.isBlank field = false)
    (coded : operator.SpelledBy code) (takes : operator.Takes value) : WellFormed segment

/-- A segment spells a criterion. -/
inductive Spells (segment : List Char) (criterion : Criterion) : Prop where
  | of {field code : List Char} {value : Option (List Char)} (parts : Parts segment field code value)
    (visible : Text.isBlank field = false) (named : criterion.field = String.ofList (Text.trim field))
    (coded : criterion.operator.SpelledBy code) (operand : Operand.ReadFrom value criterion.operand) :
    Spells segment criterion

/-- What is wrong with a segment that is not well formed. -/
inductive Faulty (segment : List Char) : FilterFault → Prop where
  | noOperator (plain : ':' ∉ segment) : Faulty segment .noOperator
  | noField {field code : List Char} {value : Option (List Char)} (parts : Parts segment field code value)
    (blank : Text.isBlank field = true) : Faulty segment .noField
  | unknownOperator {field code : List Char} {value : Option (List Char)} (parts : Parts segment field code value)
    (visible : Text.isBlank field = false) (unknown : ∀ operator : Operator, ¬ operator.SpelledBy code) :
    Faulty segment (.unknownOperator (String.ofList (Text.trim code)))
  | operand {field code : List Char} {value : Option (List Char)} {operator : Operator} {fault : FilterFault}
    (parts : Parts segment field code value) (visible : Text.isBlank field = false)
    (coded : operator.SpelledBy code) (refused : Operand.Refused operator value fault) : Faulty segment fault

end FilterSegment

/-! ## Codes -/

namespace Operator

theorem lowerAscii_code (op : Operator) : Text.lowerAscii op.code = op.code := by
  have lower : ∀ op ∈ all, Text.lowerAscii op.code = op.code := by decide +kernel
  exact lower op (mem_all op)

theorem ofCode?_eq_some_iff {op : Operator} {code : List Char} :
    ofCode? (String.ofList code) = some op ↔ op.SpelledBy code := by
  unfold ofCode? SpelledBy
  simp only [Text.strip, String.toList_ofList, lowerAscii_code]
  constructor
  · intro found
    have folded := List.find?_some found
    rw [beq_iff_eq] at folded
    exact folded.symm
  · intro same
    have only : ∀ op ∈ all, all.find? (fun other => other.code == op.code) = some op := by decide +kernel
    rw [same]
    exact only op (mem_all op)

theorem ofCode?_eq_none_iff {code : List Char} :
    ofCode? (String.ofList code) = none ↔ ∀ op : Operator, ¬ op.SpelledBy code := by
  simp only [← ofCode?_eq_some_iff, Option.eq_none_iff_forall_ne_some, Ne]

end Operator

/-! ## Operands -/

namespace FilterSegment

theorem trim_ne_nil {text : List Char} (visible : Text.isBlank text = false) : Text.trim text ≠ [] :=
  (Text.tidy_trim visible).ne_nil

theorem parenthesized?_eq_none_iff {text : List Char} :
    parenthesized? text = none ↔ ∀ inner, text ≠ '(' :: (inner ++ [')']) := by
  simp only [Option.eq_none_iff_forall_ne_some, Ne, parenthesized?_eq_some_iff]

/-- A value that is nothing but white space is missing, as one that is not there at all. -/
theorem refused_of_trim_eq_nil {operator : Operator} {value : Option (List Char)} (takes : operator.arity ≠ .none)
    (empty : Text.trim (value.getD []) = []) : Operand.Refused operator value (.missingValue operator) := by
  cases value with
  | none => exact .absent takes
  | some text => exact .blank takes (Text.trim_eq_nil_iff.1 empty)

theorem readList_of_refused {operator : Operator} (takesList : operator.arity = .list) {value : Option (List Char)}
    {fault : FilterFault} (refused : Operand.Refused operator value fault) :
    readList operator value = .error fault := by
  cases refused with
  | unwanted takesNone => cases takesList.symm.trans takesNone
  | absent => rfl
  | blank _ blank => simp [readList, Text.trim_eq_nil_iff.2 blank]
  | notParenthesized _ visible plain => simp [readList, trim_ne_nil visible, parenthesized?_eq_none_iff.2 plain]
  | emptyList _ parenthesized blank => rw [readList_of_parenthesized operator parenthesized, if_pos blank]
  | emptyElement _ parenthesized visible element blank =>
    have empty := any_isEmpty_trim_iff.2 ⟨_, element, blank⟩
    rw [readList_of_parenthesized operator parenthesized, if_neg (Bool.not_eq_true _ ▸ visible), if_pos empty]

theorem refused_of_readList {operator : Operator} (takesList : operator.arity = .list) {value : Option (List Char)}
    {fault : FilterFault} (failed : readList operator value = .error fault) :
    Operand.Refused operator value fault := by
  have takes : operator.arity ≠ .none := by simp [takesList]
  unfold readList at failed
  simp only [List.isEmpty_iff] at failed
  split at failed
  · rename_i empty
    cases failed
    exact refused_of_trim_eq_nil takes empty
  · rename_i nonempty
    cases value with
    | none => exact absurd rfl nonempty
    | some text =>
      rw [Option.getD_some] at failed nonempty
      rw [Text.trim_eq_nil_iff, Bool.not_eq_true] at nonempty
      split at failed
      · rename_i plain
        cases failed
        exact .notParenthesized takesList nonempty (parenthesized?_eq_none_iff.1 plain)
      · rename_i inner parts
        have parenthesized := parenthesized?_eq_some_iff.1 parts
        split at failed
        · rename_i blank
          cases failed
          exact .emptyList takesList parenthesized blank
        · rename_i visible
          split at failed
          · rename_i empty
            cases failed
            obtain ⟨piece, element, blank⟩ := any_isEmpty_trim_iff.1 empty
            exact .emptyElement takesList parenthesized (Bool.not_eq_true _ ▸ visible) element blank
          · cases failed

/-- The operand of an operator is refused for the reason there is not to read one. -/
theorem readOperand_eq_error_iff {field : String} {operator : Operator} {value : Option (List Char)}
    {fault : FilterFault} :
    readOperand field operator value = .error fault ↔ Operand.Refused operator value fault := by
  unfold readOperand
  split
  · rename_i takesNone
    constructor
    · intro failed
      cases value with
      | none => cases failed
      | some text =>
        cases failed
        exact .unwanted takesNone text
    · intro refused
      cases refused with
      | unwanted => rfl
      | absent takes => exact absurd takesNone takes
      | blank takes => exact absurd takesNone takes
      | notParenthesized takesList => cases takesList.symm.trans takesNone
      | emptyList takesList => cases takesList.symm.trans takesNone
      | emptyElement takesList => cases takesList.symm.trans takesNone
  · rename_i takesOne
    have takes : operator.arity ≠ .none := by simp [takesOne]
    simp only [List.isEmpty_iff]
    constructor
    · intro failed
      split at failed
      · rename_i empty
        cases failed
        exact refused_of_trim_eq_nil takes empty
      · cases failed
    · intro refused
      cases refused with
      | unwanted takesNone => cases takesOne.symm.trans takesNone
      | absent => rfl
      | blank _ blank => exact if_pos (Text.trim_eq_nil_iff.2 blank)
      | notParenthesized takesList => cases takesList.symm.trans takesOne
      | emptyList takesList => cases takesList.symm.trans takesOne
      | emptyElement takesList => cases takesList.symm.trans takesOne
  · rename_i takesList
    constructor
    · intro failed
      split at failed
      · rename_i refused
        cases failed
        exact refused_of_readList takesList refused
      · cases failed
    · intro refused
      rw [readList_of_refused takesList refused]

/-- An operand of the operator is read from just the values it takes. -/
theorem exists_readFrom_iff {operator : Operator} {value : Option (List Char)} :
    (∃ operand : Operand, operand.arity = operator.arity ∧ Operand.ReadFrom value operand) ↔
      operator.Takes value := by
  constructor
  · rintro ⟨operand, fits, operandRead⟩
    cases operandRead with
    | none => exact .none fits.symm
    | single visible => exact .single fits.symm visible
    | list parenthesized visible => exact .list fits.symm parenthesized visible
  · intro takes
    cases takes with
    | none takesNone => exact ⟨.none, takesNone.symm, .none⟩
    | single takesOne visible => exact ⟨.single _, takesOne.symm, .single visible⟩
    | list takesList parenthesized visible => exact ⟨.list _, takesList.symm, .list parenthesized visible⟩

/-! ## Segments -/

/-- **A segment is read as the criterion it spells.** -/
theorem read_eq_ok_iff_spells {segment : List Char} {criterion : Criterion} :
    read segment = .ok criterion ↔ Spells segment criterion := by
  rw [read_eq_ok_iff]
  constructor
  · rintro ⟨field, code, value, split, fieldPlain, codePlain, visible, named, found, operand⟩
    exact .of ⟨split, fieldPlain, codePlain⟩ visible named (Operator.ofCode?_eq_some_iff.1 found) operand
  · rintro ⟨⟨split, fieldPlain, codePlain⟩, visible, named, coded, operand⟩
    exact ⟨_, _, _, split, fieldPlain, codePlain, visible, named, Operator.ofCode?_eq_some_iff.2 coded, operand⟩

/-- **A segment is refused for what is wrong with it.** -/
theorem read_eq_error_iff {segment : List Char} {fault : FilterFault} :
    read segment = .error fault ↔ Faulty segment fault := by
  constructor
  · intro failed
    by_cases colon : ':' ∈ segment
    · obtain ⟨field, code, value, parts⟩ := exists_parts colon
      rw [read_of_parts parts] at failed
      split at failed
      · rename_i blank
        cases failed
        exact .noField parts blank
      · rename_i visible
        have visible : Text.isBlank field = false := Bool.not_eq_true _ ▸ visible
        split at failed
        · rename_i unknown
          cases failed
          exact .unknownOperator parts visible (Operator.ofCode?_eq_none_iff.1 unknown)
        · rename_i operator found
          exact .operand parts visible (Operator.ofCode?_eq_some_iff.1 found) (readOperand_eq_error_iff.1 failed)
    · rw [read_of_plain colon] at failed
      cases failed
      exact .noOperator colon
  · intro faulty
    cases faulty with
    | noOperator plain => exact read_of_plain plain
    | noField parts blank => rw [read_of_parts parts, if_pos blank]
    | unknownOperator parts visible unknown =>
      rw [read_of_parts parts, if_neg (Bool.not_eq_true _ ▸ visible), Operator.ofCode?_eq_none_iff.2 unknown]
    | operand parts visible coded refused =>
      rw [read_of_parts parts, if_neg (Bool.not_eq_true _ ▸ visible), Operator.ofCode?_eq_some_iff.2 coded]
      exact readOperand_eq_error_iff.2 refused

/-- The well-formed segments are those that spell some criterion. -/
theorem wellFormed_iff_spells {segment : List Char} : WellFormed segment ↔ ∃ criterion, Spells segment criterion := by
  constructor
  · rintro ⟨parts, visible, coded, takes⟩
    obtain ⟨operand, fits, operandRead⟩ := exists_readFrom_iff.2 takes
    exact ⟨⟨_, _, operand, fits⟩, .of parts visible rfl coded operandRead⟩
  · rintro ⟨criterion, parts, visible, -, coded, operandRead⟩
    exact .of parts visible coded (exists_readFrom_iff.1 ⟨_, criterion.fits, operandRead⟩)

theorem wellFormed_iff {segment : List Char} :
    WellFormed segment ↔ ∃ criterion, read segment = .ok criterion := by
  simp only [wellFormed_iff_spells, read_eq_ok_iff_spells]

theorem not_wellFormed_iff {segment : List Char} :
    ¬ WellFormed segment ↔ ∃ fault, read segment = .error fault := by
  rw [wellFormed_iff]
  cases read segment <;> simp

instance (segment : List Char) : Decidable (WellFormed segment) :=
  match found : read segment with
  | .ok criterion => .isTrue (wellFormed_iff.2 ⟨criterion, found⟩)
  | .error fault => .isFalse (not_wellFormed_iff.2 ⟨fault, found⟩)

end FilterSegment

/-! ## Texts -/

namespace FilterText

theorem read_eq_ok_iff_spells {text : String} {criteria : List Criterion} :
    read text = .ok criteria ↔ List.Forall₂ FilterSegment.Spells (FilterSegment.ofText text.toList) criteria := by
  rw [read_eq_ok_iff]
  constructor
  · exact fun parts => parts.imp fun _ _ => FilterSegment.read_eq_ok_iff_spells.1
  · exact fun parts => parts.imp fun _ _ => FilterSegment.read_eq_ok_iff_spells.2

theorem read_eq_error_iff {text : String} {failure : Failure} :
    read text = .error failure ↔
      (collect text).2 ≠ [] ∧ failure = .malformed malformedHeading ((collect text).2.map BadSegment.message) :=
  ite_isEmpty_eq_error_iff

/-- The segments of a text that spell a criterion. -/
def wellFormedSegments (text : String) : List (List Char) :=
  (FilterSegment.ofText text.toList).filter (FilterSegment.WellFormed ·)

/-- The segments of a text that spell none. -/
def faultySegments (text : String) : List (List Char) :=
  (FilterSegment.ofText text.toList).filter (¬ FilterSegment.WellFormed ·)

/-- The report of a segment quotes it and says what is wrong with it. -/
structure Reports (segment : List Char) (bad : BadSegment) : Prop where
  quoted : bad.segment = String.ofList segment
  explained : FilterSegment.Faulty segment bad.fault
  message : bad.message = "Invalid filter '" ++ String.ofList segment ++ "': " ++ bad.fault.message

theorem collected_spelled (text : String) :
    List.Forall₂ FilterSegment.Spells (wellFormedSegments text) (collect text).1 := by
  rw [criteria_eq]
  have reads (segment : List Char) : decide (FilterSegment.WellFormed segment) = true ↔
      ∃ criterion, FilterSegment.read segment = .ok criterion := by
    rw [decide_eq_true_iff, FilterSegment.wellFormed_iff]
  have parts := forall₂_readParts reads (FilterSegment.ofText text.toList)
  exact parts.imp fun _ _ => FilterSegment.read_eq_ok_iff_spells.1

theorem collected_tidy (text : String) : ∀ criterion ∈ (collect text).1, criterion.Tidy :=
  tidy_of_read ((collected_spelled text).imp fun _ _ => FilterSegment.read_eq_ok_iff_spells.2)

theorem collected_reported (text : String) :
    List.Forall₂ Reports (faultySegments text) (collect text).2 := by
  rw [bad_eq, List.forall₂_map_right_iff]
  have fails (segment : List Char) : decide (¬ FilterSegment.WellFormed segment) = true ↔
      ∃ fault, FilterSegment.read segment = .error fault := by
    rw [decide_eq_true_iff, FilterSegment.not_wellFormed_iff]
  have parts := forall₂_faultyParts fails (FilterSegment.ofText text.toList)
  refine parts.imp fun segment part => ?_
  rintro ⟨rfl, failed⟩
  exact ⟨rfl, FilterSegment.read_eq_error_iff.1 failed, rfl⟩

theorem exists_read_iff {text : String} :
    (∃ criteria, read text = .ok criteria) ↔
      ∀ segment ∈ FilterSegment.ofText text.toList, FilterSegment.WellFormed segment := by
  simp only [read_eq_ok_iff_spells]
  constructor
  · rintro ⟨criteria, spelled⟩
    have formed := spelled.imp fun _ criterion spells =>
      And.intro (FilterSegment.wellFormed_iff_spells.2 ⟨criterion, spells⟩) spells
    exact ((List.forall₂_and_left _ _).1 formed).1
  · intro formed
    -- When all segments are well formed, those that are collected are all there are.
    have all := collected_spelled text
    rw [wellFormedSegments, List.filter_eq_self.2 fun segment mem => decide_eq_true (formed segment mem)] at all
    exact ⟨_, all⟩

/-- **The grammar of filter text.** A text is read exactly when each of its segments is well formed, and then as
what these spell, in order. Otherwise there is one message for every faulty segment, and the criteria of the others
are collected all the same. -/
theorem read_iff_wellFormed (text : String) :
    ((∃ criteria, read text = .ok criteria) ↔
        ∀ segment ∈ FilterSegment.ofText text.toList, FilterSegment.WellFormed segment)
      ∧ (∀ criteria, read text = .ok criteria ↔
        List.Forall₂ FilterSegment.Spells (FilterSegment.ofText text.toList) criteria)
      ∧ (∀ failure, read text = .error failure ↔ faultySegments text ≠ []
        ∧ failure = .malformed malformedHeading ((collect text).2.map BadSegment.message))
      ∧ List.Forall₂ FilterSegment.Spells (wellFormedSegments text) (collect text).1
      ∧ (∀ criterion ∈ (collect text).1, criterion.Tidy)
      ∧ List.Forall₂ Reports (faultySegments text) (collect text).2 := by
  have reported := collected_reported text
  refine ⟨exists_read_iff, fun _ => read_eq_ok_iff_spells, fun failure => ?_, collected_spelled text,
    collected_tidy text, reported⟩
  have none : faultySegments text = [] ↔ (collect text).2 = [] := by
    rw [← List.length_eq_zero_iff, reported.length_eq, List.length_eq_zero_iff]
  rw [read_eq_error_iff, Ne, Ne, none]

end FilterText

namespace Sample

/-- Segments of every fault, and among them two that are well formed. -/
def faultyText : String :=
  "a, :eq:1,b:like:x,c:null:,d:NIN : ( 1 ,\u2003two ),e:gt,f:sw: ,g:in:(,h:in:(), i:in:(1,,2),j : Eq:x:(y"

def faultyTextCriteria : List Criterion :=
  [⟨"d", .noneOf, .list ["1", "two"], by decide⟩, ⟨"j", .eq, .single "x:(y", by decide⟩]

end Sample

open Sample in
/-- What is wrong with each segment of a text, and what the others spell. -/
theorem FilterText.read_iff_wellFormed_faulty :
    ¬ (∀ segment ∈ FilterSegment.ofText faultyText.toList, FilterSegment.WellFormed segment)
      ∧ List.Forall₂ FilterSegment.Spells (wellFormedSegments faultyText) faultyTextCriteria
      ∧ (collect faultyText).2.map BadSegment.fault =
        [.noOperator, .noField, .unknownOperator "like", .unwantedValue .isNull, .missingValue .gt,
          .missingValue .startsWith, .notParenthesized .oneOf, .emptyList, .emptyElement] := by
  obtain ⟨accepts, -, -, spelled, -, -⟩ := read_iff_wellFormed faultyText
  have collected : (collect faultyText).1 = faultyTextCriteria := by decide +kernel
  rw [collected] at spelled
  refine ⟨fun formed => ?_, spelled, by decide +kernel⟩
  obtain ⟨criteria, accepted⟩ := accepts.2 formed
  have refused : (read faultyText).toOption = none := by decide +kernel
  rw [accepted] at refused
  cases refused

end QueryFilter
