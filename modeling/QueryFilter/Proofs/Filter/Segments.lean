/-
Where filter text is cut.

Whether a comma separates is up to the next parenthesis, which may stand in a later segment. So pieces come
apart where they were joined when no piece is cut inside and no list is closed first in what follows a piece
(`Apart`, `splitWhere_joinWith`); and the pieces of any text are such (`apart_splitWhere`). Both conditions are
about commas and parentheses alone: pieces with the same of these, in the same order, are apart together
(`Apart.of_marks`). Trimmed pieces have the same, and blank pieces have none, so the segments of a text are apart
as well (`apart_ofText`).
-/
import Mathlib.Data.List.Forall2
import QueryFilter.Filter.Segment
import QueryFilter.Proofs.Text.Pieces
import QueryFilter.Proofs.Text.Tidy

namespace QueryFilter.FilterSegment

/-- The characters that decide where a text is cut. -/
def isMark (c : Char) : Bool :=
  c == ',' || c == '(' || c == ')'

/-- The commas and parentheses of a text. -/
def marks (cs : List Char) : List Char :=
  cs.filter isMark

theorem isSpace_of_isMark {c : Char} (mark : isMark c = true) : Text.isSpace c = false := by
  simp only [isMark, Bool.or_eq_true, beq_iff_eq] at mark
  rcases mark with (rfl | rfl) | rfl <;> decide

@[simp] theorem marks_append (cs cs' : List Char) : marks (cs ++ cs') = marks cs ++ marks cs' :=
  List.filter_append _ _

theorem marks_trim (cs : List Char) : marks (Text.trim cs) = marks cs :=
  Text.filter_trim (fun _ => isSpace_of_isMark) cs

theorem marks_flatten (pieces : List (List Char)) : marks pieces.flatten = (pieces.map marks).flatten :=
  List.filter_flatten

theorem marks_joinWith (pieces : List (List Char)) :
    marks (Text.joinWith ',' pieces) = Text.joinWith ',' (pieces.map marks) :=
  Text.filter_joinWith rfl pieces

/-! ## The first parenthesis -/

theorem closesFirst_cons_other {c : Char} (opening : c ≠ '(') (closing : c ≠ ')') (rest : List Char) :
    closesFirst (c :: rest) = closesFirst rest := by
  rw [closesFirst, if_neg closing, if_neg opening]

theorem closesFirst_marks (cs : List Char) : closesFirst (marks cs) = closesFirst cs := by
  induction cs with
  | nil => rfl
  | cons c rest ih =>
    unfold marks at ih ⊢
    by_cases mark : isMark c = true
    · rw [List.filter_cons_of_pos mark, closesFirst, closesFirst, ih]
    · have plain := mark
      simp only [isMark, Bool.or_eq_true, beq_iff_eq, not_or] at plain
      rw [List.filter_cons_of_neg mark, ih, closesFirst_cons_other plain.1.2 plain.2]

theorem closesFirst_congr {cs cs' : List Char} (same : marks cs = marks cs') : closesFirst cs = closesFirst cs' := by
  rw [← closesFirst_marks, same, closesFirst_marks]

/-- What comes later does not matter unless it would close a list. -/
theorem closesFirst_append {after : List Char} (opens : closesFirst after = false) (cs : List Char) :
    closesFirst (cs ++ after) = closesFirst cs := by
  induction cs with
  | nil => exact opens
  | cons c rest ih => rw [List.cons_append, closesFirst, closesFirst, ih]

/-- The separators between pieces are no parentheses. -/
theorem closesFirst_joinWith (pieces : List (List Char)) :
    closesFirst (Text.joinWith ',' pieces) = closesFirst pieces.flatten := by
  match pieces with
  | [] => rfl
  | [piece] => simp [Text.joinWith]
  | piece :: next :: pieces =>
    have others := closesFirst_joinWith (next :: pieces)
    rw [Text.joinWith, List.flatten_cons]
    generalize Text.joinWith ',' (next :: pieces) = joined at others
    generalize (next :: pieces).flatten = flat at others
    induction piece with
    | nil => exact (closesFirst_cons_other (by decide) (by decide) joined).trans others
    | cons c rest ih => rw [List.cons_append, List.cons_append, closesFirst, closesFirst, ih]

def isParenthesis (c : Char) : Bool :=
  c == '(' || c == ')'

/-- The first parenthesis of the text, if it has one, is an opening one. -/
def OpensFirst (text : List Char) : Prop :=
  ∀ c, text.find? isParenthesis = some c → c = '('

theorem eq_of_isParenthesis {c : Char} (parenthesis : isParenthesis c = true) : c = '(' ∨ c = ')' := by
  simpa [isParenthesis] using parenthesis

theorem closesFirst_eq_find? (text : List Char) :
    closesFirst text = decide (text.find? isParenthesis = some ')') := by
  induction text with
  | nil => rfl
  | cons c rest ih =>
    rw [closesFirst]
    by_cases closing : c = ')'
    · simp [closing, isParenthesis]
    · by_cases opening : c = '('
      · simp [opening, isParenthesis]
      · rw [if_neg closing, if_neg opening, ih, List.find?_cons_of_neg (by simp [isParenthesis, closing, opening])]

theorem closesFirst_eq_false_iff {text : List Char} : closesFirst text = false ↔ OpensFirst text := by
  rw [closesFirst_eq_find?, decide_eq_false_iff_not]
  constructor
  · intro other c found
    rcases eq_of_isParenthesis (List.find?_some found) with opening | rfl
    · exact opening
    · exact absurd found other
  · intro opens found
    exact absurd (opens _ found) (by decide)

/-- A list is closed first when a closing parenthesis stands before every opening one. -/
theorem closesFirst_eq_true_iff {text : List Char} :
    closesFirst text = true ↔ ∃ before after, text = before ++ ')' :: after ∧ '(' ∉ before := by
  rw [closesFirst_eq_find?, decide_eq_true_eq]
  constructor
  · intro found
    obtain ⟨-, before, after, split, plain⟩ := List.find?_eq_some_iff_append.1 found
    exact ⟨before, after, split, fun opening => by simpa [isParenthesis] using plain _ opening⟩
  · rintro ⟨before, after, rfl, absent⟩
    rw [List.find?_append]
    cases found : before.find? isParenthesis with
    | none => rfl
    | some c =>
      rcases eq_of_isParenthesis (List.find?_some found) with rfl | rfl
      · exact absurd (List.mem_of_find?_eq_some found) absent
      · rfl

theorem closesFirst_append_of_any {text : List Char} (parenthesis : ∃ c ∈ text, isParenthesis c = true)
    (after : List Char) : closesFirst (text ++ after) = closesFirst text := by
  have found := List.find?_isSome.2 parenthesis
  rw [closesFirst_eq_find?, closesFirst_eq_find?, List.find?_append, Option.or_of_isSome found]

theorem closesFirst_append_of_all {text : List Char} (plain : ∀ c ∈ text, isParenthesis c = false)
    (after : List Char) : closesFirst (text ++ after) = closesFirst after := by
  have none : text.find? isParenthesis = none := List.find?_eq_none.2 fun c mem => by simp [plain c mem]
  rw [closesFirst_eq_find?, closesFirst_eq_find?, List.find?_append, none, Option.none_or]

/-! ## Pieces that are not cut inside -/

/-- Every comma of the piece stands in a list that is closed in the piece. -/
def Whole (piece : List Char) : Prop :=
  Text.Uncut separates [] piece

theorem separates_false_iff {c : Char} {rest : List Char} :
    separates c rest = false ↔ (c = ',' → closesFirst rest = true) := by
  by_cases comma : c = ','
  · simp [separates, comma]
  · simp [separates, comma]

theorem whole_cons_iff {c : Char} {rest : List Char} :
    Whole (c :: rest) ↔ (c = ',' → closesFirst rest = true) ∧ Whole rest := by
  rw [Whole, Text.Uncut, List.append_nil, separates_false_iff]
  rfl

/-- A whole piece is not cut inside whatever follows it. -/
theorem Whole.uncut {piece : List Char} (whole : Whole piece) {after : List Char}
    (opens : closesFirst after = false) : Text.Uncut separates after piece := by
  induction piece with
  | nil => trivial
  | cons c rest ih =>
    obtain ⟨here, later⟩ := whole_cons_iff.1 whole
    refine ⟨separates_false_iff.2 ?_, ih later⟩
    rwa [closesFirst_append opens]

theorem whole_marks_iff {piece : List Char} : Whole (marks piece) ↔ Whole piece := by
  induction piece with
  | nil => exact Iff.rfl
  | cons c rest ih =>
    by_cases mark : isMark c = true
    · have kept : marks (c :: rest) = c :: marks rest := List.filter_cons_of_pos mark
      rw [kept, whole_cons_iff, whole_cons_iff, ih, closesFirst_marks]
    · have left : marks (c :: rest) = marks rest := List.filter_cons_of_neg mark
      have plain : c ≠ ',' := fun comma => mark (by rw [comma]; rfl)
      rw [left, whole_cons_iff, ih]
      exact ⟨fun later => ⟨fun comma => absurd comma plain, later⟩, And.right⟩

theorem whole_congr {piece piece' : List Char} (same : marks piece = marks piece') :
    Whole piece ↔ Whole piece' := by
  rw [← whole_marks_iff, same, whole_marks_iff]

/-! ## Pieces that are apart -/

/-- Every piece is whole, and no list is closed first in what follows a piece. -/
def Apart : List (List Char) → Prop
  | [] => True
  | piece :: pieces => Whole piece ∧ closesFirst pieces.flatten = false ∧ Apart pieces

theorem splitWhere_joinWith {pieces : List (List Char)} (nonempty : pieces ≠ []) (apart : Apart pieces) :
    Text.splitWhere separates (Text.joinWith ',' pieces) = pieces := by
  match pieces with
  | [] => exact absurd rfl nonempty
  | [piece] => exact Text.splitWhere_of_uncut apart.1
  | piece :: next :: pieces =>
    obtain ⟨whole, opens, others⟩ := apart
    rw [← closesFirst_joinWith] at opens
    have opens' : closesFirst (',' :: Text.joinWith ',' (next :: pieces)) = false := opens
    have separated : separates ',' (Text.joinWith ',' (next :: pieces)) = true := by simp [separates, opens]
    rw [Text.joinWith, Text.splitWhere_append (whole.uncut opens') separated,
      splitWhere_joinWith (List.cons_ne_nil _ _) others]

theorem closesFirst_flatten_splitWhere (text : List Char) :
    closesFirst (Text.splitWhere separates text).flatten = closesFirst text := by
  have onlyCommas : ∀ c rest, separates c rest = true → c = ',' := fun c rest h => by
    simp only [separates, Bool.and_eq_true, beq_iff_eq] at h
    exact h.1
  rw [← closesFirst_joinWith, Text.joinWith_splitWhere onlyCommas]

/-- The pieces of a text are apart. -/
theorem apart_splitWhere (text : List Char) : Apart (Text.splitWhere separates text) := by
  induction text with
  | nil => exact ⟨trivial, rfl, trivial⟩
  | cons c rest ih =>
    have first := closesFirst_flatten_splitWhere rest
    rw [Text.splitWhere]
    split
    · rename_i separated
      simp only [separates, Bool.and_eq_true, Bool.not_eq_true'] at separated
      exact ⟨trivial, first.trans separated.2, ih⟩
    · rename_i inside
      cases pieces : Text.splitWhere separates rest with
      | nil => exact absurd pieces (Text.splitWhere_ne_nil _ _)
      | cons piece pieces' =>
        rw [pieces] at ih first
        obtain ⟨whole, opens, others⟩ := ih
        refine ⟨whole_cons_iff.2 ⟨fun comma => ?_, whole⟩, opens, others⟩
        -- The list the comma stands in is closed in this piece, for none is closed first after it.
        rw [← closesFirst_append opens piece]
        exact first.trans (separates_false_iff.1 (by simpa using inside) comma)

/-- Pieces with the same commas and parentheses are apart together. -/
theorem Apart.of_marks {pieces pieces' : List (List Char)}
    (same : List.Forall₂ (fun piece piece' => marks piece = marks piece') pieces pieces') (apart : Apart pieces) :
    Apart pieces' := by
  induction same with
  | nil => trivial
  | @cons piece piece' pieces pieces' here later ih =>
    obtain ⟨whole, opens, others⟩ := apart
    have after : marks pieces.flatten = marks pieces'.flatten := by
      have pointwise : pieces.map marks = pieces'.map marks := by
        rw [← List.forall₂_eq_eq_eq, List.forall₂_map_left_iff, List.forall₂_map_right_iff]
        exact later
      rw [marks_flatten, marks_flatten, pointwise]
    exact ⟨(whole_congr here).1 whole, (closesFirst_congr after).symm.trans opens, ih others⟩

/-- Pieces stay apart when empty ones are left out. -/
theorem Apart.filter {pieces : List (List Char)} (apart : Apart pieces) :
    Apart (pieces.filter fun piece => !piece.isEmpty) := by
  induction pieces with
  | nil => trivial
  | cons piece pieces ih =>
    obtain ⟨whole, opens, others⟩ := apart
    by_cases empty : piece = []
    · rw [List.filter_cons_of_neg (by simp [empty])]
      exact ih others
    · rw [List.filter_cons_of_pos (by simpa using empty)]
      refine ⟨whole, ?_, ih others⟩
      rw [List.flatten_filter_not_isEmpty]
      exact opens

/-! ## Segments -/

theorem forall₂_marks_trim (pieces : List (List Char)) :
    List.Forall₂ (fun piece piece' => marks piece = marks piece') pieces (pieces.map Text.trim) := by
  rw [List.forall₂_map_right_iff, List.forall₂_same]
  exact fun piece _ => (marks_trim piece).symm

/-- The segments of a text are apart. -/
theorem apart_ofText (text : List Char) : Apart (ofText text) :=
  ((apart_splitWhere text).of_marks (forall₂_marks_trim _)).filter

/-- Tidy pieces that are apart are the segments of the text they are joined to. -/
theorem ofText_joinWith {pieces : List (List Char)} (apart : Apart pieces)
    (tidy : ∀ piece ∈ pieces, Text.Tidy piece) : ofText (Text.joinWith ',' pieces) = pieces := by
  cases pieces with
  | nil => rfl
  | cons piece pieces =>
    rw [ofText, splitWhere_joinWith (List.cons_ne_nil _ _) apart, Text.filter_map_trim_of_tidy tidy]

end QueryFilter.FilterSegment
