/-
Filter text that is read, written and read again.

What a segment has to be to be read as a criterion is said part by part (`FilterSegment.read_eq_ok_iff`,
`Operand.ReadFrom`). The criteria that are read are tidy: there is no white space around their parts, no colon
in a field and no comma in an element of a list (`Criterion.Tidy`); and a tidy criterion is read back from the
segment it is written as (`FilterSegment.read_render`). Writing a criterion keeps the commas and parentheses of
the segment it was read from (`FilterSegment.marks_render`), wherever these are, so written criteria come apart
where the segments did, and whole texts are read back as well (`FilterText.read_render_of_read`).
-/
import QueryFilter.Proofs.Filter.Segments
import QueryFilter.Proofs.Text.Collected

namespace QueryFilter

/-! ## Codes -/

namespace Operator

theorem tidy_code (op : Operator) : Text.Tidy op.code.toList := by
  cases op <;> exact ⟨⟨_, rfl, by decide⟩, ⟨_, rfl, by decide⟩⟩

theorem colon_not_mem_code (op : Operator) : ':' ∉ op.code.toList := by
  cases op <;> decide

theorem marks_code (op : Operator) : FilterSegment.marks op.code.toList = [] := by
  cases op <;> decide

/-- A text that is read as a code has neither commas nor parentheses. -/
theorem marks_of_ofCode? {code : List Char} {op : Operator} (found : ofCode? (String.ofList code) = some op) :
    FilterSegment.marks code = [] := by
  have folded := List.find?_some found
  rw [beq_iff_eq] at folded
  have letters : ∀ c ∈ Text.trim code, FilterSegment.isMark c = false := by
    intro c mem
    cases mark : FilterSegment.isMark c with
    | false => rfl
    | true =>
      -- Lower case leaves a mark as it is, and no code has one.
      have same : (if 'A' ≤ c && c ≤ 'Z' then Char.ofNat (c.toNat + 32) else c) = c := by
        simp only [FilterSegment.isMark, Bool.or_eq_true, beq_iff_eq] at mark
        rcases mark with (rfl | rfl) | rfl <;> decide
      have inCode : c ∈ op.code.toList := by
        rw [folded, Text.lowerAscii, String.toList_ofList, Text.toList_strip, String.toList_ofList, ← same]
        exact List.mem_map_of_mem mem
      have none := marks_code op
      rw [FilterSegment.marks, List.filter_eq_nil_iff] at none
      exact absurd mark (none c inCode)
  rw [← FilterSegment.marks_trim, FilterSegment.marks, List.filter_eq_nil_iff]
  intro c mem
  simp [letters c mem]

end Operator

/-! ## Operands -/

namespace Operand

/-- What stands after the second colon, if there is one, when the operand is read from it. -/
inductive ReadFrom : Option (List Char) → Operand → Prop where
  | none : ReadFrom .none .none
  | single {text : List Char} (visible : Text.isBlank text = false) :
    ReadFrom (some text) (.single (String.ofList (Text.trim text)))
  | list {text inner : List Char} (parenthesized : Text.trim text = '(' :: (inner ++ [')']))
    (visible : ∀ piece ∈ Text.splitOn ',' inner, Text.isBlank piece = false) :
    ReadFrom (some text) (.list ((Text.splitOn ',' inner).map fun piece => String.ofList (Text.trim piece)))

/-- No white space stands around a value, and no comma in an element of a list, of which there is one. -/
inductive Tidy : Operand → Prop where
  | none : Tidy .none
  | single {value : String} (tidy : Text.Tidy value.toList) : Tidy (.single value)
  | list {values : List String} (nonempty : values ≠ [])
    (elements : ∀ value ∈ values, Text.Tidy value.toList ∧ ',' ∉ value.toList) : Tidy (.list values)

/-- The operand as it is written after the second colon, if it is. -/
def written : Operand → Option (List Char)
  | none => .none
  | single value => some value.toList
  | list values => some ('(' :: (Text.joinWith ',' (values.map String.toList) ++ [')']))

theorem ReadFrom.tidy {text : Option (List Char)} {operand : Operand} (read : ReadFrom text operand) :
    operand.Tidy := by
  cases read with
  | none => exact .none
  | single visible => exact .single (by rw [String.toList_ofList]; exact Text.tidy_trim visible)
  | @list text inner parenthesized visible =>
    refine .list ?_ fun value mem => ?_
    · have pieces : Text.splitOn ',' inner ≠ [] := Text.splitWhere_ne_nil _ inner
      simpa using pieces
    · obtain ⟨piece, there, rfl⟩ := List.mem_map.1 mem
      rw [String.toList_ofList]
      exact ⟨Text.tidy_trim (visible piece there), fun comma =>
        Text.not_mem_of_mem_splitOn there ((Text.trim_sublist piece).mem comma)⟩

theorem tidy_parenthesized (inner : List Char) : Text.Tidy ('(' :: (inner ++ [')'])) := by
  have opening : Text.Tidy ['('] := .singleton (by decide)
  exact opening.surround inner (.singleton (by decide))

/-- A tidy operand is read from the text it is written as. -/
theorem Tidy.readFrom {operand : Operand} (tidy : operand.Tidy) : ReadFrom operand.written operand := by
  cases tidy with
  | none => exact .none
  | @single value tidy =>
    have read := ReadFrom.single tidy.not_blank
    rwa [tidy.trim_eq, String.ofList_toList] at read
  | @list values nonempty elements =>
    have pieces : Text.splitOn ',' (Text.joinWith ',' (values.map String.toList)) = values.map String.toList := by
      refine Text.splitOn_joinWith (by simpa using nonempty) fun piece mem => ?_
      obtain ⟨value, there, rfl⟩ := List.mem_map.1 mem
      exact (elements value there).2
    have visible : ∀ piece ∈ Text.splitOn ',' (Text.joinWith ',' (values.map String.toList)),
        Text.isBlank piece = false := by
      intro piece mem
      rw [pieces] at mem
      obtain ⟨value, there, rfl⟩ := List.mem_map.1 mem
      exact (elements value there).1.not_blank
    have read := ReadFrom.list (tidy_parenthesized _).trim_eq visible
    have same : (values.map String.toList).map (fun piece => String.ofList (Text.trim piece)) = values := by
      rw [List.map_map]
      refine (List.map_congr_left fun value there => ?_).trans (List.map_id' values)
      rw [Function.comp_apply, (elements value there).1.trim_eq, String.ofList_toList]
    rwa [pieces, same] at read

theorem Tidy.tidy_written {operand : Operand} {text : List Char} (tidy : operand.Tidy)
    (written : operand.written = some text) : Text.Tidy text := by
  cases tidy with
  | none => cases written
  | single tidy =>
    cases written
    exact tidy
  | list =>
    cases written
    exact tidy_parenthesized _

/-- Writing an operand keeps the commas and parentheses of the text it was read from. -/
theorem ReadFrom.marks_eq {text : Option (List Char)} {operand : Operand} (read : ReadFrom text operand) :
    operand.written.map FilterSegment.marks = text.map FilterSegment.marks := by
  cases read with
  | none => rfl
  | single visible => simp [written, FilterSegment.marks_trim]
  | @list text inner parenthesized visible =>
    -- The elements lose white space alone, and the commas between them are put back.
    have elements : FilterSegment.marks (Text.joinWith ',' ((Text.splitOn ',' inner).map Text.trim)) =
        FilterSegment.marks inner := by
      rw [FilterSegment.marks_joinWith, List.map_map]
      have kept : FilterSegment.marks ∘ Text.trim = FilterSegment.marks := funext FilterSegment.marks_trim
      rw [kept, ← FilterSegment.marks_joinWith, Text.joinWith_splitOn]
    have whole := FilterSegment.marks_trim text
    rw [parenthesized] at whole
    simp only [written, Option.map_some, List.map_map, Function.comp_def, String.toList_ofList, ← whole]
    rw [← List.singleton_append, FilterSegment.marks_append, FilterSegment.marks_append, elements,
      ← FilterSegment.marks_append, ← FilterSegment.marks_append, List.singleton_append]

end Operand

/-! ## Criteria -/

/-- A criterion as it is read: its operand is tidy, and so is its field, in which no colon stands. -/
structure Criterion.Tidy (criterion : Criterion) : Prop where
  field : Text.Tidy criterion.field.toList
  colon : ':' ∉ criterion.field.toList
  operand : criterion.operand.Tidy

namespace FilterSegment

/-- A value as it stands in a segment, after a colon if there is one. -/
def valueText : Option (List Char) → List Char
  | none => []
  | some value => ':' :: value

theorem toList_render (criterion : Criterion) :
    criterion.render.toList =
      criterion.field.toList ++ ':' :: (criterion.operator.code.toList ++ valueText criterion.operand.written) := by
  unfold Criterion.render
  cases criterion.operand with
  | none => simp [Operand.written, valueText]
  | single value => simp [Operand.written, valueText]
  | list values =>
    have joined := Text.toList_intercalate_singleton ',' values
    rw [show String.singleton ',' = "," from rfl] at joined
    simp [Operand.written, valueText, joined]

theorem parenthesized?_eq_some_iff {text inner : List Char} :
    parenthesized? text = some inner ↔ text = '(' :: (inner ++ [')']) := by
  constructor
  · intro h
    unfold parenthesized? at h
    split at h
    · rename_i rest
      split at h
      · rename_i closing
        cases h
        rw [List.dropLast_append_getLast? _ closing]
      · cases h
    · cases h
  · rintro rfl
    simp [parenthesized?]

/-- A text whose pieces are not blank is not blank either: without a comma it is a piece itself. -/
theorem not_blank_of_pieces {text : List Char}
    (visible : ∀ piece ∈ Text.splitOn ',' text, Text.isBlank piece = false) : Text.isBlank text = false := by
  cases blank : Text.isBlank text with
  | false => rfl
  | true =>
    have absent : ',' ∉ text := by
      intro mem
      have space := List.all_eq_true.1 blank ',' mem
      exact absurd space (by decide)
    have alone : Text.splitOn ',' text = [text] := Text.splitWhere_of_uncut (Text.uncut_of_not_mem absent [])
    rw [visible text (alone ▸ List.mem_cons_self)] at blank
    cases blank

theorem any_isEmpty_trim_iff {inner : List Char} :
    ((Text.splitOn ',' inner).map Text.trim).any List.isEmpty = true ↔
      ∃ piece ∈ Text.splitOn ',' inner, Text.isBlank piece = true := by
  simp only [List.any_map, List.any_eq_true, Function.comp_apply, List.isEmpty_iff, Text.trim_eq_nil_iff]

/-- The list that stands in a pair of parentheses. -/
theorem readList_of_parenthesized (operator : Operator) {text inner : List Char}
    (parenthesized : Text.trim text = '(' :: (inner ++ [')'])) :
    readList operator (some text) =
      if Text.isBlank inner then .error .emptyList
      else if ((Text.splitOn ',' inner).map Text.trim).any List.isEmpty then .error .emptyElement
      else .ok (((Text.splitOn ',' inner).map Text.trim).map String.ofList) := by
  unfold readList
  rw [Option.getD_some, parenthesized]
  dsimp only [List.isEmpty_cons]
  rw [if_neg Bool.false_ne_true, parenthesized?_eq_some_iff.2 rfl]

/-- A list is read from a text in parentheses whose pieces are not blank. -/
theorem readList_eq_ok_iff {operator : Operator} {value : Option (List Char)} {values : List String} :
    readList operator value = .ok values ↔ Operand.ReadFrom value (.list values) := by
  constructor
  · intro h
    unfold readList at h
    simp only at h
    split at h
    · cases h
    · rename_i text
      split at h
      · cases h
      · rename_i inner parenthesized
        split at h
        · cases h
        · split at h
          · cases h
          · rename_i elements
            cases h
            cases value with
            | none => simp [Text.trim, Text.trimStart, Text.trimEnd] at text
            | some value =>
              rw [List.map_map]
              refine .list (parenthesized?_eq_some_iff.1 parenthesized) fun piece mem => ?_
              cases blank : Text.isBlank piece with
              | false => rfl
              | true => exact absurd (any_isEmpty_trim_iff.2 ⟨piece, mem, blank⟩) elements
  · intro read
    cases read with
    | @list text inner parenthesized visible =>
      have elements : ¬ ((Text.splitOn ',' inner).map Text.trim).any List.isEmpty = true := by
        rw [any_isEmpty_trim_iff]
        rintro ⟨piece, there, blank⟩
        cases (visible piece there).symm.trans blank
      rw [readList_of_parenthesized operator parenthesized, if_neg (Bool.not_eq_true _ ▸ not_blank_of_pieces visible),
        if_neg elements, List.map_map]
      rfl

/-- A criterion is read from the value its operand is read from. -/
theorem readOperand_eq_ok_iff {field : String} {operator : Operator} {value : Option (List Char)}
    {criterion : Criterion} : readOperand field operator value = .ok criterion ↔
      criterion.field = field ∧ criterion.operator = operator ∧ Operand.ReadFrom value criterion.operand := by
  constructor
  · intro h
    unfold readOperand at h
    split at h
    · split at h
      · cases h
      · rename_i absent
        cases h
        cases value with
        | none => exact ⟨rfl, rfl, .none⟩
        | some => simp at absent
    · simp only at h
      split at h
      · cases h
      · rename_i text
        cases h
        cases value with
        | none => simp [Text.trim, Text.trimStart, Text.trimEnd] at text
        | some value =>
          refine ⟨rfl, rfl, .single ?_⟩
          cases blank : Text.isBlank value with
          | false => rfl
          | true =>
            rw [Option.getD_some, Text.trim_eq_nil_iff.2 blank] at text
            exact absurd rfl text
    · split at h
      · cases h
      · rename_i values listed
        cases h
        exact ⟨rfl, rfl, readList_eq_ok_iff.1 listed⟩
  · obtain ⟨field', operator', operand, fits⟩ := criterion
    rintro ⟨rfl, rfl, read⟩
    unfold readOperand
    split
    · rename_i arity
      rw [arity] at fits
      cases read with
      | none => rfl
      | _ => cases fits
    · rename_i arity
      rw [arity] at fits
      cases read with
      | @single text visible =>
        have nonempty := (Text.tidy_trim visible).ne_nil
        simp [nonempty]
      | _ => cases fits
    · rename_i arity
      rw [arity] at fits
      cases read with
      | @list text inner parenthesized visible =>
        rw [readList_eq_ok_iff.2 (.list parenthesized visible)]
      | _ => cases fits

/-- A segment cut at its first two colons, or at the only one it has. -/
structure Parts (segment field code : List Char) (value : Option (List Char)) : Prop where
  split : segment = field ++ ':' :: (code ++ valueText value)
  field : ':' ∉ field
  code : ':' ∉ code

theorem read_of_plain {segment : List Char} (plain : ':' ∉ segment) : read segment = .error .noOperator := by
  unfold read
  rw [Text.cut_eq_none_iff.2 ⟨rfl, plain⟩]

theorem exists_parts {segment : List Char} (colon : ':' ∈ segment) :
    ∃ field code value, Parts segment field code value := by
  obtain ⟨field, text, split, fieldPlain⟩ := List.eq_append_cons_of_mem colon
  by_cases second : ':' ∈ text
  · obtain ⟨code, value, rfl, codePlain⟩ := List.eq_append_cons_of_mem second
    exact ⟨field, code, some value, split, fieldPlain, codePlain⟩
  · exact ⟨field, text, none, by rw [split, valueText, List.append_nil], fieldPlain, second⟩

theorem read_of_parts {segment field code : List Char} {value : Option (List Char)}
    (parts : Parts segment field code value) :
    read segment =
      if Text.isBlank field then .error .noField
      else
        match Operator.ofCode? (String.ofList code) with
        | none => .error (.unknownOperator (String.ofList (Text.trim code)))
        | some operator => readOperand (String.ofList (Text.trim field)) operator value := by
  have first : Text.cut ':' segment = (field, some (code ++ valueText value)) :=
    Text.cut_eq_some_iff.2 ⟨parts.split, parts.field⟩
  have second : Text.cut ':' (code ++ valueText value) = (code, value) := by
    cases value with
    | none => rw [valueText, List.append_nil, Text.cut_eq_none_iff.2 ⟨rfl, parts.code⟩]
    | some value => exact Text.cut_eq_some_iff.2 ⟨rfl, parts.code⟩
  cases found : Operator.ofCode? (String.ofList code) with
  | none => simp only [read, first, second, found]
  | some operator => simp only [read, first, second, found]

/-- What a segment is that is read as a criterion. -/
theorem read_eq_ok_iff {segment : List Char} {criterion : Criterion} :
    read segment = .ok criterion ↔ ∃ field code value,
      segment = field ++ ':' :: (code ++ valueText value) ∧ ':' ∉ field ∧ ':' ∉ code
        ∧ Text.isBlank field = false ∧ criterion.field = String.ofList (Text.trim field)
        ∧ Operator.ofCode? (String.ofList code) = some criterion.operator
        ∧ Operand.ReadFrom value criterion.operand := by
  constructor
  · intro h
    by_cases colon : ':' ∈ segment
    · obtain ⟨field, code, value, parts⟩ := exists_parts colon
      rw [read_of_parts parts] at h
      split at h
      · cases h
      · rename_i visible
        split at h
        · cases h
        · rename_i operator found
          obtain ⟨fieldEq, operatorEq, operand⟩ := readOperand_eq_ok_iff.1 h
          exact ⟨field, code, value, parts.split, parts.field, parts.code, by simpa using visible, fieldEq,
            operatorEq ▸ found, operand⟩
    · rw [read_of_plain colon] at h
      cases h
  · rintro ⟨field, code, value, split, fieldPlain, codePlain, visible, fieldEq, found, operand⟩
    rw [read_of_parts ⟨split, fieldPlain, codePlain⟩, if_neg (Bool.not_eq_true _ ▸ visible), found]
    exact readOperand_eq_ok_iff.2 ⟨fieldEq, rfl, operand⟩

theorem tidy_of_read {segment : List Char} {criterion : Criterion} (accepted : read segment = .ok criterion) :
    criterion.Tidy := by
  obtain ⟨field, code, value, -, fieldPlain, -, visible, fieldEq, -, operand⟩ := read_eq_ok_iff.1 accepted
  have characters : criterion.field.toList = Text.trim field := by rw [fieldEq, String.toList_ofList]
  refine ⟨?_, ?_, operand.tidy⟩
  · rw [characters]
    exact Text.tidy_trim visible
  · rw [characters]
    exact fun colon => fieldPlain ((Text.trim_sublist field).mem colon)

/-- A tidy criterion is read back from the segment it is written as. -/
theorem read_render {criterion : Criterion} (tidy : criterion.Tidy) :
    read criterion.render.toList = .ok criterion := by
  refine read_eq_ok_iff.2 ⟨criterion.field.toList, criterion.operator.code.toList, criterion.operand.written,
    toList_render criterion, tidy.colon, criterion.operator.colon_not_mem_code, tidy.field.not_blank, ?_, ?_,
    tidy.operand.readFrom⟩
  · rw [tidy.field.trim_eq, String.ofList_toList]
  · rw [String.ofList_toList, Operator.ofCode?_code]

/-- A written criterion has no white space around it. -/
theorem tidy_render {criterion : Criterion} (tidy : criterion.Tidy) : Text.Tidy criterion.render.toList := by
  rw [toList_render]
  cases written : criterion.operand.written with
  | none =>
    have parts := tidy.field.surround [':'] criterion.operator.tidy_code
    simpa [valueText] using parts
  | some value =>
    have parts := tidy.field.surround (':' :: (criterion.operator.code.toList ++ [':']))
      (tidy.operand.tidy_written written)
    simpa [valueText] using parts

theorem marks_valueText (value : Option (List Char)) :
    marks (valueText value) = (value.map marks).getD [] := by
  cases value with
  | none => rfl
  | some value => rfl

/-- A criterion is written with the commas and parentheses of the segment it was read from. -/
theorem marks_render {segment : List Char} {criterion : Criterion} (accepted : read segment = .ok criterion) :
    marks segment = marks criterion.render.toList := by
  obtain ⟨field, code, value, rfl, -, -, -, fieldEq, found, operand⟩ := read_eq_ok_iff.1 accepted
  have colon (cs : List Char) : marks (':' :: cs) = marks cs := rfl
  rw [toList_render, marks_append, marks_append, colon, colon, marks_append, marks_append, fieldEq,
    String.toList_ofList, marks_trim, Operator.marks_of_ofCode? found, Operator.marks_code, marks_valueText,
    marks_valueText, operand.marks_eq]

end FilterSegment

/-! ## Whole texts -/

namespace FilterText

theorem toList_render (criteria : List Criterion) :
    (render criteria).toList = Text.joinWith ',' (criteria.map fun criterion => criterion.render.toList) := by
  have joined := Text.toList_intercalate_singleton ',' (criteria.map Criterion.render)
  rw [List.map_map] at joined
  exact joined

theorem tidy_of_read {segments : List (List Char)} {criteria : List Criterion}
    (accepted : List.Forall₂ (fun segment criterion => FilterSegment.read segment = .ok criterion) segments
      criteria) : ∀ criterion ∈ criteria, criterion.Tidy := by
  induction accepted with
  | nil => exact fun _ mem => absurd mem List.not_mem_nil
  | cons here _ ih =>
    intro criterion mem
    rcases List.mem_cons.1 mem with rfl | later
    · exact FilterSegment.tidy_of_read here
    · exact ih criterion later

/-- **What was read is read back from what it is written as.** Whatever text some criteria were read from, the
text they are written as has the same criteria, and is read without a fault. -/
theorem read_render_of_read {text : String} {criteria : List Criterion} (accepted : read text = .ok criteria) :
    read (render criteria) = .ok criteria := by
  have parts := read_eq_ok_iff.1 accepted
  have tidy := tidy_of_read parts
  have sameMarks : List.Forall₂ (fun piece piece' => FilterSegment.marks piece = FilterSegment.marks piece')
      (FilterSegment.ofText text.toList) (criteria.map fun criterion => criterion.render.toList) := by
    rw [List.forall₂_map_right_iff]
    exact parts.imp fun _ _ => FilterSegment.marks_render
  have apart := (FilterSegment.apart_ofText text.toList).of_marks sameMarks
  have tidyPieces : ∀ piece ∈ criteria.map fun criterion => criterion.render.toList, Text.Tidy piece := by
    intro piece mem
    obtain ⟨criterion, there, rfl⟩ := List.mem_map.1 mem
    exact FilterSegment.tidy_render (tidy criterion there)
  have segments : FilterSegment.ofText (render criteria).toList =
      criteria.map fun criterion => criterion.render.toList := by
    rw [toList_render, FilterSegment.ofText_joinWith apart tidyPieces]
  rw [read_eq_ok_iff, segments, List.forall₂_map_left_iff, List.forall₂_same]
  exact fun criterion mem => FilterSegment.read_render (tidy criterion mem)

end FilterText

namespace Sample

/-- Parentheses that are never opened or never closed, blank segments, colons in a value, capitals in a code and
white space beyond ASCII. -/
def strayText : String :=
  " a):SW:x:(y\u2003 , ,  b : IN :( (1 ), 2 ),, (c:NULL,d:eq:("

def strayCriteria : List Criterion :=
  [⟨"a)", .startsWith, .single "x:(y", by decide⟩, ⟨"b", .oneOf, .list ["(1 )", "2"], by decide⟩,
    ⟨"(c", .isNull, .none, by decide⟩, ⟨"d", .eq, .single "(", by decide⟩]

end Sample

open Sample in
/-- Criteria with stray parentheses are read back. -/
theorem FilterText.read_render_of_read_stray :
    read strayText = .ok strayCriteria
      ∧ render strayCriteria = "a):sw:x:(y,b:in:((1 ),2),(c:null,d:eq:("
      ∧ read (render strayCriteria) = .ok strayCriteria := by
  have accepted : read strayText = .ok strayCriteria := by decide +kernel
  exact ⟨accepted, by decide +kernel, read_render_of_read accepted⟩

end QueryFilter
