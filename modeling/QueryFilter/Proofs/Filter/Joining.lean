/-
Filter texts that are joined by a comma.

Whether the joining comma separates is up to the first parenthesis of the second text. If that is not a closing
one, the comma separates, and no comma of the first text is decided otherwise than before, however its own
parentheses stand (`FilterSegment.splitWhere_join`); so the joined text is read as the two are, one after the other
(`FilterText.reads_in_turn_of_opensFirst`). If it is a closing one, the comma is taken for one in a list, as are all
commas of the first text that no parenthesis follows there: the filters between are one segment with the first of
the second text (`FilterSegment.exists_swallowed`), and the joined text is never read as the two are
(`FilterText.reads_in_turn_iff`).
-/
import Mathlib.Data.List.Infix
import QueryFilter.Proofs.Filter.Grammar

namespace QueryFilter

namespace FilterSegment

/-! ## Balanced parentheses -/

/-- Every closing parenthesis closes one that was opened before it, and none is left open. -/
structure Balanced (text : List Char) : Prop where
  opened : ∀ before ∈ text.inits, before.count ')' ≤ before.count '('
  closed : text.count '(' = text.count ')'

theorem Balanced.opensFirst {text : List Char} (balanced : Balanced text) : OpensFirst text := by
  rw [← closesFirst_eq_false_iff, Bool.eq_false_iff]
  intro closes
  obtain ⟨before, after, rfl, absent⟩ := closesFirst_eq_true_iff.1 closes
  have part : before ++ [')'] ∈ (before ++ ')' :: after).inits := by
    rw [List.mem_inits]
    exact ⟨after, by simp⟩
  have opened := balanced.opened _ part
  rw [List.count_append, List.count_append, List.count_eq_zero_of_not_mem absent] at opened
  simp at opened

/-! ## Where joined texts are cut -/

/-- A text before one that closes no list first is cut as it is on its own. -/
theorem splitWhere_join {after : List Char} (opens : closesFirst after = false) (text : List Char) :
    Text.splitWhere separates (text ++ ',' :: after) =
      Text.splitWhere separates text ++ Text.splitWhere separates after := by
  have opens' : closesFirst (',' :: after) = false := opens
  induction text with
  | nil =>
    have separated : separates ',' after = true := by simp [separates, opens]
    simp [Text.splitWhere, separated]
  | cons c rest ih =>
    have same : separates c (rest ++ ',' :: after) = separates c rest := by
      rw [separates, separates, closesFirst_append opens']
    rw [List.cons_append, Text.splitWhere, Text.splitWhere, same, ih]
    split
    · rfl
    · cases pieces : Text.splitWhere separates rest with
      | nil => exact absurd pieces (Text.splitWhere_ne_nil _ _)
      | cons piece pieces => rfl

/-- Without a parenthesis of its own, a text before one that closes a list first is not cut at all. -/
theorem uncut_of_closesFirst {after : List Char} (closes : closesFirst after = true) {text : List Char}
    (plain : ∀ c ∈ text, isParenthesis c = false) : Text.Uncut separates after text := by
  induction text with
  | nil => trivial
  | cons c rest ih =>
    rw [List.forall_mem_cons] at plain
    refine ⟨separates_false_iff.2 fun _ => ?_, ih plain.2⟩
    rw [closesFirst_append_of_all plain.2, closes]

theorem eq_comma_of_separates {c : Char} {rest : List Char} (separated : separates c rest = true) : c = ',' := by
  simp only [separates, Bool.and_eq_true, beq_iff_eq] at separated
  exact separated.1

theorem splitWhere_join_of_plain {after first : List Char} {others : List (List Char)}
    (closes : closesFirst after = true) (pieces : Text.splitWhere separates after = first :: others)
    {text : List Char} (plain : ∀ c ∈ text, isParenthesis c = false) :
    Text.splitWhere separates (text ++ ',' :: after) = (text ++ ',' :: first) :: others := by
  have closes' : closesFirst (',' :: after) = true := closes
  refine Text.splitWhere_append_of_uncut (uncut_of_closesFirst closes' plain) ?_
  rw [Text.splitWhere, if_neg (by simp [separates, closes]), pieces]
  rfl

/-- A comma with a parenthesis after it is decided by that, whatever follows. -/
theorem separates_append_of_any {c : Char} {text : List Char}
    (parenthesis : ∃ d ∈ c :: text, isParenthesis d = true) (after : List Char) :
    separates c (text ++ after) = separates c text := by
  by_cases comma : c = ','
  · obtain ⟨d, mem, found⟩ := parenthesis
    rcases List.mem_cons.1 mem with rfl | later
    · rw [comma] at found
      cases found
    · rw [separates, separates, closesFirst_append_of_any ⟨d, later, found⟩]
  · have other : (c == ',') = false := by simpa using comma
    rw [separates, separates, other, Bool.false_and, Bool.false_and]

/-- Before a text that closes a list first, the pieces at the end of a text are not cut from one another, nor from
the first piece after them. -/
theorem exists_swallowed {after first : List Char} {others : List (List Char)} (closes : closesFirst after = true)
    (pieces : Text.splitWhere separates after = first :: others) (text : List Char) :
    ∃ kept swallowed, Text.splitWhere separates text = kept ++ swallowed ∧ swallowed ≠ []
      ∧ Text.splitWhere separates (text ++ ',' :: after) =
        kept ++ (Text.joinWith ',' swallowed ++ ',' :: first) :: others := by
  induction text with
  | nil => exact ⟨[], [[]], rfl, by simp, splitWhere_join_of_plain closes pieces (by simp)⟩
  | cons c rest ih =>
    by_cases plain : ∀ d ∈ c :: rest, isParenthesis d = false
    · refine ⟨[], Text.splitWhere separates (c :: rest), rfl, Text.splitWhere_ne_nil _ _, ?_⟩
      rw [Text.joinWith_splitWhere fun _ _ => eq_comma_of_separates]
      exact splitWhere_join_of_plain closes pieces plain
    · -- With a parenthesis from here on, the first character is decided as it was.
      simp only [not_forall, Bool.not_eq_false] at plain
      obtain ⟨d, mem, parenthesis⟩ := plain
      obtain ⟨kept, swallowed, alone, nonempty, joined⟩ := ih
      rw [List.cons_append, Text.splitWhere, Text.splitWhere, separates_append_of_any ⟨d, mem, parenthesis⟩, alone,
        joined]
      cases separates c rest with
      | true => exact ⟨[] :: kept, swallowed, rfl, nonempty, rfl⟩
      | false =>
        cases kept with
        | nil =>
          refine ⟨[], Text.extendFirst c swallowed, rfl, ?_, ?_⟩
          · cases swallowed <;> simp [Text.extendFirst]
          · rw [Text.joinWith_extendFirst]
            rfl
        | cons piece kept => exact ⟨(c :: piece) :: kept, swallowed, rfl, nonempty, rfl⟩

/-- Pieces as segments: trimmed, the blank ones left out. -/
def ofPieces (pieces : List (List Char)) : List (List Char) :=
  (pieces.map Text.trim).filter fun segment => !segment.isEmpty

theorem ofPieces_append (pieces pieces' : List (List Char)) :
    ofPieces (pieces ++ pieces') = ofPieces pieces ++ ofPieces pieces' := by
  rw [ofPieces, List.map_append, List.filter_append, ofPieces, ofPieces]

theorem ofPieces_cons_of_visible {piece : List Char} (visible : Text.isBlank piece = false)
    (pieces : List (List Char)) : ofPieces (piece :: pieces) = Text.trim piece :: ofPieces pieces :=
  List.filter_cons_of_pos (by simpa using (Text.tidy_trim visible).ne_nil)

theorem blank_of_ofPieces_eq_nil {pieces : List (List Char)} (nothing : ofPieces pieces = []) :
    ∀ piece ∈ pieces, Text.isBlank piece = true := by
  intro piece mem
  have left := List.filter_eq_nil_iff.1 nothing _ (List.mem_map_of_mem mem)
  exact Text.trim_eq_nil_iff.1 (by simpa using left)

theorem not_blank_of_closesFirst {text : List Char} (closes : closesFirst text = true) :
    Text.isBlank text = false := by
  obtain ⟨before, after, rfl, -⟩ := closesFirst_eq_true_iff.1 closes
  exact Text.not_blank_of_mem (c := ')') (by simp) (by decide)

/-! ## A text in front of a segment -/

theorem Parts.append {lead segment field code : List Char} {value : Option (List Char)}
    (parts : Parts segment field code value) (absent : ':' ∉ lead) :
    Parts (lead ++ segment) (lead ++ field) code value where
  split := by rw [parts.split, List.append_assoc]
  field := List.not_mem_append absent parts.field
  code := parts.code

/-- A text without a colon that is put in front of a segment belongs to its field. So the fault of the segment
stays, unless it was that there is no field. -/
theorem Faulty.append {lead segment : List Char} {fault : FilterFault} (faulty : Faulty segment fault)
    (absent : ':' ∉ lead) (visible : Text.isBlank lead = false) (named : fault ≠ .noField) :
    Faulty (lead ++ segment) fault := by
  have visible' (field : List Char) : Text.isBlank (lead ++ field) = false := by
    rw [Text.isBlank, List.all_append, ← Text.isBlank, visible, Bool.false_and]
  cases faulty with
  | noOperator plain => exact .noOperator (List.not_mem_append absent plain)
  | noField => exact absurd rfl named
  | unknownOperator parts _ unknown => exact .unknownOperator (parts.append absent) (visible' _) unknown
  | operand parts _ coded refused => exact .operand (parts.append absent) (visible' _) coded refused

end FilterSegment

namespace FilterText

/-! ## Reading in turn -/

/-- The messages of the bad segments of a text. -/
def messages (text : String) : List String :=
  (collect text).2.map BadSegment.message

/-- A text is read as two texts are, one after the other: it has the criteria and the messages of the first and then
those of the second. -/
structure ReadsInTurn (text first second : String) : Prop where
  criteria : (collect text).1 = (collect first).1 ++ (collect second).1
  messages : messages text = messages first ++ messages second

/-- The messages of the bad ones of some segments. -/
def messagesOf (segments : List (List Char)) : List String :=
  (faultyParts FilterSegment.read segments).map fun part => BadSegment.message ⟨String.ofList part.1, part.2⟩

theorem messagesOf_append (segments segments' : List (List Char)) :
    messagesOf (segments ++ segments') = messagesOf segments ++ messagesOf segments' := by
  rw [messagesOf, faultyParts_append, List.map_append, messagesOf, messagesOf]

theorem messages_eq (text : String) : messages text = messagesOf (FilterSegment.ofText text.toList) := by
  rw [messages, bad_eq, List.map_map]
  rfl

theorem toList_join (first second : String) :
    (first ++ "," ++ second).toList = first.toList ++ ',' :: second.toList := by
  simp

theorem ofText_join (first second : String) : FilterSegment.ofText (first ++ "," ++ second).toList =
    FilterSegment.ofPieces (Text.splitWhere FilterSegment.separates (first.toList ++ ',' :: second.toList)) := by
  rw [toList_join]
  rfl

theorem ofText_join_of_opens (first : String) {second : String}
    (opens : FilterSegment.closesFirst second.toList = false) :
    FilterSegment.ofText (first ++ "," ++ second).toList =
      FilterSegment.ofText first.toList ++ FilterSegment.ofText second.toList := by
  rw [ofText_join, FilterSegment.splitWhere_join opens, FilterSegment.ofPieces_append]
  rfl

/-- A text is read in turn when its segments are those of the two texts. -/
theorem ReadsInTurn.of_segments {text first second : String}
    (segments : FilterSegment.ofText text.toList =
      FilterSegment.ofText first.toList ++ FilterSegment.ofText second.toList) : ReadsInTurn text first second where
  criteria := by rw [criteria_eq, criteria_eq, criteria_eq, segments, readParts_append]
  messages := by rw [messages_eq, messages_eq, messages_eq, segments, messagesOf_append]

/-- **An unbalanced opening parenthesis swallows nothing.** However the parentheses of the first text stand, the
joined text is read as the two are, when the first parenthesis of the second text, if any, is an opening one. -/
theorem reads_in_turn_of_opensFirst (first second : String) (opens : FilterSegment.OpensFirst second.toList) :
    ReadsInTurn (first ++ "," ++ second) first second :=
  .of_segments (ofText_join_of_opens first (FilterSegment.closesFirst_eq_false_iff.2 opens))

end FilterText

namespace Sample

/-- A parenthesis that was never opened, two that are never closed, one of them of a list, and an unknown operator. -/
def looseText : String := "a):eq:1,b:like:(,tags:in:(1,2"

def listText : String := "age:gt:5,status:in:(X,Y)"

end Sample

namespace FilterText

open Sample in
/-- After the loose text, a list is a list and the criterion before it is one of its own. -/
theorem reads_in_turn_of_opensFirst_list :
    FilterSegment.OpensFirst listText.toList ∧ ReadsInTurn (looseText ++ "," ++ listText) looseText listText
      ∧ (collect listText).1.length = 2 ∧ (messages looseText).length = 3 := by
  have opens : FilterSegment.OpensFirst listText.toList := by
    rw [← FilterSegment.closesFirst_eq_false_iff]
    decide +kernel
  exact ⟨opens, reads_in_turn_of_opensFirst looseText listText opens, by decide +kernel, by decide +kernel⟩

/-! ## What is swallowed -/

theorem count_message (bad : BadSegment) :
    bad.message.toList.count ',' = bad.segment.toList.count ',' + bad.fault.message.toList.count ',' := by
  have opening : "Invalid filter '".toList.count ',' = 0 := by decide +kernel
  have closing : "': ".toList.count ',' = 0 := by decide +kernel
  unfold BadSegment.message
  rw [String.toList_append, String.toList_append, String.toList_append, List.count_append, List.count_append,
    List.count_append, opening, closing, Nat.zero_add, Nat.add_zero]

/-- A comma in front of a segment changes what is read of it, or how its fault is reported. -/
theorem not_same_of_lead {lead segment : List Char} (comma : ',' ∈ lead) (colon : ':' ∉ lead)
    (criteria : readParts FilterSegment.read [lead ++ segment] = readParts FilterSegment.read [segment]) :
    messagesOf [lead ++ segment] ≠ messagesOf [segment] := by
  intro messages
  have more : segment.count ',' < (lead ++ segment).count ',' := by
    have positive := List.count_pos_iff.2 comma
    rw [List.count_append]
    omega
  cases longer : FilterSegment.read (lead ++ segment) with
  | ok criterion =>
    cases shorter : FilterSegment.read segment with
    | error fault =>
      rw [readParts_cons_ok longer, readParts_cons_error shorter] at criteria
      cases criteria
    | ok criterion' =>
      -- A criterion is written with as many commas as the segment it was read from.
      rw [readParts_cons_ok longer, readParts_cons_ok shorter] at criteria
      cases criteria
      have marks := (FilterSegment.marks_render longer).trans (FilterSegment.marks_render shorter).symm
      have counts := congrArg (List.count ',') marks
      rw [FilterSegment.marks, FilterSegment.marks, List.count_filter rfl, List.count_filter rfl] at counts
      omega
  | error fault =>
    cases shorter : FilterSegment.read segment with
    | ok criterion =>
      rw [readParts_cons_error longer, readParts_cons_ok shorter] at criteria
      cases criteria
    | error fault' =>
      rw [messagesOf, faultyParts_cons_error longer, messagesOf, faultyParts_cons_error shorter] at messages
      have counts := congrArg (fun message => message.toList.count ',') (List.cons.inj messages).1
      simp only [count_message, String.toList_ofList] at counts
      by_cases named : fault' = .noField
      · have none : fault'.message.toList.count ',' = 0 := by
          rw [named]
          decide
        omega
      · have visible := Text.not_blank_of_mem comma (by decide)
        have faulty := FilterSegment.read_eq_error_iff.1 shorter
        have same := FilterSegment.read_eq_error_iff.2 (faulty.append colon visible named)
        rw [longer] at same
        cases same
        omega

/-- Swallowed pieces and the piece that swallows them are not read as they are on their own. -/
theorem not_same_of_swallowed {swallowed : List (List Char)} {piece : List Char}
    (visible : Text.isBlank piece = false)
    (criteria : readParts FilterSegment.read [Text.trim (Text.joinWith ',' swallowed ++ ',' :: piece)] =
      readParts FilterSegment.read (FilterSegment.ofPieces swallowed) ++
        readParts FilterSegment.read [Text.trim piece]) :
    messagesOf [Text.trim (Text.joinWith ',' swallowed ++ ',' :: piece)] ≠
      messagesOf (FilterSegment.ofPieces swallowed) ++ messagesOf [Text.trim piece] := by
  intro messages
  -- There is one segment, so there was one before: all that was swallowed is blank.
  have nothing : FilterSegment.ofPieces swallowed = [] := by
    have parts (segments : List (List Char)) :
        (readParts FilterSegment.read segments).length + (faultyParts FilterSegment.read segments).length =
          segments.length := length_readParts_add segments
    have criteria' := congrArg List.length criteria
    have messages' := congrArg List.length messages
    simp only [messagesOf, List.length_append, List.length_map] at criteria' messages'
    have whole := parts [Text.trim (Text.joinWith ',' swallowed ++ ',' :: piece)]
    have before := parts (FilterSegment.ofPieces swallowed)
    have after := parts [Text.trim piece]
    rw [List.length_singleton] at whole after
    exact List.length_eq_zero_iff.1 (by omega)
  have blank := FilterSegment.blank_of_ofPieces_eq_nil nothing
  have comma : ',' ∈ Text.joinWith ',' swallowed ++ [','] := by simp
  have visible' := Text.not_blank_of_mem comma (by decide)
  obtain ⟨gap, blankGap, trimmed⟩ := Text.exists_trim_append visible' visible
  rw [List.append_assoc, List.singleton_append] at trimmed
  rw [nothing, trimmed] at criteria messages
  refine not_same_of_lead ?_ ?_ criteria messages
  · exact List.mem_append_left _ (Text.mem_trimStart comma (by decide))
  · intro colon
    rcases List.mem_append.1 colon with before | inGap
    · rcases List.mem_append.1 ((List.dropWhile_suffix _).mem before) with joined | last
      · rcases Text.mem_of_mem_joinWith joined with same | ⟨part, there, here⟩
        · cases same
        · exact Text.not_mem_of_blank (blank part there) (by decide) here
      · simp at last
    · exact Text.not_mem_of_blank blankGap (by decide) inGap

/-- A text that closes a list first is never read in turn with the text before it. -/
theorem not_reads_in_turn {first second : String} (closes : FilterSegment.closesFirst second.toList = true) :
    ¬ ReadsInTurn (first ++ "," ++ second) first second := by
  rintro ⟨criteria, messages⟩
  obtain ⟨piece, others, pieces⟩ := List.exists_cons_of_ne_nil
    (Text.splitWhere_ne_nil FilterSegment.separates second.toList)
  obtain ⟨kept, swallowed, alone, -, joined⟩ := FilterSegment.exists_swallowed closes pieces first.toList
  have visible : Text.isBlank piece = false := by
    have apart := FilterSegment.apart_splitWhere second.toList
    have closes' := FilterSegment.closesFirst_flatten_splitWhere second.toList
    rw [pieces] at apart closes'
    rw [List.flatten_cons, FilterSegment.closesFirst_append apart.2.1, closes] at closes'
    exact FilterSegment.not_blank_of_closesFirst closes'
  have visible' : Text.isBlank (Text.joinWith ',' swallowed ++ ',' :: piece) = false :=
    Text.not_blank_of_mem (c := ',') (by simp) (by decide)
  have before : FilterSegment.ofText first.toList =
      FilterSegment.ofPieces kept ++ FilterSegment.ofPieces swallowed := by
    rw [← FilterSegment.ofPieces_append, ← alone]
    rfl
  have after : FilterSegment.ofText second.toList = [Text.trim piece] ++ FilterSegment.ofPieces others := by
    rw [List.singleton_append, ← FilterSegment.ofPieces_cons_of_visible visible, ← pieces]
    rfl
  have whole : FilterSegment.ofText (first ++ "," ++ second).toList = FilterSegment.ofPieces kept
      ++ ([Text.trim (Text.joinWith ',' swallowed ++ ',' :: piece)] ++ FilterSegment.ofPieces others) := by
    rw [ofText_join, joined, FilterSegment.ofPieces_append, FilterSegment.ofPieces_cons_of_visible visible']
    rfl
  -- What was kept and what comes later is read as before, so the swallowed pieces would have to be as well.
  rw [criteria_eq, criteria_eq, criteria_eq, whole, before, after] at criteria
  rw [messages_eq, messages_eq, messages_eq, whole, before, after] at messages
  simp only [readParts_append, messagesOf_append, List.append_assoc, List.append_cancel_left_eq] at criteria messages
  rw [← List.append_assoc, List.append_cancel_right_eq] at criteria messages
  exact not_same_of_swallowed visible criteria messages

/-- **When joined texts are read in turn.** The joined text is read as the two are, one after the other, exactly when
the first parenthesis of the second text, if any, is an opening one; so it is whenever the parentheses of the second
text are balanced, whatever those of the first are. -/
theorem reads_in_turn_iff (first second : String) :
    (ReadsInTurn (first ++ "," ++ second) first second ↔ FilterSegment.OpensFirst second.toList)
      ∧ (FilterSegment.Balanced second.toList → ReadsInTurn (first ++ "," ++ second) first second) := by
  have opens (opensFirst : FilterSegment.OpensFirst second.toList) :
      ReadsInTurn (first ++ "," ++ second) first second :=
    .of_segments (ofText_join_of_opens first (FilterSegment.closesFirst_eq_false_iff.2 opensFirst))
  refine ⟨⟨fun inTurn => ?_, opens⟩, fun balanced => opens balanced.opensFirst⟩
  rw [← FilterSegment.closesFirst_eq_false_iff, Bool.eq_false_iff]
  exact fun closes => not_reads_in_turn closes inTurn

open Sample in
/-- The loose text before a list, and the list before the loose text, which closes a parenthesis first. -/
theorem reads_in_turn_iff_loose :
    FilterSegment.Balanced listText.toList ∧ ReadsInTurn (looseText ++ "," ++ listText) looseText listText
      ∧ ¬ FilterSegment.OpensFirst looseText.toList
      ∧ ¬ ReadsInTurn (listText ++ "," ++ looseText) listText looseText := by
  have balanced : FilterSegment.Balanced listText.toList := ⟨by decide +kernel, by decide +kernel⟩
  have closes : ¬ FilterSegment.OpensFirst looseText.toList := by
    rw [← FilterSegment.closesFirst_eq_false_iff]
    decide +kernel
  exact ⟨balanced, (reads_in_turn_iff looseText listText).2 balanced, closes,
    fun inTurn => closes ((reads_in_turn_iff listText looseText).1.1 inTurn)⟩

end FilterText

namespace Sample

def statusText : String := "status:eq:OPEN"

/-- A filter on a value that is a closing parenthesis. -/
def smileText : String := "note:contains::)"

end Sample

namespace FilterText

open Sample in
/-- Each text is one criterion, and the joined text is one criterion as well, which asks for another status. -/
theorem joined_swallows_status :
    FilterSegment.Balanced statusText.toList
      ∧ collect statusText = ([⟨"status", .eq, .single "OPEN", rfl⟩], [])
      ∧ collect smileText = ([⟨"note", .contains, .single ":)", rfl⟩], [])
      ∧ collect (statusText ++ "," ++ smileText) =
        ([⟨"status", .eq, .single "OPEN,note:contains::)", rfl⟩], [])
      ∧ ¬ ReadsInTurn (statusText ++ "," ++ smileText) statusText smileText :=
  ⟨⟨by decide +kernel, by decide +kernel⟩, by decide +kernel, by decide +kernel, by decide +kernel,
    fun inTurn => absurd inTurn.criteria (by decide +kernel)⟩

end FilterText

end QueryFilter
