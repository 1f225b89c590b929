/-
The grammar of sort text.

A segment is cut at its first colon into a field and perhaps a direction (`SortText.Parts`), and which key it spells or
what is wrong with it is said of these parts (`SortText.Spells`, `SortText.Faulty`). Each segment between the commas of
a text that is not blank gives its key or its report, in order (`SortText.Outcome`). The keys that are read have tidy
fields without commas and colons, so the text they are written as is cut where they were joined, and the same keys are
read from it with every direction spelled out (`SortText.collects_and_reads_back`).
-/
import QueryFilter.Proofs.Filter.RoundTrip

namespace QueryFilter

/-! ## Directions -/

namespace Direction

/-- A text is the code of a direction, up to white space around it and the case of ASCII letters. -/
def SpelledBy (direction : Direction) (text : List Char) : Prop :=
  Text.lowerAscii (String.ofList (Text.trim text)) = direction.code

/-- What stands after the colon, if there is one, when a direction is read from it: it is ascending when nothing stands
there but white space. -/
inductive ReadFrom : Option (List Char) → Direction → Prop where
  | absent : ReadFrom none .asc
  | blank {text : List Char} (blank : Text.isBlank text = true) : ReadFrom (some text) .asc
  | coded {text : List Char} {direction : Direction} (coded : direction.SpelledBy text) :
    ReadFrom (some text) direction

theorem ofCode?_eq_some_iff {direction : Direction} {text : List Char} :
    ofCode? (String.ofList (Text.trim text)) = some direction ↔ direction.SpelledBy text := by
  unfold ofCode? SpelledBy
  simp only [Text.strip, String.toList_ofList, Text.trim_trim]
  constructor
  · intro found
    have folded := List.find?_some found
    rw [beq_iff_eq] at folded
    exact folded.symm
  · intro same
    rw [same]
    cases direction <;> decide

theorem ofCode?_eq_none_iff {text : List Char} :
    ofCode? (String.ofList (Text.trim text)) = none ↔ ∀ direction : Direction, ¬ direction.SpelledBy text := by
  simp only [← ofCode?_eq_some_iff, Option.eq_none_iff_forall_ne_some, Ne]

theorem tidy_code (direction : Direction) : Text.Tidy direction.code.toList := by
  cases direction <;> exact ⟨⟨_, rfl, by decide⟩, ⟨_, rfl, by decide⟩⟩

theorem comma_not_mem_code (direction : Direction) : ',' ∉ direction.code.toList := by
  cases direction <;> decide

theorem spelledBy_code (direction : Direction) : direction.SpelledBy direction.code.toList := by
  unfold SpelledBy
  cases direction <;> decide

/-- A blank text is the code of no direction. -/
theorem not_blank_of_spelledBy {direction : Direction} {text : List Char} (coded : direction.SpelledBy text) :
    Text.isBlank text = false := by
  cases blank : Text.isBlank text with
  | false => rfl
  | true =>
    rw [SpelledBy, Text.trim_eq_nil_iff.2 blank] at coded
    cases direction <;> exact absurd coded (by decide)

end Direction

/-! ## Segments -/

/-- A sort key as it is read: no white space stands around its field, and neither a comma nor a colon in it. -/
structure SortKey.Tidy (key : SortKey) : Prop where
  field : Text.Tidy key.field.toList
  comma : ',' ∉ key.field.toList
  colon : ':' ∉ key.field.toList

namespace SortText

open FilterSegment (valueText)

/-- A segment cut at its first colon, if it has one. -/
structure Parts (segment field : List Char) (direction : Option (List Char)) : Prop where
  split : segment = field ++ valueText direction
  field : ':' ∉ field

/-- A segment spells a key: its field is not blank, and its direction is read from what stands after the colon. -/
inductive Spells (segment : List Char) (key : SortKey) : Prop where
  | of {field : List Char} {direction : Option (List Char)} (parts : Parts segment field direction)
    (visible : Text.isBlank field = false) (named : key.field = String.ofList (Text.trim field))
    (directed : Direction.ReadFrom direction key.direction) : Spells segment key

/-- What is wrong with a segment that spells no key. -/
inductive Faulty (segment : List Char) : SortFault → Prop where
  | noField {field : List Char} {direction : Option (List Char)} (parts : Parts segment field direction)
    (blank : Text.isBlank field = true) : Faulty segment .noField
  | unknownDirection {field text : List Char} (parts : Parts segment field (some text))
    (visible : Text.isBlank field = false) (given : Text.isBlank text = false)
    (unknown : ∀ direction : Direction, ¬ direction.SpelledBy text) :
    Faulty segment (.unknownDirection (String.ofList (Text.trim text)))

/-- The report of a segment quotes it and says what is wrong with it. -/
structure Reports (segment : List Char) (bad : BadSegment) : Prop where
  quoted : bad.segment = String.ofList segment
  explained : Faulty segment bad.fault
  message : bad.message = "Invalid sort '" ++ String.ofList segment ++ "': " ++ bad.fault.message

/-- What a segment gives: the key it spells, or a report of what is wrong with it. -/
inductive Outcome (segment : List Char) : SortKey ⊕ BadSegment → Prop where
  | key {key : SortKey} (spells : Spells segment key) : Outcome segment (.inl key)
  | bad {bad : BadSegment} (reports : Reports segment bad) : Outcome segment (.inr bad)

theorem cut_eq_iff {segment field : List Char} {direction : Option (List Char)} :
    Text.cut ':' segment = (field, direction) ↔ Parts segment field direction := by
  cases direction with
  | none =>
    rw [Text.cut_eq_none_iff]
    constructor
    · intro cut
      obtain ⟨whole, plain⟩ := cut
      subst whole
      exact ⟨(List.append_nil _).symm, plain⟩
    · intro parts
      have split := parts.split
      rw [valueText, List.append_nil] at split
      exact ⟨split.symm, split ▸ parts.field⟩
  | some text =>
    rw [Text.cut_eq_some_iff]
    exact ⟨fun cut => ⟨cut.1, cut.2⟩, fun parts => ⟨parts.split, parts.field⟩⟩

theorem exists_parts (segment : List Char) : ∃ field direction, Parts segment field direction :=
  ⟨_, _, cut_eq_iff.1 rfl⟩

theorem read_of_spells {segment : List Char} {key : SortKey} (spells : Spells segment key) :
    readSegment segment = .ok key := by
  obtain ⟨parts, visible, named, directed⟩ := spells
  obtain ⟨name, direction⟩ := key
  dsimp only at named directed
  subst named
  cases directed with
  | absent =>
    have nothing : Text.trim [] = [] := rfl
    simp [readSegment, cut_eq_iff.2 parts, visible, nothing]
  | blank blank => simp [readSegment, cut_eq_iff.2 parts, visible, Text.trim_eq_nil_iff.2 blank]
  | coded coded =>
    have given := (Text.tidy_trim (Direction.not_blank_of_spelledBy coded)).ne_nil
    simp [readSegment, cut_eq_iff.2 parts, visible, given, Direction.ofCode?_eq_some_iff.2 coded]

theorem read_of_faulty {segment : List Char} {fault : SortFault} (faulty : Faulty segment fault) :
    readSegment segment = .error fault := by
  cases faulty with
  | noField parts blank => simp [readSegment, cut_eq_iff.2 parts, blank]
  | unknownDirection parts visible given unknown =>
    have given := (Text.tidy_trim given).ne_nil
    simp [readSegment, cut_eq_iff.2 parts, visible, given, Direction.ofCode?_eq_none_iff.2 unknown]

/-- Every segment spells a key or has something wrong with it. -/
theorem spells_or_faulty (segment : List Char) :
    (∃ key, Spells segment key) ∨ ∃ fault, Faulty segment fault := by
  obtain ⟨field, direction, parts⟩ := exists_parts segment
  by_cases blank : Text.isBlank field = true
  · exact .inr ⟨_, .noField parts blank⟩
  · have visible : Text.isBlank field = false := Bool.not_eq_true _ ▸ blank
    cases direction with
    | none => exact .inl ⟨⟨_, _⟩, .of parts visible rfl .absent⟩
    | some text =>
      by_cases none : Text.isBlank text = true
      · exact .inl ⟨⟨_, _⟩, .of parts visible rfl (.blank none)⟩
      · by_cases known : ∃ direction : Direction, direction.SpelledBy text
        · obtain ⟨direction, coded⟩ := known
          exact .inl ⟨⟨_, _⟩, .of parts visible rfl (.coded coded)⟩
        · exact .inr ⟨_, .unknownDirection parts visible (Bool.not_eq_true _ ▸ none) (not_exists.1 known)⟩

/-- **A segment is read as the key it spells.** -/
theorem readSegment_eq_ok_iff {segment : List Char} {key : SortKey} :
    readSegment segment = .ok key ↔ Spells segment key := by
  refine ⟨fun accepted => ?_, read_of_spells⟩
  rcases spells_or_faulty segment with ⟨other, spells⟩ | ⟨fault, faulty⟩
  · have same := (read_of_spells spells).symm.trans accepted
    cases same
    exact spells
  · cases (read_of_faulty faulty).symm.trans accepted

/-- **A segment is refused for what is wrong with it.** -/
theorem readSegment_eq_error_iff {segment : List Char} {fault : SortFault} :
    readSegment segment = .error fault ↔ Faulty segment fault := by
  refine ⟨fun refused => ?_, read_of_faulty⟩
  rcases spells_or_faulty segment with ⟨key, spells⟩ | ⟨other, faulty⟩
  · cases (read_of_spells spells).symm.trans refused
  · have same := (read_of_faulty faulty).symm.trans refused
    cases same
    exact faulty

theorem tidy_of_spells {segment : List Char} {key : SortKey} (spells : Spells segment key) (plain : ',' ∉ segment) :
    key.Tidy := by
  cases spells with
  | @of field direction parts visible named =>
    have inField {c : Char} (mem : c ∈ key.field.toList) : c ∈ field := by
      rw [named, String.toList_ofList] at mem
      exact (Text.trim_sublist field).mem mem
    refine ⟨?_, fun comma => plain ?_, fun colon => parts.field (inField colon)⟩
    · rw [named, String.toList_ofList]
      exact Text.tidy_trim visible
    · rw [parts.split]
      exact List.mem_append_left _ (inField comma)

theorem toList_renderKey (key : SortKey) :
    key.render.toList = key.field.toList ++ ':' :: key.direction.code.toList := by
  simp [SortKey.render]

/-- A tidy key is spelled by what it is written as. -/
theorem spells_render {key : SortKey} (tidy : key.Tidy) : Spells key.render.toList key := by
  refine .of ⟨toList_renderKey key, tidy.colon⟩ tidy.field.not_blank ?_ (.coded key.direction.spelledBy_code)
  rw [tidy.field.trim_eq, String.ofList_toList]

theorem tidy_render {key : SortKey} (tidy : key.Tidy) : Text.Tidy key.render.toList := by
  have parts := tidy.field.surround [':'] key.direction.tidy_code
  rw [toList_renderKey]
  simpa using parts

theorem comma_not_mem_render {key : SortKey} (tidy : key.Tidy) : ',' ∉ key.render.toList := by
  simp [toList_renderKey, tidy.comma, key.direction.comma_not_mem_code]

/-! ## Texts -/

/-- What a segment gives, as it is read. -/
def outcome (segment : List Char) : SortKey ⊕ BadSegment :=
  match readSegment segment with
  | .ok key => .inl key
  | .error fault => .inr ⟨String.ofList segment, fault⟩

theorem outcome_outcome (segment : List Char) : Outcome segment (outcome segment) := by
  unfold outcome
  split
  · rename_i found
    exact .key (readSegment_eq_ok_iff.1 found)
  · rename_i found
    exact .bad ⟨rfl, readSegment_eq_error_iff.1 found, rfl⟩

theorem collectSegments_eq_outcomes (segments : List (List Char)) :
    collectSegments segments =
      ((segments.map outcome).filterMap Sum.getLeft?, (segments.map outcome).filterMap Sum.getRight?) := by
  rw [collectSegments_eq, readParts, faultyParts, List.filterMap_map, List.filterMap_map, List.map_filterMap]
  congr 1 <;> refine List.filterMap_congr fun segment _ => ?_ <;>
    cases found : readSegment segment <;> simp [outcome, found, Except.toOption]

/-- The segments of a text are its pieces between commas that are not blank, trimmed. -/
theorem segments_eq (text : List Char) :
    segments text = ((Text.splitOn ',' text).filter fun piece => !Text.isBlank piece).map Text.trim := by
  rw [segments, List.filter_map]
  simp only [Function.comp_def, Text.isEmpty_trim]

theorem comma_not_mem_segment {text segment : List Char} (mem : segment ∈ segments text) : ',' ∉ segment := by
  rw [segments_eq] at mem
  obtain ⟨piece, there, rfl⟩ := List.mem_map.1 mem
  have plain := Text.not_mem_of_mem_splitOn (List.mem_filter.1 there).1
  exact fun comma => plain ((Text.trim_sublist piece).mem comma)

/-- Tidy pieces without commas are the segments of the text they are joined to. -/
theorem segments_joinWith {pieces : List (List Char)} (tidy : ∀ piece ∈ pieces, Text.Tidy piece)
    (plain : ∀ piece ∈ pieces, ',' ∉ piece) : segments (Text.joinWith ',' pieces) = pieces := by
  cases pieces with
  | nil => rfl
  | cons piece pieces =>
    rw [segments, Text.splitOn_joinWith (List.cons_ne_nil _ _) plain, Text.filter_map_trim_of_tidy tidy]

theorem toList_render (keys : List SortKey) :
    (render keys).toList = Text.joinWith ',' (keys.map fun key => key.render.toList) := by
  have joined := Text.toList_intercalate_singleton ',' (keys.map SortKey.render)
  rw [List.map_map] at joined
  exact joined

theorem segments_render {keys : List SortKey} (tidy : ∀ key ∈ keys, key.Tidy) :
    segments (render keys).toList = keys.map fun key => key.render.toList := by
  rw [toList_render]
  refine segments_joinWith (fun piece mem => ?_) (fun piece mem => ?_)
  · obtain ⟨key, there, rfl⟩ := List.mem_map.1 mem
    exact tidy_render (tidy key there)
  · obtain ⟨key, there, rfl⟩ := List.mem_map.1 mem
    exact comma_not_mem_render (tidy key there)

/-- Tidy keys are read back from the text they are written as. -/
theorem read_render {keys : List SortKey} (tidy : ∀ key ∈ keys, key.Tidy) : read (render keys) = .ok keys := by
  rw [read_eq_ok_iff, segments_render tidy, List.forall₂_map_left_iff, List.forall₂_same]
  exact fun key mem => read_of_spells (spells_render (tidy key mem))

theorem collect_eq (text : String) :
    collect text = (((segments text.toList).map outcome).filterMap Sum.getLeft?,
      ((segments text.toList).map outcome).filterMap Sum.getRight?) :=
  collectSegments_eq_outcomes _

theorem read_eq_error_iff {text : String} {failure : Failure} :
    read text = .error failure ↔
      (collect text).2 ≠ [] ∧ failure = .malformed malformedHeading ((collect text).2.map BadSegment.message) :=
  ite_isEmpty_eq_error_iff

/-- When a text is read, each of its segments gives a key. -/
theorem outcomes_of_read {text : String} {keys : List SortKey} (accepted : read text = .ok keys) :
    (segments text.toList).map outcome = keys.map .inl := by
  have parts := read_eq_ok_iff.1 accepted
  rw [← List.forall₂_eq_eq_eq, List.forall₂_map_left_iff, List.forall₂_map_right_iff]
  exact parts.imp fun segment key found => by rw [outcome, found]

theorem tidy_of_read {text : String} {keys : List SortKey} (accepted : read text = .ok keys) :
    ∀ key ∈ keys, key.Tidy := by
  intro key mem
  have given : Sum.inl key ∈ (segments text.toList).map outcome := by
    rw [outcomes_of_read accepted]
    exact List.mem_map_of_mem mem
  obtain ⟨segment, there, gives⟩ := List.mem_map.1 given
  have spelled := outcome_outcome segment
  rw [gives] at spelled
  cases spelled with
  | key spells => exact tidy_of_spells spells (comma_not_mem_segment there)

/-- **What is collected from sort text, and what is read back.** Each piece of a text between commas that is not blank
gives one key or one report, in order; the keys are collected, and so are the reports, and the text is refused with
all their messages if there are any. The keys of a text that is read have tidy fields without commas and colons. They
are written with a direction each, and read back from that text. -/
theorem collects_and_reads_back (text : String) :
    ∃ pieces outcomes,
      (pieces ≠ [] ∧ (∀ piece ∈ pieces, ',' ∉ piece) ∧ Text.joinWith ',' pieces = text.toList)
      ∧ List.Forall₂ Outcome ((pieces.filter fun piece => !Text.isBlank piece).map Text.trim) outcomes
      ∧ (collect text).1 = outcomes.filterMap Sum.getLeft?
      ∧ (collect text).2 = outcomes.filterMap Sum.getRight?
      ∧ (∀ failure, read text = .error failure ↔ (collect text).2 ≠ []
        ∧ failure = .malformed malformedHeading ((collect text).2.map BadSegment.message))
      ∧ ∀ keys, read text = .ok keys →
        outcomes = keys.map .inl ∧ (∀ key ∈ keys, key.Tidy)
          ∧ segments (render keys).toList = keys.map (fun key => (key.field ++ ":" ++ key.direction.code).toList)
          ∧ read (render keys) = .ok keys := by
  refine ⟨Text.splitOn ',' text.toList, (segments text.toList).map outcome, ⟨Text.splitWhere_ne_nil _ _,
    fun _ => Text.not_mem_of_mem_splitOn, Text.joinWith_splitOn _⟩, ?_, by rw [collect_eq], by rw [collect_eq],
    fun _ => read_eq_error_iff, fun keys accepted => ?_⟩
  · rw [← segments_eq, List.forall₂_map_right_iff, List.forall₂_same]
    exact fun segment _ => outcome_outcome segment
  · have tidy := tidy_of_read accepted
    exact ⟨outcomes_of_read accepted, tidy, segments_render tidy, read_render tidy⟩

end SortText

namespace Sample

/-- Directions left out, blank, in capitals and between white space beyond ASCII, and fields that hold other marks. -/
def looseSorts : String :=
  " last name : DESC ,, (x;y)\u2003:,\u00a0id, \u2003 ,\"q\":\u3000aSc\t"

def looseSortKeys : List SortKey :=
  [⟨"last name", .desc⟩, ⟨"(x;y)", .asc⟩, ⟨"id", .asc⟩, ⟨"\"q\"", .asc⟩]

end Sample

open Sample in
/-- Four keys of a loose text are written with a direction each, and read back. -/
theorem SortText.collects_and_reads_back_loose :
    read looseSorts = .ok looseSortKeys
      ∧ render looseSortKeys = "last name:desc,(x;y):asc,id:asc,\"q\":asc"
      ∧ (∀ key ∈ looseSortKeys, key.Tidy)
      ∧ read (render looseSortKeys) = .ok looseSortKeys := by
  have accepted : read looseSorts = .ok looseSortKeys := by decide +kernel
  obtain ⟨_, _, -, -, -, -, -, back⟩ := collects_and_reads_back looseSorts
  obtain ⟨-, tidy, -, again⟩ := back _ accepted
  exact ⟨accepted, by decide +kernel, tidy, again⟩

end QueryFilter
