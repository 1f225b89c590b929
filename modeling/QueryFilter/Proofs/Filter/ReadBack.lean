/-
Which criteria are read back from the text they are written as.

A criterion can be made of any texts, and it is written without quoting them, so what it is written as may be read
as another criterion, as several, or as none. It is read as itself exactly when it is legible
(`FilterText.read_render_iff`): there is no white space around its parts, no colon in its field and no comma in an
element of a list, and every comma of the whole text, in whichever part it stands, has a closing parenthesis after
it before any opening one.
-/
import QueryFilter.Proofs.Filter.RoundTrip

namespace QueryFilter

theorem Text.tidy_iff_strip {s : String} : Text.Tidy s.toList ↔ s ≠ "" ∧ Text.strip s = s := by
  constructor
  · intro tidy
    refine ⟨?_, ?_⟩
    · rintro rfl
      exact tidy.ne_nil rfl
    · rw [strip, tidy.trim_eq, String.ofList_toList]
  · rintro ⟨nonempty, stripped⟩
    have trimmed : trim s.toList = s.toList := by rw [← toList_strip, stripped]
    have visible : isBlank s.toList = false := by
      rw [Bool.eq_false_iff]
      intro blank
      rw [trim_eq_nil_iff.2 blank] at trimmed
      exact nonempty (String.toList_eq_nil_iff.1 trimmed.symm)
    rw [← trimmed]
    exact tidy_trim visible

namespace FilterSegment

/-- A text is whole when every comma in it has a list closed first after it. -/
theorem whole_iff {text : List Char} :
    Whole text ↔ ∀ before after, text = before ++ ',' :: after → closesFirst after = true := by
  induction text with
  | nil => simp [Whole, Text.Uncut]
  | cons c rest ih =>
    rw [whole_cons_iff, ih]
    constructor
    · rintro ⟨here, later⟩ before after split
      cases before with
      | nil =>
        obtain ⟨rfl, rfl⟩ := List.cons.inj split
        exact here rfl
      | cons d before => exact later before after (List.cons.inj split).2
    · intro all
      exact ⟨fun comma => all [] rest (by rw [comma]; rfl), fun before after split =>
        all (c :: before) after (by rw [split]; rfl)⟩

end FilterSegment

/-- What is asked of a criterion that is to be read back. -/
structure Criterion.Legible (criterion : Criterion) : Prop where
  field : criterion.field ≠ "" ∧ Text.strip criterion.field = criterion.field ∧ ':' ∉ criterion.field.toList
  single : ∀ value, criterion.operand = .single value → value ≠ "" ∧ Text.strip value = value
  list : ∀ values, criterion.operand = .list values →
    values ≠ [] ∧ ∀ value ∈ values, value ≠ "" ∧ Text.strip value = value ∧ ',' ∉ value.toList
  commas : ∀ before after, criterion.render.toList = before ++ ',' :: after →
    ∃ inside rest, after = inside ++ ')' :: rest ∧ '(' ∉ inside

theorem Operand.tidy_iff {operand : Operand} : operand.Tidy ↔
    (∀ value, operand = .single value → value ≠ "" ∧ Text.strip value = value)
      ∧ ∀ values, operand = .list values →
        values ≠ [] ∧ ∀ value ∈ values, value ≠ "" ∧ Text.strip value = value ∧ ',' ∉ value.toList := by
  constructor
  · intro tidy
    cases tidy with
    | none => exact ⟨nofun, nofun⟩
    | single tidy =>
      refine ⟨fun _ h => ?_, nofun⟩
      cases h
      exact Text.tidy_iff_strip.1 tidy
    | list nonempty elements =>
      refine ⟨nofun, fun _ h => ?_⟩
      cases h
      refine ⟨nonempty, fun value mem => ?_⟩
      obtain ⟨tidy, plain⟩ := elements value mem
      obtain ⟨nonempty, stripped⟩ := Text.tidy_iff_strip.1 tidy
      exact ⟨nonempty, stripped, plain⟩
  · rintro ⟨single, list⟩
    cases operand with
    | none => exact .none
    | single value => exact .single (Text.tidy_iff_strip.2 (single value rfl))
    | list values =>
      obtain ⟨nonempty, elements⟩ := list values rfl
      refine .list nonempty fun value mem => ?_
      obtain ⟨nonempty, stripped, plain⟩ := elements value mem
      exact ⟨Text.tidy_iff_strip.2 ⟨nonempty, stripped⟩, plain⟩

theorem Criterion.legible_iff {criterion : Criterion} :
    criterion.Legible ↔ criterion.Tidy ∧ FilterSegment.Whole criterion.render.toList := by
  simp only [FilterSegment.whole_iff, FilterSegment.closesFirst_eq_true_iff]
  constructor
  · rintro ⟨⟨nonempty, stripped, colon⟩, single, list, commas⟩
    exact ⟨⟨Text.tidy_iff_strip.2 ⟨nonempty, stripped⟩, colon, Operand.tidy_iff.2 ⟨single, list⟩⟩, commas⟩
  · rintro ⟨⟨field, colon, operand⟩, commas⟩
    obtain ⟨nonempty, stripped⟩ := Text.tidy_iff_strip.1 field
    obtain ⟨single, list⟩ := Operand.tidy_iff.1 operand
    exact ⟨⟨nonempty, stripped, colon⟩, single, list, commas⟩

namespace FilterText

/-- **Which criteria are read back.** The text a criterion is written as is read as this criterion alone exactly when
the criterion is legible. -/
theorem read_render_iff (criterion : Criterion) :
    read criterion.render = .ok [criterion] ↔ criterion.Legible := by
  rw [Criterion.legible_iff, read_eq_ok_iff]
  constructor
  · intro parts
    have apart := FilterSegment.apart_ofText criterion.render.toList
    generalize FilterSegment.ofText criterion.render.toList = segments at parts apart
    obtain ⟨segment, rfl, accepted⟩ :
        ∃ segment, segments = [segment] ∧ FilterSegment.read segment = .ok criterion := by
      cases parts with
      | cons accepted rest =>
        cases rest
        exact ⟨_, rfl, accepted⟩
    -- Commas and parentheses stand in the written text as in the segment, which is whole.
    have sameMarks := FilterSegment.marks_render accepted
    exact ⟨FilterSegment.tidy_of_read accepted, (FilterSegment.whole_congr sameMarks).1 apart.1⟩
  · rintro ⟨tidy, whole⟩
    have apart : FilterSegment.Apart [criterion.render.toList] := ⟨whole, rfl, trivial⟩
    have segments : FilterSegment.ofText criterion.render.toList = [criterion.render.toList] :=
      FilterSegment.ofText_joinWith apart (by simpa using FilterSegment.tidy_render tidy)
    rw [segments]
    exact .cons (FilterSegment.read_render tidy) .nil

/-- A comma in a field belongs to it when a parenthesis is closed after it, be it in the value; else the text is cut
there. -/
example :
    let closed : Criterion := ⟨"a,b", .eq, .single "x)", rfl⟩
    let plain : Criterion := ⟨"a,b", .eq, .single "x", rfl⟩
    read closed.render = .ok [closed] ∧ read plain.render ≠ .ok [plain] := by
  decide +kernel

end FilterText

end QueryFilter
