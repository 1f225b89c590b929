/-
What is reported of a request that is refused.

A request is processed in one pass, and its texts can also be read one by one and then checked. Both come to
the same: a request is accepted when its texts are read and what is read breaks no rule
(`Request.process_eq_ok_iff`, `Request.steps_iff`). When it is refused, the failure lists every bad segment of
either text and every rule broken by what the other segments are read as (`Request.Fails`,
`Request.process_eq_error_iff`), so that no problem is hidden behind another one (`Request.reports_problems`).
-/
import QueryFilter.Proofs.Text.Collected
import QueryFilter.Service

namespace QueryFilter

theorem Violation.check_eq_ok_iff {entity : Entity} {filters : List Criterion} {sorts : List SortKey} :
    check entity filters sorts = .ok () ↔ all entity filters sorts = [] := by
  rw [check]
  cases all entity filters sorts with
  | nil => simp
  | cons => simp

namespace Request

/-! ## The parts of a request -/

/-- The segments of the filter text, of which there is none without a text. -/
def filterSegments (request : Request) : List (List Char) :=
  FilterSegment.ofText (request.filterText.getD "").toList

def sortSegments (request : Request) : List (List Char) :=
  SortText.segments (request.sortText.getD "").toList

def readFilters (request : Request) : List Criterion :=
  readParts FilterSegment.read request.filterSegments

def readSorts (request : Request) : List SortKey :=
  readParts SortText.readSegment request.sortSegments

def badFilters (request : Request) : List FilterText.BadSegment :=
  (faultyParts FilterSegment.read request.filterSegments).map fun part => ⟨String.ofList part.1, part.2⟩

def badSorts (request : Request) : List SortText.BadSegment :=
  (faultyParts SortText.readSegment request.sortSegments).map fun part => ⟨String.ofList part.1, part.2⟩

/-- The rules broken by what could be read of either text. -/
def violations (request : Request) (entity : Entity) : List Violation :=
  Violation.all entity request.readFilters request.readSorts

/-- Everything that is wrong with a request: the bad segments of the filter text, those of the sort text, and the
rules broken by the other segments. -/
def problems (request : Request) (entity : Entity) : List String :=
  request.badFilters.map FilterText.BadSegment.message ++ request.badSorts.map SortText.BadSegment.message
    ++ (request.violations entity).map Violation.message

/-! ## Acceptance and refusal -/

/-- How a request fails. Its problems are listed whole; the heading is about the rules when one is broken, else
about the filter text when it has a bad segment, and else about the sort text. -/
inductive Fails (entity : Entity) (request : Request) : Failure → Prop where
  | rejected (broken : request.violations entity ≠ []) :
    Fails entity request (.rejected Violation.heading (request.problems entity))
  | malformedFilter (lawful : request.violations entity = []) (bad : request.badFilters ≠ []) :
    Fails entity request (.malformed FilterText.malformedHeading (request.problems entity))
  | malformedSort (lawful : request.violations entity = []) (read : request.badFilters = [])
    (bad : request.badSorts ≠ []) :
    Fails entity request (.malformed SortText.malformedHeading (request.problems entity))

variable {entity : Entity} {request accepted : Request} {failure : Failure}

theorem process_eq (request : Request) (entity : Entity) : request.process entity =
    if !(request.violations entity).isEmpty then .error (.rejected Violation.heading (request.problems entity))
    else if !request.badFilters.isEmpty then
      .error (.malformed FilterText.malformedHeading (request.problems entity))
    else if !request.badSorts.isEmpty then .error (.malformed SortText.malformedHeading (request.problems entity))
    else .ok (request.withCriteria request.readFilters request.readSorts) := by
  rw [process, FilterText.collect, SortText.collect, FilterText.collectSegments_eq, SortText.collectSegments_eq]
  rfl

theorem process_eq_ok_iff : request.process entity = .ok accepted ↔
    (request.badFilters = [] ∧ request.badSorts = [] ∧ request.violations entity = [])
      ∧ accepted = request.withCriteria request.readFilters request.readSorts := by
  rw [process_eq]
  cases request.violations entity with
  | cons => simp
  | nil =>
    cases request.badFilters with
    | cons => simp
    | nil =>
      cases request.badSorts with
      | cons => simp
      | nil => simp [eq_comm]

theorem process_eq_error_iff : request.process entity = .error failure ↔ Fails entity request failure := by
  rw [process_eq]
  constructor
  · intro h
    split at h
    · rename_i broken
      cases h
      exact .rejected (by simpa using broken)
    · rename_i lawful
      split at h
      · rename_i bad
        cases h
        exact .malformedFilter (by simpa using lawful) (by simpa using bad)
      · rename_i read
        split at h
        · rename_i bad
          cases h
          exact .malformedSort (by simpa using lawful) (by simpa using read) (by simpa using bad)
        · cases h
  · intro fails
    cases fails with
    | rejected broken => simp [broken]
    | malformedFilter lawful bad => simp [lawful, bad]
    | malformedSort lawful read bad => simp [lawful, read, bad]

/-- The texts are read and what is read is accepted, step by step, when there is no problem. -/
theorem steps_iff {filters : List Criterion} {sorts : List SortKey} :
    (FilterText.read (request.filterText.getD "") = .ok filters
      ∧ SortText.read (request.sortText.getD "") = .ok sorts
      ∧ Violation.check entity filters sorts = .ok ()) ↔
    (request.badFilters = [] ∧ request.badSorts = [] ∧ request.violations entity = [])
      ∧ filters = request.readFilters ∧ sorts = request.readSorts := by
  rw [FilterText.read_eq_ok_iff, SortText.read_eq_ok_iff, forall₂_read_iff, forall₂_read_iff,
    Violation.check_eq_ok_iff, badFilters, badSorts, List.map_eq_nil_iff, List.map_eq_nil_iff]
  constructor
  · rintro ⟨⟨noBadFilter, rfl⟩, ⟨noBadSort, rfl⟩, lawful⟩
    exact ⟨⟨noBadFilter, noBadSort, lawful⟩, rfl, rfl⟩
  · rintro ⟨⟨noBadFilter, noBadSort, lawful⟩, rfl, rfl⟩
    exact ⟨⟨noBadFilter, rfl⟩, ⟨noBadSort, rfl⟩, lawful⟩

/-! ## Completeness -/

/-- Each segment has its say in a report: the fault of a bad one is there, and so is each rule that is broken by
what another one is read as. -/
structure Reports (entity : Entity) (request : Request) (details : List String) : Prop where
  badFilter : ∀ segment ∈ request.filterSegments, ∀ fault, FilterSegment.read segment = .error fault →
    FilterText.BadSegment.message ⟨String.ofList segment, fault⟩ ∈ details
  brokenFilter : ∀ segment ∈ request.filterSegments, ∀ criterion, FilterSegment.read segment = .ok criterion →
    ∀ violation ∈ Violation.ofCriterion entity criterion, violation.message ∈ details
  badSort : ∀ segment ∈ request.sortSegments, ∀ fault, SortText.readSegment segment = .error fault →
    SortText.BadSegment.message ⟨String.ofList segment, fault⟩ ∈ details
  brokenSort : ∀ segment ∈ request.sortSegments, ∀ key, SortText.readSegment segment = .ok key →
    ∀ violation ∈ Violation.ofSortKey entity key, violation.message ∈ details

theorem reports_problems (entity : Entity) (request : Request) :
    request.Reports entity (request.problems entity) where
  badFilter segment mem fault found := by
    have bad : ⟨String.ofList segment, fault⟩ ∈ request.badFilters :=
      List.mem_map_of_mem (mem_faultyParts mem found)
    exact List.mem_append_left _ (List.mem_append_left _ (List.mem_map_of_mem bad))
  brokenFilter segment mem criterion found violation broken := by
    have all : violation ∈ request.violations entity :=
      List.mem_append_left _ (List.mem_flatMap.2 ⟨criterion, mem_readParts mem found, broken⟩)
    exact List.mem_append_right _ (List.mem_map_of_mem all)
  badSort segment mem fault found := by
    have bad : ⟨String.ofList segment, fault⟩ ∈ request.badSorts :=
      List.mem_map_of_mem (mem_faultyParts mem found)
    exact List.mem_append_left _ (List.mem_append_right _ (List.mem_map_of_mem bad))
  brokenSort segment mem key found violation broken := by
    have all : violation ∈ request.violations entity :=
      List.mem_append_right _ (List.mem_flatMap.2 ⟨key, mem_readParts mem found, broken⟩)
    exact List.mem_append_right _ (List.mem_map_of_mem all)

/-- A failure has the problems of its request as its details. -/
theorem Fails.details_eq (fails : request.Fails entity failure) : failure.details = request.problems entity := by
  cases fails with
  | rejected => rfl
  | malformedFilter => rfl
  | malformedSort => rfl

/-- **One pass does what the steps do, and reports everything.** A request is accepted when its texts are read,
one by one, and what is read is accepted, and then with that alone added; else it fails with all its problems,
none of which hides another one. -/
theorem process_agrees (entity : Entity) (request : Request) :
    (∀ accepted, request.process entity = .ok accepted ↔ ∃ filters sorts,
      FilterText.read (request.filterText.getD "") = .ok filters
        ∧ SortText.read (request.sortText.getD "") = .ok sorts
        ∧ Violation.check entity filters sorts = .ok ()
        ∧ accepted = { request with filters := filters, sorts := sorts })
    ∧ (∀ failure, request.process entity = .error failure ↔ request.Fails entity failure)
    ∧ ∀ failure, request.process entity = .error failure → request.Reports entity failure.details := by
  refine ⟨fun accepted => ?_, fun failure => process_eq_error_iff, fun failure failed => ?_⟩
  · rw [process_eq_ok_iff]
    constructor
    · rintro ⟨sound, rfl⟩
      obtain ⟨readFilters, readSorts, lawful⟩ := steps_iff.2 ⟨sound, rfl, rfl⟩
      exact ⟨_, _, readFilters, readSorts, lawful, rfl⟩
    · rintro ⟨filters, sorts, readFilters, readSorts, lawful, rfl⟩
      obtain ⟨sound, rfl, rfl⟩ := steps_iff.1 ⟨readFilters, readSorts, lawful⟩
      exact ⟨sound, rfl⟩
  · rw [(process_eq_error_iff.1 failed).details_eq]
    exact reports_problems entity request

end Request

namespace Sample

def notesDeclaration : Declaration :=
  ⟨"Note", some "notes", none, [(EntityField.plain "title" .string).withSortable false]⟩

theorem fault?_notesDeclaration : notesDeclaration.fault? = none := by decide

/-- Notes, with a title that cannot be sorted on. -/
def notes : Entity where
  identity := notesDeclaration.identity
  table := "notes"
  idColumn := notesDeclaration.idColumn
  fields := notesDeclaration.fields
  wellFormed := Declaration.wellFormed_of_fault? fault?_notesDeclaration

/-- A request with a bad segment and a broken rule in either text. -/
def badNotes : Request :=
  (Request.standard.withFilterText "title, pages:gt:3,title:eq:a").withSortText "title:up,title"

def badNotesFailure : Failure :=
  .rejected "Filter validation failed"
    ["Invalid filter 'title': Expected format 'field:operator' or 'field:operator:value'",
      "Invalid sort 'title:up': Unknown sort direction 'up' (expected asc or desc)",
      "Unknown filter field 'pages'. Valid: [title]",
      "Field 'title' is not sortable"]

end Sample

open Sample in
/-- Bad segments and broken rules of both texts are reported together. -/
theorem Request.process_agrees_badNotes :
    badNotes.process notes = .error badNotesFailure
      ∧ badNotes.Fails notes badNotesFailure
      ∧ badNotes.Reports notes badNotesFailure.details := by
  have failed : badNotes.process notes = .error badNotesFailure := by decide +kernel
  obtain ⟨-, fails, reports⟩ := process_agrees notes badNotes
  exact ⟨failed, (fails badNotesFailure).1 failed, reports badNotesFailure failed⟩

end QueryFilter
