/-
The rules that criteria and sort keys keep.

What a check asks is said of the declared fields, their types and the operators one by one (`Criterion.Keeps`,
`Criterion.Lawful`, `SortKey.Lawful`), without the classes of operators and types the check goes by. A criterion
breaks none of its rules exactly when it is lawful (`Violation.ofCriterion_eq_nil_iff`), and what several criteria
and keys are refused for is what each of them is refused for alone, one after the other
(`Violation.check_iff_lawful`).
-/
import QueryFilter.Proofs.Schema.Built
import QueryFilter.Proofs.Service.Report

namespace QueryFilter

/-- What is asked of a criterion on a field. -/
structure Criterion.Keeps (criterion : Criterion) (field : EntityField) : Prop where
  filterable : field.filterable = true
  relation : field.junction ≠ none → criterion.operator ∈ [.eq, .ne, .oneOf, .noneOf]
  pattern : criterion.operator ∈ [.startsWith, .endsWith, .contains] → field.type = .string
  comparison : criterion.operator ∈ [.gt, .gte, .lt, .lte] →
    field.type ∈ [.integer, .decimal, .date, .timestamp]
  list : criterion.operator ∈ [.oneOf, .noneOf] → field.type.element ≠ .boolean
  numbers : field.type.element ∈ [.integer, .decimal] →
    ∀ raw ∈ criterion.operand.values, ∃ number, Value.number? raw = some number
  dates : field.type.element = .date →
    ∀ raw ∈ criterion.operand.values, ∃ date, Date.ofText? raw.toList = some date
  timestamps : field.type.element = .timestamp →
    ∀ raw ∈ criterion.operand.values, ∃ timestamp, Timestamp.ofText? raw.toList = some timestamp

/-- A criterion on a field of the entity that keeps the rules of this field. -/
def Criterion.Lawful (entity : Entity) (criterion : Criterion) : Prop :=
  ∃ field ∈ entity.fields, field.name = criterion.field ∧ criterion.Keeps field

/-- A sort key on a field of the entity that can be sorted on. -/
def SortKey.Lawful (entity : Entity) (key : SortKey) : Prop :=
  ∃ field ∈ entity.fields, field.name = key.field ∧ field.sortable = true

/-! ## Classes of operators and types -/

namespace Operator

variable {operator : Operator}

theorem membership?_isSome_iff : operator.membership?.isSome = true ↔ operator ∈ [eq, ne, oneOf, noneOf] := by
  cases operator <;> decide

theorem isPattern_iff : operator.isPattern = true ↔ operator ∈ [startsWith, endsWith, contains] := by
  cases operator <;> decide

theorem isComparison_iff : operator.isComparison = true ↔ operator ∈ [gt, gte, lt, lte] := by
  cases operator <;> decide

theorem isList_iff : operator.isList = true ↔ operator ∈ [oneOf, noneOf] := by
  cases operator <;> decide

end Operator

namespace FieldType

variable {type : FieldType}

theorem isString_iff : type.isString = true ↔ type = string := by
  cases type <;> simp [isString]

theorem isBoolean_iff : type.isBoolean = true ↔ type = boolean := by
  cases type <;> simp [isBoolean]

theorem isOrdered_iff :
    (type.isNumeric || type.isTemporal) = true ↔ type ∈ [integer, decimal, date, timestamp] := by
  cases type <;> simp [isNumeric, isTemporal]

end FieldType

/-! ## One criterion, one sort key -/

namespace Violation

variable {entity : Entity} {criterion : Criterion} {key : SortKey} {field : EntityField}

theorem ite_singleton_eq_nil_iff {broken : Bool} {violation : Violation} :
    (if broken then [violation] else []) = [] ↔ broken = false := by
  cases broken <;> simp

theorem ofOperator_eq_nil_iff {operator : Operator} : ofOperator operator field = [] ↔
    (field.junction ≠ none → operator ∈ [.eq, .ne, .oneOf, .noneOf])
      ∧ (operator ∈ [.startsWith, .endsWith, .contains] → field.type = .string)
      ∧ (operator ∈ [.gt, .gte, .lt, .lte] → field.type ∈ [.integer, .decimal, .date, .timestamp])
      ∧ (operator ∈ [.oneOf, .noneOf] → field.type.element ≠ .boolean) := by
  rw [← Operator.membership?_isSome_iff, ← Operator.isPattern_iff, ← Operator.isComparison_iff,
    ← Operator.isList_iff, ← FieldType.isString_iff, ← FieldType.isOrdered_iff, Ne, Ne, ← FieldType.isBoolean_iff]
  unfold ofOperator
  simp only [List.append_eq_nil_iff, ite_singleton_eq_nil_iff, and_assoc]
  refine and_congr ?_ (and_congr ?_ (and_congr ?_ ?_))
  · cases field.junction <;> cases operator.membership? <;> simp
  · cases operator.isPattern <;> simp
  · cases operator.isComparison <;> cases field.type.isNumeric <;> simp
  · cases operator.isList <;> simp

theorem ofValue?_eq_none_iff_reads {name raw : String} {element : FieldType} : ofValue? name element raw = none ↔
    (element ∈ [.integer, .decimal] → ∃ number, Value.number? raw = some number)
      ∧ (element = .date → ∃ date, Date.ofText? raw.toList = some date)
      ∧ (element = .timestamp → ∃ timestamp, Timestamp.ofText? raw.toList = some timestamp) := by
  rw [← Option.isSome_iff_exists, ← Option.isSome_iff_exists, ← Option.isSome_iff_exists]
  cases element <;> simp [ofValue?, Option.isSome_iff_ne_none]

theorem keeps_iff : criterion.Keeps field ↔ field.filterable = true ∧ ofOperator criterion.operator field = []
    ∧ ∀ raw ∈ criterion.operand.values, ofValue? criterion.field field.type.element raw = none := by
  rw [ofOperator_eq_nil_iff]
  simp only [ofValue?_eq_none_iff_reads]
  constructor
  · rintro ⟨filterable, relation, pattern, comparison, list, numbers, dates, timestamps⟩
    exact ⟨filterable, ⟨relation, pattern, comparison, list⟩, fun raw mem =>
      ⟨fun element => numbers element raw mem, fun element => dates element raw mem,
        fun element => timestamps element raw mem⟩⟩
  · rintro ⟨filterable, ⟨relation, pattern, comparison, list⟩, values⟩
    exact ⟨filterable, relation, pattern, comparison, list, fun element raw mem => (values raw mem).1 element,
      fun element raw mem => (values raw mem).2.1 element, fun element raw mem => (values raw mem).2.2 element⟩

/-- A criterion that breaks no rule is lawful. -/
theorem ofCriterion_eq_nil_iff : ofCriterion entity criterion = [] ↔ criterion.Lawful entity := by
  have lawful : criterion.Lawful entity ↔
      ∃ field, entity.field? criterion.field = some field ∧ criterion.Keeps field := by
    simp only [Criterion.Lawful, Entity.field?_eq_some_iff, and_assoc]
  rw [lawful, ofCriterion]
  cases entity.field? criterion.field with
  | none => simp
  | some field =>
    simp only [Option.some.injEq, exists_eq_left', keeps_iff]
    cases field.filterable with
    | false => simp
    | true => simp

theorem ofSortKey_eq_nil_iff : ofSortKey entity key = [] ↔ key.Lawful entity := by
  have lawful : key.Lawful entity ↔ ∃ field, entity.field? key.field = some field ∧ field.sortable = true := by
    simp only [SortKey.Lawful, Entity.field?_eq_some_iff, and_assoc]
  rw [lawful, ofSortKey]
  cases entity.field? key.field with
  | none => simp
  | some field => cases sortable : field.sortable <;> simp [sortable]

/-! ## Several criteria and sort keys -/

/-- The messages a check ends with: none when it passes. -/
def reported : Except Failure Unit → List String
  | .ok () => []
  | .error failure => failure.details

theorem reported_check (entity : Entity) (filters : List Criterion) (sorts : List SortKey) :
    reported (check entity filters sorts) = (all entity filters sorts).map message := by
  rw [check]
  cases all entity filters sorts with
  | nil => rfl
  | cons violation violations => rfl

theorem check_eq_error_iff {filters : List Criterion} {sorts : List SortKey} {failure : Failure} :
    check entity filters sorts = .error failure ↔
      all entity filters sorts ≠ [] ∧ failure = .rejected heading ((all entity filters sorts).map message) := by
  rw [check]
  cases all entity filters sorts with
  | nil => simp
  | cons violation violations => simp [eq_comm]

/-- What is reported of some criteria and keys is what is reported of each alone. -/
theorem reported_all (entity : Entity) (filters : List Criterion) (sorts : List SortKey) :
    (all entity filters sorts).map message =
      filters.flatMap (fun criterion => reported (check entity [criterion] []))
        ++ sorts.flatMap fun key => reported (check entity [] [key]) := by
  simp only [reported_check, all, List.flatMap_cons, List.flatMap_nil, List.append_nil, List.nil_append,
    List.map_append, List.map_flatMap]

/-- **What a check asks.** Criteria and sort keys are accepted exactly when each of them is lawful. They are refused
with what the criteria are refused for, in order, and then the sort keys, each as if it were checked alone. -/
theorem check_iff_lawful (entity : Entity) (filters : List Criterion) (sorts : List SortKey) :
    (check entity filters sorts = .ok () ↔
      (∀ key ∈ sorts, key.Lawful entity) ∧ ∀ criterion ∈ filters, criterion.Lawful entity)
    ∧ ∀ failure, check entity filters sorts = .error failure →
      failure = .rejected heading (filters.flatMap (fun criterion => reported (check entity [criterion] []))
        ++ sorts.flatMap fun key => reported (check entity [] [key])) := by
  constructor
  · rw [check_eq_ok_iff, all, List.append_eq_nil_iff, List.flatMap_eq_nil_iff, List.flatMap_eq_nil_iff, and_comm]
    simp only [ofCriterion_eq_nil_iff, ofSortKey_eq_nil_iff]
  · intro failure failed
    rw [(check_eq_error_iff.1 failed).2, reported_all]

end Violation

namespace Sample

def visitsDeclaration : Declaration :=
  ⟨"Visit", some "visits", some "v.id",
    [⟨"seenOn", "v.seen_on", .date, true, true, none⟩,
      ⟨"flags", "v.flags", .collection (.collection .boolean), true, false, none⟩,
      ⟨"tagIds", "v.tag_ids", .collection .integer, true, false,
        some ⟨"visit_tags", "visit_id", "tag_id"⟩⟩]⟩

theorem fault?_visitsDeclaration : visitsDeclaration.fault? = none := by decide

/-- Visits, with flags in nested collections and tags in a junction table. -/
def visits : Entity where
  identity := visitsDeclaration.identity
  table := "visits"
  idColumn := visitsDeclaration.idColumn
  fields := visitsDeclaration.fields
  wellFormed := Declaration.wellFormed_of_fault? fault?_visitsDeclaration

/-- Criteria of every arity that keep the rules of their fields. -/
def lawfulVisits : List Criterion :=
  [⟨"seenOn", .gte, .single "2024-02-29", rfl⟩, ⟨"tagIds", .oneOf, .list ["3", " 4e0"], rfl⟩,
    ⟨"flags", .isNotNull, .none, by decide⟩]

/-- The first of these criteria breaks three rules at once. -/
def unlawfulVisits : List Criterion :=
  [⟨"tagIds", .startsWith, .single "x", rfl⟩, ⟨"seenOn", .eq, .single "2024-02-30", rfl⟩,
    ⟨"flags", .noneOf, .list ["true"], rfl⟩]

def visitsFailure : Failure :=
  .rejected "Filter validation failed"
    ["Operator 'sw' is not supported on relation field 'tagIds'",
      "Operator 'sw' only works with string fields, but 'tagIds' is collection",
      "Field 'tagIds' expects numeric value, got 'x'",
      "Field 'seenOn' expects date value, got '2024-02-30'",
      "Operator 'nin' is not supported for boolean field 'flags'",
      "Field 'tagIds' is not sortable"]

end Sample

open Sample in
/-- Lawful criteria are accepted, and unlawful ones refused one by one, each for all that it breaks. -/
theorem Violation.check_iff_lawful_visits :
    check visits lawfulVisits [⟨"seenOn", .desc⟩] = .ok ()
      ∧ (∀ criterion ∈ lawfulVisits, criterion.Lawful visits)
      ∧ check visits unlawfulVisits [⟨"tagIds", .asc⟩] = .error visitsFailure
      ∧ visitsFailure = .rejected heading
        (unlawfulVisits.flatMap (fun criterion => reported (check visits [criterion] []))
          ++ [(⟨"tagIds", .asc⟩ : SortKey)].flatMap fun key => reported (check visits [] [key])) := by
  have accepted : check visits lawfulVisits [⟨"seenOn", .desc⟩] = .ok () := by decide +kernel
  have refused : check visits unlawfulVisits [⟨"tagIds", .asc⟩] = .error visitsFailure := by decide +kernel
  obtain ⟨lawful, -⟩ := check_iff_lawful visits lawfulVisits [⟨"seenOn", .desc⟩]
  obtain ⟨-, reports⟩ := check_iff_lawful visits unlawfulVisits [⟨"tagIds", .asc⟩]
  exact ⟨accepted, (lawful.1 accepted).2, refused, reports visitsFailure refused⟩

end QueryFilter
