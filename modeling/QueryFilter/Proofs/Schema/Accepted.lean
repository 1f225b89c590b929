/-
What is known of a request that has been processed.

A processed request has criteria and sort keys that break no rule of the entity (`accepted_of_process`), and
no list of values is empty, since a list in filter text has an element. So its fields are known, and a field
in a junction table is only tested for membership.
-/
import QueryFilter.Proofs.Filter.Grammar
import QueryFilter.Service

namespace QueryFilter

/-- A criterion that breaks no rule of an entity, and whose list of values, if it has one, is not empty. -/
structure Criterion.Accepted (entity : Entity) (criterion : Criterion) : Prop where
  lawful : Violation.ofCriterion entity criterion = []
  listed : criterion.operand ≠ .list []

/-- A request whose criteria and sort keys an entity accepts. -/
structure Request.Accepted (entity : Entity) (request : Request) : Prop where
  filters : ∀ criterion ∈ request.filters, criterion.Accepted entity
  sorts : ∀ key ∈ request.sorts, Violation.ofSortKey entity key = []

/-- A list that is read from filter text has an element. -/
theorem Criterion.Tidy.listed {criterion : Criterion} (tidy : criterion.Tidy) : criterion.operand ≠ .list [] := by
  intro empty
  have operand := tidy.operand
  rw [empty] at operand
  cases operand with
  | list nonempty => exact nonempty rfl

/-- Processing accepts a request only when the entity does, and changes nothing but its criteria and keys. -/
theorem Request.accepted_of_process {entity : Entity} {request accepted : Request}
    (h : request.process entity = .ok accepted) :
    accepted.Accepted entity ∧ accepted = request.withCriteria accepted.filters accepted.sorts := by
  unfold process at h
  generalize read : FilterText.collect (request.filterText.getD "") = filters,
    SortText.collect (request.sortText.getD "") = sorts at h
  simp only at h
  split at h
  · cases h
  · rename_i lawful
    split at h
    · cases h
    · split at h
      · cases h
      · cases h
        have none : Violation.all entity filters.1 sorts.1 = [] := by simpa using lawful
        unfold Violation.all at none
        obtain ⟨criteria, keys⟩ := List.append_eq_nil_iff.1 none
        refine ⟨⟨fun criterion mem => ⟨List.flatMap_eq_nil_iff.1 criteria criterion mem, ?_⟩,
          List.flatMap_eq_nil_iff.1 keys⟩, rfl⟩
        rw [← read] at mem
        exact (FilterText.collected_tidy _ criterion mem).listed

/-- An accepted criterion is on a known field, in a way that suits it. -/
theorem Criterion.Accepted.field {entity : Entity} {criterion : Criterion}
    (accepted : criterion.Accepted entity) :
    ∃ field, entity.field? criterion.field = some field
      ∧ Violation.ofOperator criterion.operator field = [] := by
  have lawful := accepted.lawful
  unfold Violation.ofCriterion at lawful
  split at lawful
  · cases lawful
  · rename_i field found
    split at lawful
    · cases lawful
    · exact ⟨field, found, (List.append_eq_nil_iff.1 lawful).1⟩

/-- A field in a junction table is accepted under the operators that ask for membership alone. -/
theorem Violation.membership_of_ofOperator {operator : Operator} {field : EntityField} {junction : Junction}
    (lawful : ofOperator operator field = []) (kept : field.junction = some junction) :
    ∃ membership, operator.membership? = some membership := by
  unfold ofOperator at lawful
  simp only [List.append_eq_nil_iff] at lawful
  have asks := lawful.1.1.1
  rw [kept] at asks
  cases membership : operator.membership? with
  | some text => exact ⟨text, rfl⟩
  | none => simp [membership] at asks

/-- An accepted sort key is on a known field. -/
theorem Violation.sortField_of_ofSortKey {entity : Entity} {key : SortKey} (lawful : ofSortKey entity key = []) :
    ∃ field, entity.field? key.field = some field := by
  unfold ofSortKey at lawful
  split at lawful
  · cases lawful
  · rename_i field found
    exact ⟨field, found⟩

/-- An entity with a field in a junction table has an id column. -/
theorem Entity.idColumn_of_junction {entity : Entity} {name : String} {field : EntityField}
    {junction : Junction} (found : entity.field? name = some field) (kept : field.junction = some junction) :
    ∃ idColumn, entity.idColumn = some idColumn := by
  have fits := entity.wellFormed.fits field (Entity.mem_of_field? found).1
  exact Option.isSome_iff_exists.1 (fits.junction junction kept).2

end QueryFilter
