/-
What is accepted compiles.

A clause can fail in five ways. Each is closed by another part: checking refuses criteria and sort keys on
unknown fields, and operators that a junction field does not take; an entity with a junction field has an id
column by construction; and an operand has the shape its operator takes. So an accepted request is resolved
(`Request.Accepted.resolved`), and a resolved one has a query over every base (`Request.Resolved.compile`) and a
plan over every view (`Request.Resolved.plan`).

The entity a request was accepted against is still the one that is described, whatever has been called on the
catalog since (`Service.accepted_compiles`).
-/
import QueryFilter.Proofs.Schema.Accepted
import QueryFilter.Proofs.Schema.CatalogRun
import QueryFilter.Proofs.Sql.Assembly

namespace QueryFilter

/-- Every criterion has a clause and every sort key a field, so that no fault of a clause is met. -/
structure Request.Resolved (entity : Entity) (request : Request) : Prop where
  filters : ∀ criterion ∈ request.filters, ∃ clause, Clause.ofCriterion entity criterion = .ok clause
  sorts : ∀ key ∈ request.sorts, ∃ field, sortField entity key = .ok field

/-! ## Clauses -/

namespace Clause

/-- A criterion that asks for membership has a clause on a junction field of an entity with an id column. -/
theorem exists_ofJunction {entity : Entity} {idColumn : String} (declared : entity.idColumn = some idColumn)
    {criterion : Criterion} {membership : String} (asks : criterion.operator.membership? = some membership)
    (field : EntityField) (junction : Junction) :
    ∃ clause, ofJunction entity field junction criterion.operator criterion.operand = .ok clause := by
  unfold ofJunction
  rw [declared, asks]
  cases operand : criterion.operand with
  | none =>
    have arity := criterion.fits
    rw [operand] at arity
    exact absurd arity.symm (Operator.arity_of_membership? asks)
  | single raw => exact ⟨_, rfl⟩
  | list raws => exact ⟨_, rfl⟩

theorem exists_ofCriterion {entity : Entity} {criterion : Criterion} (accepted : criterion.Accepted entity) :
    ∃ clause, ofCriterion entity criterion = .ok clause := by
  obtain ⟨field, found, lawful⟩ := accepted.field
  unfold ofCriterion
  rw [found]
  cases kept : field.junction with
  | none => exact ⟨_, by simp only [kept]; rfl⟩
  | some junction =>
    obtain ⟨idColumn, declared⟩ := Entity.idColumn_of_junction found kept
    obtain ⟨membership, asks⟩ := Violation.membership_of_ofOperator lawful kept
    obtain ⟨clause, resolved⟩ := exists_ofJunction declared asks field junction
    exact ⟨clause, by simp only [kept, resolved]⟩

end Clause

theorem Request.Accepted.resolved {entity : Entity} {request : Request} (accepted : request.Accepted entity) :
    request.Resolved entity where
  filters criterion mem := Clause.exists_ofCriterion (accepted.filters criterion mem)
  sorts key mem := by
    obtain ⟨field, found⟩ := Violation.sortField_of_ofSortKey (accepted.sorts key mem)
    exact ⟨field, by simp only [sortField, found]⟩

/-! ## Queries and plans -/

/-- What can be made of every element can be made of the list. -/
theorem exists_mapM {σ τ ε : Type} {make : σ → Except ε τ} {items : List σ}
    (each : ∀ item ∈ items, ∃ made, make item = .ok made) : ∃ mades, items.mapM make = .ok mades := by
  induction items with
  | nil => exact ⟨[], rfl⟩
  | cons item items ih =>
    obtain ⟨made, here⟩ := each item List.mem_cons_self
    obtain ⟨mades, others⟩ := ih fun item mem => each item (List.mem_cons_of_mem _ mem)
    exact ⟨made :: mades, by rw [List.mapM_cons, here, others]; rfl⟩

theorem exists_conditions {entity : Entity} {criteria : List Criterion}
    (resolved : ∀ criterion ∈ criteria, ∃ clause, Clause.ofCriterion entity criterion = .ok clause)
    (bindings : Bindings) : ∃ texts last, conditions entity criteria bindings = (.ok texts, last) := by
  induction criteria generalizing bindings with
  | nil => exact ⟨[], bindings, rfl⟩
  | cons criterion criteria ih =>
    obtain ⟨clause, here⟩ := resolved criterion List.mem_cons_self
    obtain ⟨texts, last, others⟩ := ih (fun criterion mem => resolved criterion (List.mem_cons_of_mem _ mem))
      (bindings.bind clause).2
    refine ⟨(bindings.bind clause).1 :: texts, last, ?_⟩
    rw [conditions, condition, here]
    simp only [others]

namespace Request.Resolved

variable {entity : Entity} {request : Request}

theorem whereText (resolved : request.Resolved entity) (bindings : Bindings) :
    ∃ text last, QueryFilter.whereText entity request.filters bindings = (.ok text, last) := by
  obtain ⟨texts, last, written⟩ := exists_conditions resolved.filters bindings
  exact ⟨_, last, by rw [QueryFilter.whereText, written]⟩

theorem sortColumns (resolved : request.Resolved entity) :
    ∃ columns, QueryFilter.sortColumns entity request.sorts = .ok columns := by
  refine exists_mapM fun key mem => ?_
  obtain ⟨field, found⟩ := resolved.sorts key mem
  exact ⟨field.column, by rw [found]; rfl⟩

theorem orderText (resolved : request.Resolved entity) :
    ∃ order, QueryFilter.orderText entity request.sorts = .ok order := by
  have each : ∀ key ∈ request.sorts, ∃ text, (sortField entity key).map
      (fun field => field.column ++ " " ++ key.direction.sql) = .ok text := fun key mem => by
    obtain ⟨field, found⟩ := resolved.sorts key mem
    exact ⟨_, by rw [found]; rfl⟩
  obtain ⟨texts, written⟩ := exists_mapM each
  exact ⟨_, by rw [QueryFilter.orderText, written]; rfl⟩

/-- A resolved request has a query over every base. -/
theorem compile (resolved : request.Resolved entity) (base : String) :
    ∃ query, Query.compile entity base request = .ok query := by
  obtain ⟨text, last, conditions⟩ := resolved.whereText .empty
  obtain ⟨order, ordered⟩ := resolved.orderText
  unfold Query.compile
  rw [conditions]
  simp only [ordered]
  exact ⟨_, rfl⟩

/-- A resolved request has a plan over every view. -/
theorem plan (resolved : request.Resolved entity) (view : JoinedView) :
    ∃ plan, JoinPlan.make view entity request = .ok plan := by
  obtain ⟨text, last, conditions⟩ := resolved.whereText .empty
  obtain ⟨columns, sorted⟩ := resolved.sortColumns
  obtain ⟨order, ordered⟩ := resolved.orderText
  unfold JoinPlan.make
  rw [conditions]
  simp only [sorted, ordered]
  exact ⟨_, rfl⟩

end Request.Resolved

/-! ## Services -/

namespace Service

theorem process_eq_ok_iff {service : Service} {identity : String} {request accepted : Request} :
    service.process identity request = .ok accepted ↔
      ∃ entity, service.catalog.describe identity = .ok entity ∧ request.process entity = .ok accepted := by
  unfold process
  cases service.catalog.describe identity with
  | error failure => simp [bind, Except.bind]
  | ok entity => simp [bind, Except.bind]

theorem compile_of_described {service : Service} {identity : String} {entity : Entity}
    (described : service.catalog.describe identity = .ok entity) (base : String) (request : Request) :
    service.compile identity base request = Query.compile entity base request := by
  rw [compile, described]
  rfl

/-- **What is accepted compiles.** A request accepted against a registered entity has a query over every base and
a plan over every view, at any time after; none of its criteria and sort keys meets a fault of a clause. -/
theorem accepted_compiles {service : Service} {identity : String} {request accepted : Request}
    (processed : service.process identity request = .ok accepted) (calls : List Catalog.Call) :
    ∃ entity, service.catalog.describe identity = .ok entity
      ∧ (service.catalog.run calls).describe identity = .ok entity
      ∧ accepted.Resolved entity
      ∧ (∀ base, ∃ query,
        { service with catalog := service.catalog.run calls }.compile identity base accepted = .ok query)
      ∧ ∀ view, ∃ plan, JoinPlan.make view entity accepted = .ok plan := by
  obtain ⟨entity, described, processed⟩ := process_eq_ok_iff.1 processed
  have resolved := (Request.accepted_of_process processed).1.resolved
  have still := Catalog.describe_run described calls
  refine ⟨entity, described, still, resolved, fun base => ?_, resolved.plan⟩
  obtain ⟨query, compiled⟩ := resolved.compile base
  exact ⟨query, by rw [compile_of_described still, compiled]⟩

end Service

namespace Sample

/-- A service that knows orders alone. -/
def shop : Service :=
  ⟨⟨[orders]⟩, .standard⟩

/-- Refunds, of which nothing can be asked. -/
def refunds : Entity :=
  ⟨"Refund", "refunds", none, [], by decide, List.nodup_nil, fun _ mem => absurd mem List.not_mem_nil⟩

/-- Two calls that fail, one that adds an entity, and one that asks for it again. -/
def laterCalls : List Catalog.Call :=
  [.register orders, .describeDeclared "Refund" (.error (.invalidEntity "no refunds yet")),
    .describeDeclared "Refund" (.ok refunds), .describe "Refund"]

end Sample

open Sample in
/-- The tagged orders of a customer still have a query when another entity has been registered. -/
theorem Service.accepted_compiles_taggedOrders :
    shop.process "Order" taggedOrders = .ok taggedOrdersAccepted
      ∧ ∃ entity, shop.catalog.describe "Order" = .ok entity
        ∧ (shop.catalog.run laterCalls).describe "Order" = .ok entity
        ∧ taggedOrdersAccepted.Resolved entity
        ∧ (∀ base, ∃ query, { shop with catalog := shop.catalog.run laterCalls }.compile "Order" base
          taggedOrdersAccepted = .ok query)
        ∧ ∀ view, ∃ plan, JoinPlan.make view entity taggedOrdersAccepted = .ok plan := by
  have processed : shop.process "Order" taggedOrders = .ok taggedOrdersAccepted := by decide +kernel
  exact ⟨processed, accepted_compiles processed laterCalls⟩

end QueryFilter
