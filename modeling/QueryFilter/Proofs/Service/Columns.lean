/-
The expressions of an accepted request.

A condition begins with an expression and an operator (`Condition.Of`): the column of a field of the entity's own,
or the id column when the field is in a junction table. The order and the grouping list the columns of the sort
keys. An entity vouches for the column of every field that can be filtered on. Nothing checks the column of a field
that can only be sorted on, the text of the id column, or whether a field that can be sorted on is in a junction
table. So an accepted request names usable columns exactly when it keeps these three rules by itself
(`Request.usable_iff`).
-/
import QueryFilter.Proofs.Joined.Planners
import QueryFilter.Proofs.Service.Compiles

namespace QueryFilter

/-- The related identifiers of a junction table. -/
def Junction.relatedExpression (junction : Junction) : String :=
  Identifier.quote junction.table ++ "." ++ Identifier.quote junction.relatedColumn

/-- The text of a condition, with the expressions that stand before its operators. -/
structure Condition where
  subjects : List String
  text : String

/-- The condition of a criterion. On a field of the entity's own, its column stands before the operator. On a field
in a junction table, the id column stands before the membership, and the related identifier before the test. -/
inductive Condition.Of (entity : Entity) (criterion : Criterion) : Condition → Prop where
  | own {field : EntityField} (found : entity.field? criterion.field = some field) (own : field.junction = none)
    (rest : String) :
    Of entity criterion ⟨[field.column], field.column ++ " " ++ criterion.operator.sql ++ rest⟩
  | related {field : EntityField} {junction : Junction} {idColumn membership : String}
    (found : entity.field? criterion.field = some field) (kept : field.junction = some junction)
    (declared : entity.idColumn = some idColumn) (asks : criterion.operator.membership? = some membership)
    (test : String) (known : test ∈ ["=", "IN"]) (rest : String) :
    Of entity criterion ⟨[idColumn, junction.relatedExpression],
      idColumn ++ " " ++ membership ++ " (SELECT " ++ Identifier.quote junction.table ++ "."
        ++ Identifier.quote junction.ownerColumn ++ " FROM " ++ Identifier.quote junction.table ++ " WHERE "
        ++ junction.relatedExpression ++ " " ++ test ++ rest⟩

namespace Condition

variable {entity : Entity} {criterion : Criterion} {clause : Clause} {field : EntityField}

theorem exists_of_ofColumn (found : entity.field? criterion.field = some field) (own : field.junction = none)
    (bindings : Bindings) : ∃ condition, Condition.Of entity criterion condition ∧ condition.text =
      (bindings.bind (Clause.ofColumn field.column field.type criterion.operator criterion.operand)).1 := by
  let name := Bindings.name (bindings.counter + 1)
  unfold Clause.ofColumn
  cases criterion.operand with
  | none => exact ⟨_, .own found own "", by simp [Bindings.bind]⟩
  | single raw => exact ⟨_, .own found own (" :" ++ name), by simp [Bindings.bind, name, String.append_assoc]⟩
  | list raws => exact ⟨_, .own found own (" (:" ++ name ++ ")"), by simp [Bindings.bind, name, String.append_assoc]⟩

theorem exists_of_ofJunction {junction : Junction} (found : entity.field? criterion.field = some field)
    (kept : field.junction = some junction)
    (resolved : Clause.ofJunction entity field junction criterion.operator criterion.operand = .ok clause)
    (bindings : Bindings) :
    ∃ condition, Condition.Of entity criterion condition ∧ condition.text = (bindings.bind clause).1 := by
  let name := Bindings.name (bindings.counter + 1)
  unfold Clause.ofJunction at resolved
  split at resolved
  · cases resolved
  · rename_i idColumn declared
    split at resolved
    · cases resolved
    · rename_i membership asks
      cases operand : criterion.operand with
      | none =>
        rw [operand] at resolved
        cases resolved
      | single raw =>
        rw [operand] at resolved
        cases resolved
        refine ⟨_, .related found kept declared asks "=" (by simp) (" " ++ (":" ++ name ++ ")")), ?_⟩
        simp only [Bindings.bind, Clause.junctionText, Junction.relatedExpression, name, String.append_assoc]
        rfl
      | list raws =>
        rw [operand] at resolved
        cases resolved
        refine ⟨_, .related found kept declared asks "IN" (by simp) (" (" ++ (":" ++ name ++ "))")), ?_⟩
        simp only [Bindings.bind, Clause.junctionText, Junction.relatedExpression, name, String.append_assoc]
        rfl

/-- The text of a clause is a condition of its criterion. -/
theorem exists_of_clause (resolved : Clause.ofCriterion entity criterion = .ok clause) (bindings : Bindings) :
    ∃ condition, Condition.Of entity criterion condition ∧ condition.text = (bindings.bind clause).1 := by
  unfold Clause.ofCriterion at resolved
  split at resolved
  · cases resolved
  · rename_i field found
    split at resolved
    · rename_i junction kept
      exact exists_of_ofJunction found kept resolved bindings
    · rename_i own
      cases resolved
      exact exists_of_ofColumn found own bindings

/-- The texts of criteria are conditions of theirs. -/
theorem exists_of_conditions {criteria : List Criterion} {bindings last : Bindings} {texts : List String}
    (written : conditions entity criteria bindings = (.ok texts, last)) :
    ∃ parts, List.Forall₂ (Condition.Of entity) criteria parts ∧ texts = parts.map (·.text) := by
  induction criteria generalizing bindings texts with
  | nil =>
    cases written
    exact ⟨[], .nil, rfl⟩
  | cons criterion criteria ih =>
    obtain ⟨text, rest, middle, here, later, rfl⟩ := conditions_cons_eq_ok_iff.1 written
    obtain ⟨clause, resolved, bound⟩ := condition_eq_ok_iff.1 here
    obtain ⟨part, first, same⟩ := exists_of_clause resolved bindings
    obtain ⟨parts, others, rfl⟩ := ih later
    exact ⟨part :: parts, .cons first others, by rw [List.map_cons, same, bound]⟩

end Condition

/-! ## What is checked -/

/-- What holds of one list's elements holds of the other's, when it is the same of each pair. -/
theorem forall_mem_iff_of_forall₂ {α β : Type} {R : α → β → Prop} {P : α → Prop} {Q : β → Prop} {as : List α}
    {bs : List β} (related : List.Forall₂ R as bs) (each : ∀ a ∈ as, ∀ b, R a b → (P a ↔ Q b)) :
    (∀ a ∈ as, P a) ↔ ∀ b ∈ bs, Q b := by
  induction related with
  | nil => simp
  | cons here _ ih =>
    rw [List.forall_mem_cons, List.forall_mem_cons, each _ List.mem_cons_self _ here,
      ih fun a mem => each a (List.mem_cons_of_mem _ mem)]

theorem Junction.not_blank_relatedExpression (junction : Junction) :
    Text.blank junction.relatedExpression = false := by
  have quoted : Text.isSpace '"' = false := by decide
  simp [relatedExpression, Identifier.quote, Text.blank, Text.isBlank, quoted]

theorem Criterion.Accepted.filterable {entity : Entity} {criterion : Criterion} (accepted : criterion.Accepted entity)
    {field : EntityField} (found : entity.field? criterion.field = some field) : field.filterable = true := by
  have lawful := accepted.lawful
  unfold Violation.ofCriterion at lawful
  rw [found] at lawful
  cases filterable : field.filterable with
  | true => rfl
  | false => simp [filterable] at lawful

theorem Entity.not_blank_column {entity : Entity} {name : String} {field : EntityField}
    (found : entity.field? name = some field) (filterable : field.filterable = true) :
    Text.blank field.column = false :=
  (entity.wellFormed.fits field (Entity.mem_of_field? found).1).column filterable

/-- The id column is not blank, if the criterion needs it. -/
def Criterion.IdColumnVisible (entity : Entity) (criterion : Criterion) : Prop :=
  ∀ field, entity.field? criterion.field = some field → field.junction.isSome = true →
    ∀ idColumn, entity.idColumn = some idColumn → Text.blank idColumn = false

/-- The column of a sort key is not blank, if its field cannot be filtered on. -/
def SortKey.ColumnVisible (entity : Entity) (key : SortKey) : Prop :=
  ∀ field, entity.field? key.field = some field → field.filterable = false → Text.blank field.column = false

/-- The sort key is on a field of the entity's own. -/
def SortKey.IsOwn (entity : Entity) (key : SortKey) : Prop :=
  ∀ field, entity.field? key.field = some field → field.junction = none

theorem Condition.Of.visible_iff {entity : Entity} {criterion : Criterion} {condition : Condition}
    (of : Condition.Of entity criterion condition) (accepted : criterion.Accepted entity) :
    criterion.IdColumnVisible entity ↔ ∀ subject ∈ condition.subjects, Text.blank subject = false := by
  unfold Criterion.IdColumnVisible
  cases of with
  | own found own rest =>
    have visible := Entity.not_blank_column found (accepted.filterable found)
    simp [found, own, visible]
  | related found kept declared asks test known rest =>
    simp [found, kept, declared, Junction.not_blank_relatedExpression]

theorem OrderTerm.Of.visible_iff {entity : Entity} {key : SortKey} {term : OrderTerm} (of : term.Of entity key) :
    key.ColumnVisible entity ↔ Text.blank term.column = false := by
  obtain ⟨field, found, same⟩ := Option.map_eq_some_iff.1 of.column
  unfold SortKey.ColumnVisible
  rw [← same]
  constructor
  · intro kept
    cases filterable : field.filterable with
    | true => exact Entity.not_blank_column found filterable
    | false => exact kept field found filterable
  · intro visible other found' _
    cases found.symm.trans found'
    exact visible

/-- The rules that nothing checks when an entity is made and a request accepted: on the id column, on the columns of
fields that can only be sorted on, and on sorting by a field in a junction table. -/
structure Request.KeepsUnchecked (entity : Entity) (request : Request) : Prop where
  idColumn : ∀ criterion ∈ request.filters, criterion.IdColumnVisible entity
  columns : ∀ key ∈ request.sorts, key.ColumnVisible entity
  own : ∀ key ∈ request.sorts, key.IsOwn entity

/-- The conditions, the order and the grouping of a request name usable columns: none of them is blank, the root id
aside, and no sort key is on a field in a junction table. -/
structure Request.Usable (entity : Entity) (request : Request) (rootId : String) (parts : List Condition)
    (sorted ordered : List OrderTerm) (columns : List String) : Prop where
  subjects : ∀ part ∈ parts, ∀ subject ∈ part.subjects, Text.blank subject = false
  sorted : ∀ term ∈ sorted, Text.blank term.column = false
  ordered : ∀ term ∈ ordered, term.column = rootId ∨ Text.blank term.column = false
  grouped : ∀ column ∈ columns, column = rootId ∨ Text.blank column = false
  own : ∀ key ∈ request.sorts, key.IsOwn entity

namespace Request

variable {entity : Entity} {view : JoinedView} {request accepted : Request} {plan : JoinPlan} {query : Query}
  {conditions : String} {parts : List Condition} {sorted ordered : List OrderTerm} {columns : List String}

theorem usable_iff_keepsUnchecked (fits : request.Accepted entity)
    (agrees : plan.Agrees view entity request conditions sorted ordered columns query)
    (written : List.Forall₂ (Condition.Of entity) request.filters parts) :
    request.Usable entity view.rootId parts sorted ordered columns ↔ request.KeepsUnchecked entity := by
  have subjects := forall_mem_iff_of_forall₂ written fun criterion mem _ of =>
    of.visible_iff (fits.filters criterion mem)
  have terms := forall_mem_iff_of_forall₂ agrees.sorts fun _ _ _ of => OrderTerm.Of.visible_iff of
  constructor
  · intro usable
    exact ⟨subjects.2 usable.subjects, terms.2 usable.sorted, usable.own⟩
  · intro kept
    have visible := terms.1 kept.columns
    have grouped : ∀ column ∈ columns, column = view.rootId ∨ Text.blank column = false := by
      intro column mem
      refine (agrees.grouping.mem column).1 mem |>.imp_right fun listed => ?_
      obtain ⟨term, among, rfl⟩ := List.mem_map.1 listed
      exact visible term among
    exact ⟨subjects.1 kept.idColumn, visible, fun term mem => grouped _ (agrees.grouped term mem), grouped,
      kept.own⟩

/-- **Usable columns.** An accepted request has a query and a plan, and their expressions can be used exactly when
the request keeps the rules that nothing checks. -/
theorem usable_iff (processed : request.process entity = .ok accepted) (view : JoinedView) :
    ∃ query plan parts sorted ordered columns,
      Query.compile entity view.baseSelect accepted = .ok query
        ∧ JoinPlan.make view entity accepted = .ok plan
        ∧ plan.Agrees view entity accepted (" AND ".intercalate (parts.map (·.text))) sorted ordered columns query
        ∧ List.Forall₂ (Condition.Of entity) accepted.filters parts
        ∧ (accepted.Usable entity view.rootId parts sorted ordered columns ↔ accepted.KeepsUnchecked entity) := by
  have fits := (accepted_of_process processed).1
  obtain ⟨query, compiled⟩ := fits.resolved.compile view.baseSelect
  obtain ⟨plan, planned⟩ := fits.resolved.plan view
  have same := JoinPlan.planners_agree view entity accepted
  rw [planned, compiled] at same
  cases same with
  | ok related =>
    obtain ⟨conditions, bindings, sorted, ordered, columns, written, agrees⟩ := related
    obtain ⟨texts, made, rfl⟩ := whereText_eq_ok_iff.1 written
    obtain ⟨parts, of, rfl⟩ := Condition.exists_of_conditions made
    exact ⟨query, plan, parts, sorted, ordered, columns, compiled, planned, agrees, of,
      usable_iff_keepsUnchecked fits agrees of⟩

end Request

namespace Sample

theorem field?_customer :
    orders.field? "customer" = some ⟨"customer", "o.customer::text", .string, true, true, none⟩ := by decide

theorem taggedOrders_keepsUnchecked : taggedOrdersAccepted.KeepsUnchecked orders where
  idColumn criterion _ field _ _ idColumn declared := by
    cases declared
    decide
  columns key mem field found unfiltered := by
    cases List.mem_singleton.1 mem
    cases field?_customer.symm.trans found
    cases unfiltered
  own key mem field found := by
    cases List.mem_singleton.1 mem
    cases field?_customer.symm.trans found
    rfl

/-- Reports, whose rank has no column and cannot be filtered on, with tags that can be sorted on. The id column is
declared, as an empty text. -/
def reportDeclaration : Declaration :=
  ⟨"Report", some "reports", some "",
    [((EntityField.plain "rank" .integer).withColumn "").withFilterable false,
      (EntityField.related "tagIds" .integer ⟨"report_tags", "report_id", "tag_id"⟩).withSortable true]⟩

theorem fault?_reportDeclaration : reportDeclaration.fault? = none := by decide +kernel

def report : Entity where
  identity := reportDeclaration.identity
  table := "reports"
  idColumn := reportDeclaration.idColumn
  fields := reportDeclaration.fields
  wellFormed := Declaration.wellFormed_of_fault? fault?_reportDeclaration

/-- The reports with a tag, by rank and by tag. -/
def rankedReports : Request :=
  { Request.standard with filterText := some "tagIds:eq:1", sortText := some "rank,tagIds" }

def rankedReportsAccepted : Request :=
  { rankedReports with
    filters := [⟨"tagIds", .eq, .single "1", rfl⟩]
    sorts := [⟨"rank", .asc⟩, ⟨"tagIds", .asc⟩] }

end Sample

open Sample in
/-- The tagged orders of a customer, and their query and plan, name usable columns. -/
theorem Request.usable_iff_taggedOrders :
    taggedOrders.process orders = .ok taggedOrdersAccepted
      ∧ ∃ query plan parts sorted ordered columns,
        Query.compile orders "SELECT o.id FROM orders o" taggedOrdersAccepted = .ok query
          ∧ JoinPlan.make ⟨"o.id", "orders o", "o.id"⟩ orders taggedOrdersAccepted = .ok plan
          ∧ plan.Agrees ⟨"o.id", "orders o", "o.id"⟩ orders taggedOrdersAccepted
            (" AND ".intercalate (parts.map Condition.text)) sorted ordered columns query
          ∧ taggedOrdersAccepted.Usable orders "o.id" parts sorted ordered columns := by
  have processed : taggedOrders.process orders = .ok taggedOrdersAccepted := by decide +kernel
  obtain ⟨query, plan, parts, sorted, ordered, columns, compiled, planned, agrees, -, usable⟩ :=
    usable_iff processed ⟨"o.id", "orders o", "o.id"⟩
  exact ⟨processed, query, plan, parts, sorted, ordered, columns, compiled, planned, agrees,
    usable.2 taggedOrders_keepsUnchecked⟩

open Sample in
/-- A report is made and a request for it accepted. Its query has nothing before `IN` and nothing to order by first,
and then orders by a field in a junction table. -/
theorem Request.accepted_without_columns :
    reportDeclaration.build = .ok report
      ∧ rankedReports.process report = .ok rankedReportsAccepted
      ∧ (Query.compile report "SELECT * FROM reports r" rankedReportsAccepted).map (·.sql) =
        .ok ("SELECT * FROM reports r WHERE  IN (SELECT \"report_tags\".\"report_id\" FROM \"report_tags\" WHERE "
          ++ "\"report_tags\".\"tag_id\" = :p1) ORDER BY  ASC, tag_ids ASC LIMIT :limit OFFSET :offset")
      ∧ (∀ parts, List.Forall₂ (Condition.Of report) rankedReportsAccepted.filters parts →
        ¬ ∀ part ∈ parts, ∀ subject ∈ part.subjects, Text.blank subject = false)
      ∧ (∀ sorted, List.Forall₂ (OrderTerm.Of report) rankedReportsAccepted.sorts sorted →
        ¬ ∀ term ∈ sorted, Text.blank term.column = false)
      ∧ ¬ ∀ key ∈ rankedReportsAccepted.sorts, key.IsOwn report := by
  have processed : rankedReports.process report = .ok rankedReportsAccepted := by decide +kernel
  have fits := (accepted_of_process processed).1
  refine ⟨by decide +kernel, processed, by decide +kernel, ?_, ?_, ?_⟩
  · intro parts of visible
    have idColumns := (forall_mem_iff_of_forall₂ of fun criterion mem _ of =>
      of.visible_iff (fits.filters criterion mem)).2 visible
    have named := idColumns _ List.mem_cons_self _ rfl rfl "" rfl
    cases named
  · intro sorted of visible
    have columns := (forall_mem_iff_of_forall₂ of fun _ _ _ of => OrderTerm.Of.visible_iff of).2 visible
    have named := columns _ List.mem_cons_self _ rfl rfl
    cases named
  · intro own
    have plain := own _ (List.mem_cons_of_mem _ List.mem_cons_self) _ rfl
    cases plain

end QueryFilter
