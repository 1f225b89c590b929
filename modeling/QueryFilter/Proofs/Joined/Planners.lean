/-
A plan over a view and a query over its rows.

Both are written from the same request, the conditions first and the sort keys after, so there is a plan exactly
when there is a query, and what keeps one from being made keeps the other (`JoinPlan.planners_agree`). They filter
by the same conditions, bind the same values and order by the same terms; the plan adds the root id behind these
terms unless it is sorted on, and groups by every column it orders by.
-/
import QueryFilter.Proofs.Joined.RootQuery
import QueryFilter.Proofs.Sql.Counted
import QueryFilter.Proofs.Sql.Scan

namespace QueryFilter

/-! ## Sort keys that are resolved twice -/

namespace SameOutcome

variable {ε σ α β : Type}

theorem mapM {f : σ → Except ε α} {g : σ → Except ε β} (each : ∀ item, SameOutcome (fun _ _ => True) (f item) (g item))
    (items : List σ) : SameOutcome (fun _ _ => True) (items.mapM f) (items.mapM g) := by
  induction items with
  | nil => exact .ok trivial
  | cons item items ih =>
    have here := each item
    rw [List.mapM_cons, List.mapM_cons]
    generalize f item = x, g item = y at here ⊢
    generalize items.mapM f = xs, items.mapM g = ys at ih ⊢
    cases here with
    | error failure => exact .error failure
    | ok _ =>
      cases ih with
      | error failure => exact .error failure
      | ok _ => exact .ok trivial

end SameOutcome

/-- The columns and the order of sort keys fail for the same key. -/
theorem sortColumns_sameOutcome (entity : Entity) (keys : List SortKey) :
    SameOutcome (fun _ _ => True) (sortColumns entity keys) (orderText entity keys) := by
  have each : ∀ key : SortKey, SameOutcome (fun _ _ => True) ((sortField entity key).map (·.column))
      ((sortField entity key).map fun field => field.column ++ " " ++ key.direction.sql) := by
    intro key
    cases sortField entity key with
    | error failure => exact .error failure
    | ok field => exact .ok trivial
  have columns := SameOutcome.mapM each keys
  unfold sortColumns orderText
  generalize (keys.mapM fun key => (sortField entity key).map (·.column)) = x,
    (keys.mapM fun key => (sortField entity key).map fun field => field.column ++ " " ++ key.direction.sql) = y
    at columns ⊢
  cases columns with
  | error failure => exact .error failure
  | ok _ => exact .ok trivial

/-- A term lists the column of a sort key's field, in the key's direction. -/
structure OrderTerm.Of (entity : Entity) (key : SortKey) (term : OrderTerm) : Prop where
  column : entity.column? key.field = some term.column
  direction : term.direction = key.direction

/-- Once the order is known, every sort key has its term. -/
theorem Request.sortTerms_of_sortColumns {entity : Entity} {request : Request} {columns : List String}
    (resolved : sortColumns entity request.sorts = .ok columns) :
    List.Forall₂ (OrderTerm.Of entity) request.sorts (request.sortTerms entity) := by
  unfold sortTerms
  generalize request.sorts = keys at resolved
  induction keys generalizing columns with
  | nil => exact .nil
  | cons key keys ih =>
    unfold sortColumns at resolved
    rw [List.mapM_cons, sortField] at resolved
    cases found : entity.field? key.field with
    | none =>
      rw [found] at resolved
      cases resolved
    | some field =>
      rw [found] at resolved
      cases rest : sortColumns entity keys with
      | error failure =>
        unfold sortColumns at rest
        rw [rest] at resolved
        cases resolved
      | ok others =>
        have column : entity.column? key.field = some field.column := by rw [Entity.column?, found]; rfl
        rw [List.filterMap_cons_some (by rw [column]; rfl)]
        exact .cons ⟨column, rfl⟩ (ih rest)

/-- The columns of a grouping: the root id first, the columns of the sort keys after it, and none twice. -/
structure JoinedView.Groups (view : JoinedView) (sorted : List OrderTerm) (columns : List String) : Prop where
  first : columns.head? = some view.rootId
  distinct : columns.Nodup
  mem : ∀ column, column ∈ columns ↔ column = view.rootId ∨ column ∈ sorted.map (·.column)

theorem JoinedView.groups_groupColumns (view : JoinedView) (entity : Entity) (request : Request) :
    view.Groups (request.sortTerms entity) (view.groupColumns entity request) where
  first := rfl
  distinct := nodup_firstOccurrences _
  mem column := by
    unfold groupColumns
    rw [mem_firstOccurrences, List.mem_cons]

/-- The terms of a request as they stand in a query: nothing when there are no sort keys. -/
def OrderTerm.clause (terms : List OrderTerm) : String :=
  if terms = [] then "" else " ORDER BY " ++ ", ".intercalate (terms.map OrderTerm.sql)

theorem OrderTerm.keywordText_eq (terms : List OrderTerm) :
    Query.keywordText "ORDER BY" (", ".intercalate (terms.map OrderTerm.sql)) = OrderTerm.clause terms := by
  unfold Query.keywordText clause
  split
  · rename_i empty
    split
    · rfl
    · rename_i some
      exact absurd empty (JoinPlan.intercalate_sql_ne some)
  · rename_i nonempty
    split
    · rename_i none
      rw [none] at nonempty
      exact absurd rfl nonempty
    · rfl

/-- A plan over a view and a query over the view's rows that do the same: the same conditions, the same
parameters, the same terms of the sort keys. The plan orders by these terms and by the root id, unless it is
among them, and groups by every column it orders by. -/
structure JoinPlan.Agrees (view : JoinedView) (entity : Entity) (request : Request) (conditions : String)
    (sorted ordered : List OrderTerm) (columns : List String) (plan : JoinPlan) (query : Query) : Prop where
  sorts : List.Forall₂ (OrderTerm.Of entity) request.sorts sorted
  ordering : ordered = if view.rootId ∈ sorted.map (·.column) then sorted else sorted ++ [⟨view.rootId, .asc⟩]
  grouping : view.Groups sorted columns
  grouped : ∀ term ∈ ordered, term.column ∈ columns
  querySql : query.sql =
    Text.strip view.baseSelect ++ request.whereClause conditions ++ OrderTerm.clause sorted ++ paginationText
  countSql : plan.count.sql = "SELECT COUNT(DISTINCT " ++ view.rootId ++ ") FROM " ++ view.source
    ++ request.whereClause conditions
  rootIdsSql : plan.rootIds.sql = "SELECT " ++ view.rootId ++ " FROM " ++ view.source
    ++ request.whereClause conditions ++ " GROUP BY " ++ ", ".intercalate columns
    ++ " ORDER BY " ++ ", ".intercalate (ordered.map OrderTerm.sql) ++ paginationText
  countParameters : plan.count.parameters = query.countStatement.parameters
  rootIdsParameters : plan.rootIds.parameters = query.statement.parameters
  rowsSql : ∀ ids, (plan.rows ids).sql = view.baseSelect ++ " WHERE " ++ view.rootId ++ " IN (:" ++ idsName
    ++ ") ORDER BY " ++ ", ".intercalate (ordered.map OrderTerm.sql)
  rowsParameters : ∀ ids, (plan.rows ids).parameters.entries = [(idsName, .list ids)]

namespace JoinPlan

variable {view : JoinedView} {entity : Entity} {request : Request} {conditions : String} {bindings : Bindings}
  {columns : List String} {order : String}

theorem agrees_of_resolved {plan : JoinPlan} {query : Query}
    (written : whereText entity request.filters .empty = (.ok conditions, bindings))
    (resolved : sortColumns entity request.sorts = .ok columns)
    (ordered : orderText entity request.sorts = .ok order)
    (planned : make view entity request = .ok plan)
    (compiled : Query.compile entity view.baseSelect request = .ok query) :
    plan.Agrees view entity request conditions (request.sortTerms entity) (view.orderTerms entity request)
      (view.groupColumns entity request) query := by
  rw [make_of_resolved written resolved ordered, Except.ok.injEq] at planned
  obtain ⟨_, _, _, written', ordered', rfl⟩ := Query.compile_eq_ok_iff.1 compiled
  rw [written] at written'
  cases written'
  rw [ordered] at ordered'
  cases ordered'
  subst planned
  have windowless := Parameters.windowless_of_entriesFrom (entries_whereText written)
  have grouping := view.groups_groupColumns entity request
  refine ⟨Request.sortTerms_of_sortColumns resolved, rfl, grouping, ?_, ?_, rfl, rfl, ?_, rfl, fun _ => rfl,
    fun _ => rfl⟩
  · intro term mem
    exact JoinedView.mem_groupColumns.2 (List.mem_map_of_mem mem)
  · rw [← Request.whereClause_eq written, ← OrderTerm.keywordText_eq, ← orderText_eq ordered]
  · exact (Parameters.without_withWindow windowless request.limit request.offset).symm

/-- **The planners agree.** There is a plan over a view exactly when there is a query over its rows, and what
keeps one from being made keeps the other; the two do the same. -/
theorem planners_agree (view : JoinedView) (entity : Entity) (request : Request) :
    SameOutcome
      (fun plan query => ∃ conditions bindings sorted ordered columns,
        whereText entity request.filters .empty = (.ok conditions, bindings)
          ∧ plan.Agrees view entity request conditions sorted ordered columns query)
      (make view entity request) (Query.compile entity view.baseSelect request) := by
  have sorts := sortColumns_sameOutcome entity request.sorts
  cases written : whereText entity request.filters .empty with
  | mk outcome bindings =>
    cases outcome with
    | error failure =>
      unfold make Query.compile
      rw [written]
      exact .error failure
    | ok conditions =>
      cases resolved : sortColumns entity request.sorts with
      | error failure =>
        rw [resolved] at sorts
        unfold make Query.compile
        rw [written, resolved]
        generalize orderText entity request.sorts = order at sorts ⊢
        cases sorts
        exact .error failure
      | ok columns =>
        cases ordered : orderText entity request.sorts with
        | error failure =>
          rw [resolved, ordered] at sorts
          cases sorts
        | ok order =>
          have planned : ∃ plan, make view entity request = .ok plan :=
            ⟨_, make_of_resolved written resolved ordered⟩
          have compiled : ∃ query, Query.compile entity view.baseSelect request = .ok query :=
            ⟨_, Query.compile_eq_ok_iff.2 ⟨conditions, bindings, order, written, ordered, rfl⟩⟩
          obtain ⟨plan, planned⟩ := planned
          obtain ⟨query, compiled⟩ := compiled
          rw [planned, compiled]
          exact .ok ⟨conditions, bindings, _, _, _, rfl, agrees_of_resolved written resolved ordered planned compiled⟩

end JoinPlan

end QueryFilter
