/-
Queries for the roots of a view.

A query is data: the conditions on the rows of a view with the values bound in them, the columns the rows are
grouped by, the terms they are ordered by, and a window. It has three statements (`RootQuery.countStatement`,
`RootQuery.rootIdsStatement`, `RootQuery.rowsStatement`), in which its conditions stand after WHERE with their values
under p1, p2 and so on, its columns after GROUP BY and its terms after ORDER BY.

A processed request asks one query of a view (`Request.rootQuery`), and what its plan sends is the SQL of that query
(`JoinPlan.make_writes`).
-/
import QueryFilter.Joined.Plan
import QueryFilter.Proofs.Sql.Counted
import QueryFilter.Proofs.Sql.FreshNames
import QueryFilter.Proofs.Sql.Slots

namespace QueryFilter

/-- A column expression and the direction its values are listed in. -/
structure OrderTerm where
  column : String
  direction : Direction
  deriving DecidableEq, Repr

def OrderTerm.sql (term : OrderTerm) : String :=
  term.column ++ " " ++ term.direction.sql

/-- A query for the roots of a view. -/
structure RootQuery where
  conditions : List Clause
  groupBy : List String
  orderBy : List OrderTerm
  limit : Int
  offset : Int
  deriving Repr

namespace RootQuery

/-- The conditions as they stand in a statement, nothing when there are none. -/
def filterText (query : RootQuery) : String :=
  if query.conditions = [] then "" else " WHERE " ++ " AND ".intercalate (Clause.textsFrom 1 query.conditions)

/-- The values of the conditions under their names. -/
def entries (query : RootQuery) : List (String × Value) :=
  Bindings.entriesFrom 1 (query.conditions.filterMap Clause.value?)

/-- The statement for the number of roots. -/
def countStatement (query : RootQuery) (view : JoinedView) : Statement :=
  ⟨"SELECT COUNT(DISTINCT " ++ view.rootId ++ ") FROM " ++ view.source ++ query.filterText, ⟨query.entries⟩⟩

/-- The statement for the root ids in the window. -/
def rootIdsStatement (query : RootQuery) (view : JoinedView) : Statement :=
  ⟨"SELECT " ++ view.rootId ++ " FROM " ++ view.source ++ query.filterText ++ " GROUP BY "
      ++ ", ".intercalate query.groupBy ++ " ORDER BY " ++ ", ".intercalate (query.orderBy.map OrderTerm.sql)
      ++ " LIMIT :limit OFFSET :offset",
    ⟨query.entries ++ [("limit", .integer query.limit), ("offset", .integer query.offset)]⟩⟩

/-- The statement for the rows of some roots. -/
def rowsStatement (query : RootQuery) (view : JoinedView) (ids : List Value) : Statement :=
  ⟨view.baseSelect ++ " WHERE " ++ view.rootId ++ " IN (:ids) ORDER BY "
      ++ ", ".intercalate (query.orderBy.map OrderTerm.sql),
    ⟨[("ids", .list ids)]⟩⟩

end RootQuery

/-- The columns of a lookup by an entity over a view: the root id, and the columns of the entity's fields. -/
def JoinedView.HasColumn (view : JoinedView) (entity : Entity) (column : String) : Prop :=
  column = view.rootId ∨ ∃ name, entity.column? name = some column

/-- A query over the columns of a lookup, with conditions that criteria can put on the entity. -/
structure RootQuery.Over (query : RootQuery) (view : JoinedView) (entity : Entity) : Prop where
  conditions : ∀ clause ∈ query.conditions, ∃ criterion, Clause.ofCriterion entity criterion = .ok clause
  groupBy : ∀ column ∈ query.groupBy, view.HasColumn entity column
  orderBy : ∀ term ∈ query.orderBy, view.HasColumn entity term.column

/-- A plan whose statements are those of a query. -/
structure JoinPlan.Writes (plan : JoinPlan) (view : JoinedView) (query : RootQuery) : Prop where
  count : plan.count = query.countStatement view
  rootIds : plan.rootIds = query.rootIdsStatement view
  rows : ∀ ids, plan.rows ids = query.rowsStatement view ids

/-! ## The query of a request -/

namespace Request

variable (request : Request) (entity : Entity)

/-- The conditions of the criteria of a request. -/
def clauses : List Clause :=
  request.filters.filterMap fun criterion => (Clause.ofCriterion entity criterion).toOption

/-- The terms of the sort keys of a request. -/
def sortTerms : List OrderTerm :=
  request.sorts.filterMap fun key => (entity.column? key.field).map (⟨·, key.direction⟩)

end Request

namespace JoinedView

variable (view : JoinedView) (entity : Entity) (request : Request)

/-- What the rows of a view are ordered by: the sort keys, and then the root id unless it is among them. -/
def orderTerms : List OrderTerm :=
  let sorted := request.sortTerms entity
  if view.rootId ∈ sorted.map (·.column) then sorted else sorted ++ [⟨view.rootId, .asc⟩]

/-- What the rows of a view are grouped by: the root id and the columns of the sort keys. -/
def groupColumns : List String :=
  firstOccurrences (view.rootId :: (request.sortTerms entity).map (·.column))

variable {view entity request}

theorem mem_groupColumns {column : String} :
    column ∈ view.groupColumns entity request ↔
      column ∈ (view.orderTerms entity request).map (·.column) := by
  unfold groupColumns orderTerms
  rw [mem_firstOccurrences]
  simp only
  split
  · rename_i sorted
    constructor
    · intro mem
      rcases List.mem_cons.1 mem with rfl | later
      · exact sorted
      · exact later
    · exact List.mem_cons_of_mem _
  · simp [or_comm]

theorem hasColumn_of_mem_groupColumns {column : String} (mem : column ∈ view.groupColumns entity request) :
    view.HasColumn entity column := by
  rcases List.mem_cons.1 (mem_firstOccurrences.1 mem) with rfl | sorted
  · exact .inl rfl
  · obtain ⟨term, listed, rfl⟩ := List.mem_map.1 sorted
    obtain ⟨key, -, made⟩ := List.mem_filterMap.1 listed
    obtain ⟨column, found, rfl⟩ := Option.map_eq_some_iff.1 made
    exact .inr ⟨key.field, found⟩

end JoinedView

/-- The query a request asks of a view. -/
def Request.rootQuery (request : Request) (view : JoinedView) (entity : Entity) : RootQuery where
  conditions := request.clauses entity
  groupBy := view.groupColumns entity request
  orderBy := view.orderTerms entity request
  limit := request.limit
  offset := request.offset

theorem Request.rootQuery_over (request : Request) (view : JoinedView) (entity : Entity) :
    (request.rootQuery view entity).Over view entity where
  conditions clause mem := by
    obtain ⟨criterion, -, made⟩ := List.mem_filterMap.1 mem
    refine ⟨criterion, ?_⟩
    cases resolved : Clause.ofCriterion entity criterion with
    | error fault =>
      rw [resolved] at made
      cases made
    | ok other =>
      rw [resolved] at made
      cases made
      rfl
  groupBy _ mem := JoinedView.hasColumn_of_mem_groupColumns mem
  orderBy _ mem := JoinedView.hasColumn_of_mem_groupColumns (JoinedView.mem_groupColumns.2 (List.mem_map_of_mem mem))

/-- Once they are resolved one by one, the criteria of a request have these conditions. -/
theorem Request.clauses_eq {request : Request} {entity : Entity} {clauses : List Clause}
    (resolved : List.Forall₂ (fun criterion clause => Clause.ofCriterion entity criterion = .ok clause)
      request.filters clauses) : request.clauses entity = clauses := by
  unfold Request.clauses
  generalize request.filters = criteria at resolved
  induction resolved with
  | nil => rfl
  | cons here _ ih => rw [List.filterMap_cons_some (by rw [here]; rfl), ih]

/-- Conditions bind what their criteria do. -/
theorem Clause.filterMap_value? {entity : Entity} {criteria : List Criterion} {clauses : List Clause}
    (resolved : List.Forall₂ (fun criterion clause => ofCriterion entity criterion = .ok clause) criteria clauses) :
    clauses.filterMap value? = criteria.filterMap (·.boundIn? entity) := by
  induction resolved with
  | nil => rfl
  | cons here _ ih => rw [List.filterMap_cons, List.filterMap_cons, value?_ofCriterion here, ih]

/-! ## The statements of a plan -/

namespace JoinPlan

/-- What is made of sort keys, one by one, is made of the fields they name. -/
theorem mapM_sortField {τ : Type} {entity : Entity} (make : SortKey → EntityField → τ) {keys : List SortKey}
    {made : List τ} (h : (keys.mapM fun key => (sortField entity key).map (make key)) = .ok made) :
    made = keys.filterMap fun key => (entity.field? key.field).map (make key) := by
  induction keys generalizing made with
  | nil =>
    cases h
    rfl
  | cons key keys ih =>
    rw [List.mapM_cons, sortField] at h
    cases found : entity.field? key.field with
    | none =>
      rw [found] at h
      cases h
    | some field =>
      rw [found] at h
      cases rest : keys.mapM fun key => (sortField entity key).map (make key) with
      | error failure =>
        rw [rest] at h
        cases h
      | ok others =>
        rw [rest] at h
        cases h
        rw [List.filterMap_cons_some (by rw [found]; rfl), ih rest]

section

variable {view : JoinedView} {entity : Entity} {request : Request} {plan : JoinPlan} {conditions order : String}
  {bindings : Bindings} {columns : List String}

theorem sortColumns_eq (h : sortColumns entity request.sorts = .ok columns) :
    columns = (request.sortTerms entity).map (·.column) := by
  rw [mapM_sortField (fun _ field => field.column) h, Request.sortTerms, List.map_filterMap]
  simp only [Entity.column?, Option.map_map, Function.comp_def]

theorem orderText_eq (h : orderText entity request.sorts = .ok order) :
    order = ", ".intercalate ((request.sortTerms entity).map OrderTerm.sql) := by
  unfold orderText at h
  cases made : request.sorts.mapM fun key => (sortField entity key).map fun field =>
      field.column ++ " " ++ key.direction.sql with
  | error failure =>
    rw [made] at h
    cases h
  | ok texts =>
    rw [made] at h
    cases h
    rw [mapM_sortField (fun key field => field.column ++ " " ++ key.direction.sql) made, Request.sortTerms,
      List.map_filterMap]
    simp only [Entity.column?, Option.map_map, Function.comp_def]
    rfl

theorem intercalate_sql_ne {terms : List OrderTerm} (nonempty : terms ≠ []) :
    ", ".intercalate (terms.map OrderTerm.sql) ≠ "" := by
  cases terms with
  | nil => exact absurd rfl nonempty
  | cons term terms =>
    rw [List.map_cons, Positional.intercalate_cons_eq_join, OrderTerm.sql]
    simp [String.append_eq_empty_iff]

theorem orderWithRoot_eq (view : JoinedView) (entity : Entity) (request : Request) :
    orderWithRoot view.rootId (", ".intercalate ((request.sortTerms entity).map OrderTerm.sql))
        ((request.sortTerms entity).map (·.column)) =
      ", ".intercalate ((view.orderTerms entity request).map OrderTerm.sql) := by
  unfold orderWithRoot JoinedView.orderTerms
  simp only [List.contains_eq_mem, decide_eq_true_eq]
  split
  · rfl
  · cases terms : request.sortTerms entity with
    | nil => simp [OrderTerm.sql, Direction.sql, String.append_assoc]
    | cons term others =>
      have nonempty : (term :: others).map OrderTerm.sql ≠ [] := by simp
      rw [if_neg (intercalate_sql_ne (by simp)), List.map_append,
        Positional.intercalate_append_join ", " nonempty]
      simp [OrderTerm.sql, Direction.sql, String.append_assoc]

/-- The plan that conditions, columns and an order make. -/
theorem make_of_resolved (written : whereText entity request.filters .empty = (.ok conditions, bindings))
    (resolved : sortColumns entity request.sorts = .ok columns)
    (ordered : orderText entity request.sorts = .ok order) :
    make view entity request = .ok {
      count :=
        ⟨"SELECT COUNT(DISTINCT " ++ view.rootId ++ ") FROM " ++ view.source ++ request.whereClause conditions,
          bindings.parameters⟩
      rootIds :=
        ⟨"SELECT " ++ view.rootId ++ " FROM " ++ view.source ++ request.whereClause conditions ++ " GROUP BY "
            ++ ", ".intercalate (view.groupColumns entity request) ++ " ORDER BY "
            ++ ", ".intercalate ((view.orderTerms entity request).map OrderTerm.sql) ++ paginationText,
          bindings.parameters.withWindow request.limit request.offset⟩
      view := view
      groupBy := view.groupColumns entity request
      orderBy := ", ".intercalate ((view.orderTerms entity request).map OrderTerm.sql) } := by
  have grouped : firstOccurrences (view.rootId :: columns) = view.groupColumns entity request := by
    rw [sortColumns_eq resolved]
    rfl
  rw [← orderWithRoot_eq, ← sortColumns_eq resolved, ← orderText_eq ordered, ← grouped,
    ← Request.whereClause_eq written]
  unfold make
  rw [written]
  simp only [resolved, ordered]
  rfl

/-- There is a plan only when the conditions, the columns and the order of the request can be made. -/
theorem resolved_of_make (planned : make view entity request = .ok plan) :
    ∃ conditions bindings columns order, whereText entity request.filters .empty = (.ok conditions, bindings)
      ∧ sortColumns entity request.sorts = .ok columns ∧ orderText entity request.sorts = .ok order := by
  unfold make at planned
  generalize whereText entity request.filters .empty = written at planned ⊢
  obtain ⟨result, bindings⟩ := written
  cases result with
  | error failure => cases planned
  | ok conditions =>
    cases sorted : sortColumns entity request.sorts with
    | error failure =>
      rw [sorted] at planned
      cases planned
    | ok columns =>
      cases ordered : orderText entity request.sorts with
      | error failure =>
        rw [sorted, ordered] at planned
        cases planned
      | ok order => exact ⟨conditions, bindings, columns, order, rfl, rfl, rfl⟩

/-- The conditions of a request stand in its statements as those of its query, and bind what these bind. -/
theorem filterText_rootQuery (view : JoinedView)
    (written : whereText entity request.filters .empty = (.ok conditions, bindings)) :
    request.whereClause conditions = (request.rootQuery view entity).filterText
      ∧ bindings.parameters.entries = (request.rootQuery view entity).entries := by
  have wrote := Bindings.wrote_of_whereText Bindings.fresh_empty written
  obtain ⟨clauses, resolved, rfl⟩ := wrote.text
  have same := Request.clauses_eq resolved
  constructor
  · unfold Request.whereClause RootQuery.filterText
    simp only [Request.rootQuery, same]
    have none : request.filters = [] ↔ clauses = [] := by
      rw [← List.length_eq_zero_iff, resolved.length_eq, List.length_eq_zero_iff]
    simp only [none]
    rfl
  · rw [wrote.entries, RootQuery.entries]
    simp only [Request.rootQuery, same]
    rw [Clause.filterMap_value? resolved]
    rfl

theorem rows_eq (plan : JoinPlan) (ids : List Value) :
    plan.rows ids = ⟨plan.view.baseSelect ++ " WHERE " ++ plan.view.rootId ++ " IN (:ids) ORDER BY " ++ plan.orderBy,
      ⟨[("ids", .list ids)]⟩⟩ := by
  have asks : " IN (:" ++ idsName ++ ") ORDER BY " = " IN (:ids) ORDER BY " := by rfl
  have bound : Parameters.empty.insert idsName (.list ids) = ⟨[("ids", .list ids)]⟩ := rfl
  rw [rows, bound, ← asks]
  simp only [String.append_assoc]

/-- **The plan of a request is the SQL of its query.** -/
theorem make_writes (planned : make view entity request = .ok plan) :
    plan.Writes view (request.rootQuery view entity) := by
  obtain ⟨conditions, bindings, columns, order, written, resolved, ordered⟩ := resolved_of_make planned
  rw [make_of_resolved written resolved ordered, Except.ok.injEq] at planned
  subst planned
  obtain ⟨text, entries⟩ := filterText_rootQuery view written
  have windowless := Parameters.windowless_of_entriesFrom entries
  have windowed := Parameters.entries_withWindow windowless request.limit request.offset
  have counted : bindings.parameters = ⟨(request.rootQuery view entity).entries⟩ := by rw [← entries]
  have listed : bindings.parameters.withWindow request.limit request.offset =
      ⟨(request.rootQuery view entity).entries
        ++ [("limit", .integer request.limit), ("offset", .integer request.offset)]⟩ := by
    rw [← entries]
    exact congrArg Parameters.mk windowed
  refine ⟨?_, ?_, fun ids => rows_eq _ ids⟩
  · rw [text, counted]
    rfl
  · rw [text, listed]
    rfl

end

end JoinPlan

end QueryFilter
