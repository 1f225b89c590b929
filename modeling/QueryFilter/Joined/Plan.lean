/-
Lookups by root over a joined view.

A joined view has one row for each combination of a root, a child and a grandchild. A lookup pages over
roots, in three statements: the number of distinct roots, one page of root ids, and every row of those
roots. Ids are grouped together with the sort columns, and the root id breaks ties unless it is sorted on
already.
-/
import QueryFilter.Sql.Query

namespace QueryFilter

/-- A view: its columns, what it joins, and the expression for the id of a root. -/
structure JoinedView where
  selectList : String
  source : String
  rootId : String
  deriving DecidableEq, Repr

/-- The rows of the view, unfiltered. -/
def JoinedView.baseSelect (view : JoinedView) : String :=
  "SELECT " ++ view.selectList ++ " FROM " ++ view.source

/-- The statements of a lookup. The rows statement still lacks the ids it is about. -/
structure JoinPlan where
  count : Statement
  rootIds : Statement
  view : JoinedView
  groupBy : List String
  orderBy : String
  deriving Repr

/-- The elements of a list without those that occurred before. -/
def firstOccurrences {κ : Type} [DecidableEq κ] : List κ → List κ
  | [] => []
  | key :: keys => key :: (firstOccurrences keys).filter fun other => other ≠ key

theorem mem_firstOccurrences {κ : Type} [DecidableEq κ] {key : κ} {keys : List κ} :
    key ∈ firstOccurrences keys ↔ key ∈ keys := by
  induction keys with
  | nil => simp [firstOccurrences]
  | cons first keys ih =>
    by_cases same : key = first <;> simp [firstOccurrences, ih, same]

theorem nodup_firstOccurrences {κ : Type} [DecidableEq κ] (keys : List κ) :
    (firstOccurrences keys).Nodup := by
  induction keys with
  | nil => simp [firstOccurrences]
  | cons first keys ih =>
    rw [firstOccurrences, List.nodup_cons]
    exact ⟨by simp, ih.filter _⟩

namespace JoinPlan

/-- The name the ids of a page are bound to. -/
def idsName : String := "ids"

/-- An order list with the root id after it, unless the root id is among the columns sorted on. -/
def orderWithRoot (rootId order : String) (columns : List String) : String :=
  if columns.contains rootId then order
  else if order = "" then rootId ++ " ASC"
  else order ++ ", " ++ rootId ++ " ASC"

/-- The plan of a processed request over a view. -/
def make (view : JoinedView) (entity : Entity) (request : Request) : Except Failure JoinPlan := do
  let (result, bindings) := whereText entity request.filters .empty
  let conditions ← result
  let filter := Query.keywordText "WHERE" conditions
  let columns ← sortColumns entity request.sorts
  let order ← orderText entity request.sorts
  let groupBy := firstOccurrences (view.rootId :: columns)
  let orderBy := orderWithRoot view.rootId order columns
  return {
    count :=
      ⟨"SELECT COUNT(DISTINCT " ++ view.rootId ++ ") FROM " ++ view.source ++ filter, bindings.parameters⟩
    rootIds :=
      ⟨"SELECT " ++ view.rootId ++ " FROM " ++ view.source ++ filter ++ " GROUP BY "
          ++ ", ".intercalate groupBy ++ " ORDER BY " ++ orderBy ++ paginationText,
        bindings.parameters.withWindow request.limit request.offset⟩
    view
    groupBy
    orderBy
  }

/-- The statement for every row of some roots, in the order of the plan. -/
def rows (plan : JoinPlan) (ids : List Value) : Statement :=
  ⟨plan.view.baseSelect ++ " WHERE " ++ plan.view.rootId ++ " IN (:" ++ idsName ++ ") ORDER BY "
      ++ plan.orderBy,
    Parameters.empty.insert idsName (.list ids)⟩

end JoinPlan

end QueryFilter
