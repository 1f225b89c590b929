/-
Running a lookup by root on a source of rows.

The statements of the plan are sent in order: the count, the ids, the rows. A count of zero or a page
without ids ends the lookup early with an empty page, and the first statement that fails ends it with its
failure.
-/
import QueryFilter.Joined.Fold
import QueryFilter.Joined.Plan
import QueryFilter.Paging.Page

namespace QueryFilter

/-- What answers the statements of a lookup, in some monad. -/
structure RowSource (m : Type → Type) (ρ κ : Type) where
  count : Statement → ExceptT Failure m Int
  rootIds : Statement → ExceptT Failure m (List κ)
  rows : Statement → ExceptT Failure m (List ρ)

/-- A joined view whose rows are understood: the ids in a row, the value an id is bound as, and the objects
rows are folded into. -/
structure RootView (ρ κ α β γ : Type) where
  view : JoinedView
  ids : RowIds ρ κ
  bindId : κ → Value
  assembler : Assembler ρ α β γ

namespace RootView

variable {m : Type → Type} [Monad m] {ρ κ α β γ : Type} [DecidableEq κ]

/-- The page of roots a processed request asks for. -/
def findPage (roots : RootView ρ κ α β γ) (source : RowSource m ρ κ) (entity : Entity)
    (request : Request) : ExceptT Failure m (Page α) := do
  let plan ← ExceptT.mk (pure (JoinPlan.make roots.view entity request))
  let total ← source.count plan.count
  if total = 0 then
    return Page.empty 0 request
  let ids := firstOccurrences (← source.rootIds plan.rootIds)
  if ids.isEmpty then
    return Page.empty total request
  let rows ← source.rows (plan.rows (ids.map roots.bindId))
  return Page.new (Fold.roots roots.ids roots.assembler rows) total request

end RootView

end QueryFilter
