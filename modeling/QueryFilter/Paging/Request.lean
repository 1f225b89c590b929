/-
Requests for a page of rows.

A request has a window and the filter and sort text it was made with; once processed it also has the
criteria and the sort keys of those texts.
-/
import QueryFilter.Filter.Expression
import QueryFilter.Paging.Limits
import QueryFilter.Sort.Expression

namespace QueryFilter

structure Request where
  limit : Int
  offset : Int
  filterText : Option String
  sortText : Option String
  filters : List Criterion
  sorts : List SortKey
  deriving DecidableEq, Repr

namespace Request

/-- The request used when nothing is given. -/
def standard : Request := ⟨20, 0, none, none, [], []⟩

/-- The request for a window, brought within limits. -/
def new (limits : PageLimits) (limit offset : Option Int) : Request :=
  { standard with limit := limits.clampLimit limit, offset := limits.clampOffset offset }

/-- The request with its window brought within limits. -/
def clamped (request : Request) (limits : PageLimits) : Request :=
  { request with
    limit := limits.clampLimit (some request.limit)
    offset := limits.clampOffset (some request.offset) }

/-- Text that is not blank. -/
def nonBlank? (text : String) : Option String :=
  if Text.blank text then none else some text

/-- The request with filter text; blank text is no filter. -/
def withFilterText (request : Request) (text : String) : Request :=
  { request with filterText := nonBlank? text }

/-- The request with sort text; blank text is no sort. -/
def withSortText (request : Request) (text : String) : Request :=
  { request with sortText := nonBlank? text }

/-- The request with the criteria and sort keys of its texts. -/
def withCriteria (request : Request) (filters : List Criterion) (sorts : List SortKey) : Request :=
  { request with filters := filters, sorts := sorts }

def hasFilters (request : Request) : Bool :=
  !request.filters.isEmpty

def hasSorts (request : Request) : Bool :=
  !request.sorts.isEmpty

/-- The number of the page the window begins on, counted from zero. -/
def page (request : Request) : Int :=
  if 0 < request.limit then request.offset.tdiv request.limit else 0

/-- The criteria as filter text, one by one. -/
def appliedFilters (request : Request) : List String :=
  request.filters.map Criterion.render

/-- The sort keys as sort text, one by one. -/
def appliedSorts (request : Request) : List String :=
  request.sorts.map SortKey.render

end Request

end QueryFilter
