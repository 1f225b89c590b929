/-
Pages of results.

A page has its content, its number and size, the number of rows there are in all, and the criteria and sort
keys it was made with.
-/
import QueryFilter.Paging.Request

namespace QueryFilter

structure Page (α : Type) where
  content : List α
  number : Int
  size : Int
  total : Int
  appliedFilters : List String
  appliedSorts : List String
  deriving Repr

namespace Page

variable {α β : Type}

/-- The page of a request, with its content out of a total. -/
def new (content : List α) (total : Int) (request : Request) : Page α :=
  ⟨content, request.page, request.limit, total, request.appliedFilters, request.appliedSorts⟩

/-- The page of a request without content, out of a total. -/
def empty (total : Int) (request : Request) : Page α :=
  new [] total request

/-- The number of pages there are in all; the last one may be short. -/
def totalPages (page : Page α) : Int :=
  if page.size ≤ 0 then 0 else (page.total + page.size - 1).tdiv page.size

def isFirst (page : Page α) : Bool :=
  page.number = 0

def isLast (page : Page α) : Bool :=
  page.totalPages ≤ page.number + 1

def hasNext (page : Page α) : Bool :=
  page.number + 1 < page.totalPages

def hasPrevious (page : Page α) : Bool :=
  0 < page.number

def count (page : Page α) : Nat :=
  page.content.length

def isEmpty (page : Page α) : Bool :=
  page.content.isEmpty

/-- The page with its content replaced one by one. -/
def map (f : α → β) (page : Page α) : Page β :=
  ⟨page.content.map f, page.number, page.size, page.total, page.appliedFilters, page.appliedSorts⟩

theorem hasNext_eq_not_isLast (page : Page α) : page.hasNext = !page.isLast := by
  unfold hasNext isLast
  rw [← decide_not]
  exact decide_eq_decide.2 (by omega)

end Page

end QueryFilter
