/-
The service: a catalog, page limits, and the way of a request through them.

A request is made within the limits, then its texts are read and checked against an entity together, so
that one failure lists every bad segment and every broken rule; then it is compiled to a query or looked up
in a joined view.
-/
import QueryFilter.Joined.Lookup
import QueryFilter.Schema.Catalog

namespace QueryFilter

/-- The request with the criteria and sort keys of its texts, refused with every problem of either: the bad
segments of the filter text, then those of the sort text, then the rules broken by what could be read. -/
def Request.process (request : Request) (entity : Entity) : Except Failure Request :=
  let (filters, badFilters) := FilterText.collect (request.filterText.getD "")
  let (sorts, badSorts) := SortText.collect (request.sortText.getD "")
  let violations := Violation.all entity filters sorts
  let details := badFilters.map FilterText.BadSegment.message ++ badSorts.map SortText.BadSegment.message
    ++ violations.map Violation.message
  if !violations.isEmpty then .error (.rejected Violation.heading details)
  else if !badFilters.isEmpty then .error (.malformed FilterText.malformedHeading details)
  else if !badSorts.isEmpty then .error (.malformed SortText.malformedHeading details)
  else .ok (request.withCriteria filters sorts)

structure Service where
  catalog : Catalog
  limits : PageLimits

namespace Service

/-- A raw request with its window within the limits. -/
def request (service : Service) (limit offset : Option Int) (filter sort : Option String) : Request :=
  let plain := Request.new service.limits limit offset
  let filtered := filter.elim plain plain.withFilterText
  sort.elim filtered filtered.withSortText

/-- The request processed against a registered entity. -/
def process (service : Service) (identity : String) (request : Request) : Except Failure Request := do
  let entity ← service.catalog.describe identity
  request.process entity

/-- The request processed against a type that declares its own entity, and the service after it. -/
def processDeclared {m : Type → Type} [Monad m] (service : Service) (identity : String)
    (declare : m (Except Failure Entity)) (request : Request) : m (Except Failure Request × Service) := do
  let (described, catalog) ← service.catalog.describeDeclared identity declare
  return (described.bind request.process, { service with catalog := catalog })

/-- The query of a processed request on a registered entity. -/
def compile (service : Service) (identity base : String) (request : Request) : Except Failure Query := do
  let entity ← service.catalog.describe identity
  Query.compile entity base request

/-- The page of roots a processed request asks for, the root a registered entity. -/
def findPage {m : Type → Type} [Monad m] {ρ κ α β γ : Type} [DecidableEq κ] (service : Service)
    (roots : RootView ρ κ α β γ) (source : RowSource m ρ κ) (identity : String) (request : Request) :
    ExceptT Failure m (Page α) := do
  let entity ← ExceptT.mk (pure (service.catalog.describe identity))
  roots.findPage source entity request

end Service

end QueryFilter
