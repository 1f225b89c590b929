/-
Requests as queries.

A query extends a base `SELECT … FROM …` with the conditions, the order and the window of a request; its
counting form has the conditions alone.
-/
import QueryFilter.Paging.Request
import QueryFilter.Sql.Clause
import QueryFilter.Sql.Count
import QueryFilter.Sql.Statement

namespace QueryFilter

structure Query where
  sql : String
  countSql : String
  parameters : Parameters
  deriving Repr

namespace Query

/-- The query for the rows of a page. -/
def statement (query : Query) : Statement :=
  ⟨query.sql, query.parameters⟩

/-- The query for the number of rows, which has no window. -/
def countStatement (query : Query) : Statement :=
  ⟨query.countSql, query.parameters.without [limitName, offsetName]⟩

/-- A text after a keyword, or nothing when the text is empty. -/
def keywordText (keyword text : String) : String :=
  if text = "" then "" else " " ++ keyword ++ " " ++ text

/-- The query of a processed request over a base query. -/
def compile (entity : Entity) (base : String) (request : Request) : Except Failure Query := do
  let (result, bindings) := whereText entity request.filters .empty
  let conditions ← result
  let filtered := Text.strip base ++ keywordText "WHERE" conditions
  let order ← orderText entity request.sorts
  return {
    sql := filtered ++ keywordText "ORDER BY" order ++ paginationText
    countSql := CountQuery.ofQuery filtered
    parameters := bindings.parameters.withWindow request.limit request.offset
  }

end Query

end QueryFilter
