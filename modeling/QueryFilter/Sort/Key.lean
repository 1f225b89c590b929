/-
A sort key: a field and the direction its values are listed in.
-/
import QueryFilter.Text.Letter
import QueryFilter.Text.Space

namespace QueryFilter

inductive Direction where
  | asc
  | desc
  deriving DecidableEq, Repr

namespace Direction

/-- The code in sort text. -/
def code : Direction → String
  | asc => "asc"
  | desc => "desc"

/-- The direction in SQL. -/
def sql : Direction → String
  | asc => "ASC"
  | desc => "DESC"

/-- The direction with a code, whatever the case of its ASCII letters and the white space around it. -/
def ofCode? (text : String) : Option Direction :=
  let folded := Text.lowerAscii (Text.strip text)
  [asc, desc].find? fun direction => direction.code == folded

theorem ofCode?_code (direction : Direction) : ofCode? direction.code = some direction := by
  cases direction <;> decide

end Direction

structure SortKey where
  field : String
  direction : Direction
  deriving DecidableEq, Repr

/-- The key as sort text, its direction always written. -/
def SortKey.render (key : SortKey) : String :=
  key.field ++ ":" ++ key.direction.code

end QueryFilter
