/-
The values that are bound to parameters.
-/
import QueryFilter.Calendar.Timestamp
import QueryFilter.Number.Binary64
import QueryFilter.Number.Decimal

namespace QueryFilter

/-- A bound value; a list is bound as a whole and takes one slot for each element. -/
inductive Value where
  | null
  | text (text : String)
  | integer (n : Int)
  | float (x : Binary64)
  | decimal (d : Decimal)
  | boolean (b : Bool)
  | date (d : Date)
  | timestamp (t : Timestamp)
  | list (items : List Value)
  deriving Repr

end QueryFilter
