/-
Structured values that requests, settings and types are read from and written to.

A number that is written as a whole number is kept apart from every other number, however whole that is;
members of an object keep their order.
-/
import QueryFilter.Number.Binary64

namespace QueryFilter

inductive Json where
  | null
  | boolean (b : Bool)
  | integer (n : Int)
  | number (x : Binary64)
  | string (s : String)
  | array (items : List Json)
  | object (members : List (String × Json))
  deriving Inhabited, Repr

namespace Json

/-- The member of an object with a name. -/
def member? (name : String) (members : List (String × Json)) : Option Json :=
  (members.find? fun member => member.1 == name).map (·.2)

def string? : Json → Option String
  | string s => some s
  | _ => none

end Json

end QueryFilter
