/-
Reading requests, settings and types from structured values.

Nothing is converted: a whole number is read from a whole number alone, text from text alone. A member left
out takes its default where it has one, and `null` is no value except where a member is optional. Members
that are not known are passed over. Most records may also be written as an array of their members in order.
-/
import QueryFilter.Json.Value
import QueryFilter.Number.Whole
import QueryFilter.Paging.Request
import QueryFilter.Schema.FieldType

namespace QueryFilter

namespace Json

/-- A whole number of 64 bits. -/
def integer? : Json → Option Int
  | integer n => Whole.inRange? n
  | _ => none

/-- A text that may be `null`. -/
def optionalString? : Json → Option (Option String)
  | null => some none
  | string s => some (some s)
  | _ => none

/-- A name that stands alone or is the only member of an object, with the value `null`. -/
def name? : Json → Option String
  | string s => some s
  | object [(s, null)] => some s
  | _ => none

/-- A member read by `read`, or its default when it is left out. -/
def memberOr? {α : Type} (name : String) (default : α) (read : Json → Option α)
    (members : List (String × Json)) : Option α :=
  match member? name members with
  | some value => read value
  | none => some default

/-- All items read by `read`. -/
def all? {α : Type} (read : Json → Option α) (items : List Json) : Option (List α) :=
  items.mapM read

end Json

open Json

/-- An operator is read from its code, letter for letter. -/
def Operator.ofJson? (json : Json) : Option Operator :=
  json.name?.bind fun name => Operator.all.find? fun op => op.code == name

/-- A direction is read from its code, letter for letter. -/
def Direction.ofJson? (json : Json) : Option Direction :=
  json.name?.bind fun name => [Direction.asc, Direction.desc].find? fun direction => direction.code == name

/-- An operand is `null`, a text or a list of texts. -/
def Operand.ofJson? : Json → Option Operand
  | .null => some .none
  | .string s => some (.single s)
  | .array items => (all? Json.string? items).map .list
  | _ => Option.none

/-- A sort key; a direction left out is ascending. -/
def SortKey.ofJson? : Json → Option SortKey
  | .object members => do
    let field ← (← member? "field" members).string?
    let direction ← memberOr? "direction" .asc Direction.ofJson? members
    return ⟨field, direction⟩
  | .array [field] => return ⟨← field.string?, .asc⟩
  | .array [field, direction] => return ⟨← field.string?, ← Direction.ofJson? direction⟩
  | _ => none

/-- Page limits, taken as they are; those left out are the standard ones. -/
def PageLimits.ofJson? : Json → Option PageLimits
  | .object members => do
    let default ← memberOr? "default_limit" PageLimits.standard.default integer? members
    let maximum ← memberOr? "max_limit" PageLimits.standard.maximum integer? members
    return ⟨default, maximum⟩
  | .array [] => some PageLimits.standard
  | .array [default] => return ⟨← default.integer?, PageLimits.standard.maximum⟩
  | .array [default, maximum] => return ⟨← default.integer?, ← maximum.integer?⟩
  | _ => none

/-- A raw request, its window taken as it is. -/
def Request.ofJson? : Json → Option Request
  | .object members => do
    let limit ← memberOr? "limit" Request.standard.limit integer? members
    let offset ← memberOr? "offset" Request.standard.offset integer? members
    let filter ← memberOr? "filter" none optionalString? members
    let sort ← memberOr? "sort" none optionalString? members
    return { Request.standard with limit, offset, filterText := filter, sortText := sort }
  | .array [limit, offset, filter, sort] => do
    return { Request.standard with
      limit := ← limit.integer?
      offset := ← offset.integer?
      filterText := ← filter.optionalString?
      sortText := ← sort.optionalString? }
  | _ => none

namespace FieldType

/-- The names of all types, in order. -/
def names : List String :=
  ["string", "integer", "decimal", "date", "timestamp", "boolean", "collection"]

/-- The type with a name, for the types that have no elements. -/
def ofName? (name : String) : Option FieldType :=
  [string, integer, decimal, date, timestamp, boolean].find? fun type => type.name == name

/-- The name of a type. Inside a collection it may be given by its number, counted from zero. -/
def nameIn? (nested : Bool) : Json → Option String
  | .string name => some name
  | .integer n => if nested && 0 ≤ n then names[n.toNat]? else none
  | _ => none

mutual

/-- A field type is an object with the name of the type, and for a collection the type of its elements; or
an array of the same. -/
def read? (nested : Bool) : Json → Option FieldType
  | .object members =>
    match (member? "type" members).bind (nameIn? nested) with
    | some name => if name = "collection" then readElement? members else ofName? name
    | none => none
  | .array [name] => (nameIn? nested name).bind ofName?
  | .array [name, element] =>
    if nameIn? nested name = some "collection" then (read? true element).map collection else none
  | _ => none

/-- The collection whose element type is the member called `element`. -/
def readElement? : List (String × Json) → Option FieldType
  | [] => none
  | (name, json) :: members =>
    if name = "element" then (read? true json).map collection else readElement? members

end

/-- The type a value writes. -/
def ofJson? (json : Json) : Option FieldType :=
  read? false json

end FieldType

end QueryFilter
