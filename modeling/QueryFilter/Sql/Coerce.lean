/-
Raw values at a field's type.

A raw value is read at the type of the field's innermost elements, without the white space around it. One
that does not read that way stays as it is, as text. A whole number too large or not written as one is
bound as a binary64 number.
-/
import QueryFilter.Number.Whole
import QueryFilter.Schema.FieldType
import QueryFilter.Sql.Value
import QueryFilter.Text.Letter

namespace QueryFilter

/-- The truth value a text writes, whatever its case. -/
def readBoolean? (text : List Char) : Option Bool :=
  let folded := String.ofList (text.flatMap Text.lower)
  if ["true", "1", "yes"].contains folded then some true
  else if ["false", "0", "no"].contains folded then some false
  else none

namespace Value

/-- The finite number a raw value writes, with white space around it or none. -/
def number? (raw : String) : Option Binary64 :=
  Binary64.ofText? (Text.trim raw.toList)

/-- The value a raw value writes at a type, if it writes one. -/
def read? (type : FieldType) (raw : String) : Option Value :=
  let text := Text.trim raw.toList
  match type.element with
  | .integer => ((Whole.ofText? text).map integer).or ((Binary64.ofText? text).map float)
  | .decimal => (Decimal.ofText? text).map decimal
  | .boolean => (readBoolean? text).map boolean
  | .date => (Date.ofText? text).map date
  | .timestamp => (Timestamp.ofText? text).map timestamp
  | .string | .collection _ => none

/-- The value bound for a raw value at a type. -/
def coerce (type : FieldType) (raw : String) : Value :=
  (read? type raw).getD (text raw)

/-- The list bound for raw values at a type. -/
def coerceList (type : FieldType) (raws : List String) : Value :=
  list (raws.map (coerce type))

end Value

end QueryFilter
