/-
The rules that criteria and sort keys have to keep against an entity.

Every criterion and every sort key is checked and every broken rule is reported; nothing stops at the first
one, so the violations of several criteria are those of each alone, in order.
-/
import QueryFilter.Filter.Criterion
import QueryFilter.Schema.Entity
import QueryFilter.Sort.Key
import QueryFilter.Sql.Coerce

namespace QueryFilter

inductive Violation where
  | unknownFilterField (name : String) (valid : List String)
  | notFilterable (name : String)
  | relationOperator (operator : Operator) (name : String)
  | patternOnType (operator : Operator) (name : String) (type : FieldType)
  | comparisonOnType (operator : Operator) (name : String) (type : FieldType)
  | listOfBooleans (operator : Operator) (name : String)
  | notNumeric (name raw : String)
  | notTemporal (name raw : String)
  | unknownSortField (name : String) (valid : List String)
  | notSortable (name : String)
  deriving DecidableEq, Repr

namespace Violation

/-- Names in square brackets. -/
def renderNames (names : List String) : String :=
  "[" ++ ", ".intercalate names ++ "]"

def message : Violation → String
  | unknownFilterField name valid =>
    "Unknown filter field '" ++ name ++ "'. Valid: " ++ renderNames valid
  | notFilterable name => "Field '" ++ name ++ "' is not filterable"
  | relationOperator op name =>
    "Operator '" ++ op.code ++ "' is not supported on relation field '" ++ name ++ "'"
  | patternOnType op name type =>
    "Operator '" ++ op.code ++ "' only works with string fields, but '" ++ name ++ "' is " ++ type.name
  | comparisonOnType op name type =>
    "Operator '" ++ op.code ++ "' is not supported for " ++ type.name ++ " field '" ++ name ++ "'"
  | listOfBooleans op name =>
    "Operator '" ++ op.code ++ "' is not supported for boolean field '" ++ name ++ "'"
  | notNumeric name raw => "Field '" ++ name ++ "' expects numeric value, got '" ++ raw ++ "'"
  | notTemporal name raw => "Field '" ++ name ++ "' expects date value, got '" ++ raw ++ "'"
  | unknownSortField name valid => "Unknown sort field '" ++ name ++ "'. Valid: " ++ renderNames valid
  | notSortable name => "Field '" ++ name ++ "' is not sortable"

/-- The heading of the failure that lists violations. -/
def heading : String :=
  "Filter validation failed"

/-- What a raw value breaks at the type of a field's innermost elements. -/
def ofValue? (name : String) (element : FieldType) (raw : String) : Option Violation :=
  match element with
  | .integer | .decimal => if (Value.number? raw).isSome then none else some (notNumeric name raw)
  | .date => if (Date.ofText? raw.toList).isSome then none else some (notTemporal name raw)
  | .timestamp => if (Timestamp.ofText? raw.toList).isSome then none else some (notTemporal name raw)
  | .string | .boolean | .collection _ => none

/-- What an operator breaks on a field that can be filtered on. -/
def ofOperator (operator : Operator) (field : EntityField) : List Violation :=
  (if field.junction.isSome && operator.membership?.isNone then [relationOperator operator field.name]
    else [])
  ++ (if operator.isPattern && !field.type.isString then [patternOnType operator field.name field.type]
    else [])
  ++ (if operator.isComparison && !(field.type.isNumeric || field.type.isTemporal) then
      [comparisonOnType operator field.name field.type]
    else [])
  ++ (if operator.isList && field.type.element.isBoolean then [listOfBooleans operator field.name] else [])

/-- The rules a criterion breaks. -/
def ofCriterion (entity : Entity) (criterion : Criterion) : List Violation :=
  match entity.field? criterion.field with
  | none => [unknownFilterField criterion.field entity.filterableNames]
  | some field =>
    if !field.filterable then [notFilterable criterion.field]
    else
      ofOperator criterion.operator field
        ++ criterion.operand.values.filterMap (ofValue? criterion.field field.type.element)

/-- The rules a sort key breaks. -/
def ofSortKey (entity : Entity) (key : SortKey) : List Violation :=
  match entity.field? key.field with
  | none => [unknownSortField key.field entity.sortableNames]
  | some field => if !field.sortable then [notSortable key.field] else []

/-- The rules that criteria and sort keys break, in order. -/
def all (entity : Entity) (filters : List Criterion) (sorts : List SortKey) : List Violation :=
  filters.flatMap (ofCriterion entity) ++ sorts.flatMap (ofSortKey entity)

/-- Accepts criteria and sort keys that break no rule. -/
def check (entity : Entity) (filters : List Criterion) (sorts : List SortKey) : Except Failure Unit :=
  let violations := all entity filters sorts
  if violations.isEmpty then .ok () else .error (.rejected heading (violations.map message))

end Violation

end QueryFilter
