/-
Criteria and sort keys as SQL clauses.

A criterion is first resolved against the entity, which gives the text of its clause and the value to be
bound in it, or a failure; only then is the value bound, to the next name p1, p2 and so on. A criterion that
cannot be resolved therefore binds nothing, and no value gets into the text.

On a junction field the clause asks whether the id column is, or is not, among the owners of the related
identifiers.
-/
import QueryFilter.Filter.Criterion
import QueryFilter.Schema.Violation
import QueryFilter.Sql.Coerce
import QueryFilter.Sql.Identifier
import QueryFilter.Sql.Parameters

namespace QueryFilter

/-- Why a criterion or a sort key has no clause. -/
inductive ClauseFault where
  | unknownFilterField (name : String)
  | unknownSortField (name : String)
  | relationOperator (operator : Operator) (name : String)
  | noUsableValue (operator : Operator) (name : String)
  | idColumnMissing (entity field : String)
  deriving DecidableEq, Repr

def ClauseFault.failure : ClauseFault → Failure
  | unknownFilterField name => .rejected Violation.heading ["Unknown filter field '" ++ name ++ "'"]
  | unknownSortField name => .rejected Violation.heading ["Unknown sort field '" ++ name ++ "'"]
  | relationOperator op name =>
    .rejected Violation.heading [(Violation.relationOperator op name).message]
  | noUsableValue op name =>
    .rejected Violation.heading
      ["Operator '" ++ op.code ++ "' has no usable value for relation field '" ++ name ++ "'"]
  | idColumnMissing entity field => (EntityFault.idColumnMissing entity field).failure

/-- A condition: text alone, or text around the placeholder of a value. -/
inductive Clause where
  | fixed (text : String)
  | bound (before : String) (value : Value) (after : String)
  deriving Repr

namespace Clause

/-- The condition on a column of the entity's own. -/
def ofColumn (column : String) (type : FieldType) (operator : Operator) : Operand → Clause
  | .none => fixed (column ++ " " ++ operator.sql)
  | .single raw =>
    let value := if operator.isPattern then .text (operator.pattern raw) else Value.coerce type raw
    bound (column ++ " " ++ operator.sql ++ " ") value ""
  | .list raws => bound (column ++ " " ++ operator.sql ++ " (") (Value.coerceList type raws) ")"

/-- The text of a junction condition up to the test of the related identifier. -/
def junctionText (idColumn membership : String) (junction : Junction) : String :=
  let table := Identifier.quote junction.table
  idColumn ++ " " ++ membership ++ " (SELECT " ++ table ++ "." ++ Identifier.quote junction.ownerColumn
    ++ " FROM " ++ table ++ " WHERE " ++ table ++ "." ++ Identifier.quote junction.relatedColumn ++ " "

/-- The condition on the related identifiers of a junction field. -/
def ofJunction (entity : Entity) (field : EntityField) (junction : Junction) (operator : Operator)
    (operand : Operand) : Except ClauseFault Clause :=
  match entity.idColumn with
  | none => .error (.idColumnMissing entity.identity field.name)
  | some idColumn =>
    match operator.membership? with
    | none => .error (.relationOperator operator field.name)
    | some membership =>
      let text := junctionText idColumn membership junction
      match operand with
      | .none => .error (.noUsableValue operator field.name)
      | .single raw => .ok (bound (text ++ "= ") (Value.coerce field.type raw) ")")
      | .list raws => .ok (bound (text ++ "IN (") (Value.coerceList field.type raws) "))")

/-- The condition a criterion puts on an entity. -/
def ofCriterion (entity : Entity) (criterion : Criterion) : Except ClauseFault Clause :=
  match entity.field? criterion.field with
  | none => .error (.unknownFilterField criterion.field)
  | some field =>
    match field.junction with
    | some junction => ofJunction entity field junction criterion.operator criterion.operand
    | none => .ok (ofColumn field.column field.type criterion.operator criterion.operand)

end Clause

/-- The parameters bound so far, and the number of the last name given out. -/
structure Bindings where
  parameters : Parameters
  counter : Nat
  deriving Repr

namespace Bindings

def empty : Bindings := ⟨.empty, 0⟩

/-- The name with a number. -/
def name (n : Nat) : String :=
  "p" ++ Nat.repr n

/-- The text of a clause, with its value bound to the next name. -/
def bind (bindings : Bindings) : Clause → String × Bindings
  | .fixed text => (text, bindings)
  | .bound before value after =>
    let n := bindings.counter + 1
    (before ++ ":" ++ name n ++ after, ⟨bindings.parameters.insert (name n) value, n⟩)

end Bindings

/-- The text of a criterion's condition and the bindings after it, which are those before it when there is
no condition. -/
def condition (entity : Entity) (criterion : Criterion) (bindings : Bindings) :
    Except Failure String × Bindings :=
  match Clause.ofCriterion entity criterion with
  | .error fault => (.error fault.failure, bindings)
  | .ok clause =>
    let (text, bindings) := bindings.bind clause
    (.ok text, bindings)

/-- The texts of the conditions of some criteria, up to the first that has none, and the bindings after
them. -/
def conditions (entity : Entity) : List Criterion → Bindings → Except Failure (List String) × Bindings
  | [], bindings => (.ok [], bindings)
  | criterion :: criteria, bindings =>
    match condition entity criterion bindings with
    | (.error failure, bindings) => (.error failure, bindings)
    | (.ok text, bindings) =>
      match conditions entity criteria bindings with
      | (.error failure, bindings) => (.error failure, bindings)
      | (.ok texts, bindings) => (.ok (text :: texts), bindings)

/-- All conditions in one text, empty when there are none. -/
def whereText (entity : Entity) (criteria : List Criterion) (bindings : Bindings) :
    Except Failure String × Bindings :=
  match conditions entity criteria bindings with
  | (.error failure, bindings) => (.error failure, bindings)
  | (.ok texts, bindings) => (.ok (" AND ".intercalate texts), bindings)

/-- The field a sort key names. -/
def sortField (entity : Entity) (key : SortKey) : Except Failure EntityField :=
  match entity.field? key.field with
  | some field => .ok field
  | none => .error (ClauseFault.unknownSortField key.field).failure

/-- The columns of sort keys, in order. -/
def sortColumns (entity : Entity) (keys : List SortKey) : Except Failure (List String) :=
  keys.mapM fun key => (sortField entity key).map (·.column)

/-- The sort keys as a list for ORDER BY, empty when there are none. -/
def orderText (entity : Entity) (keys : List SortKey) : Except Failure String :=
  (keys.mapM fun key =>
    (sortField entity key).map fun field => field.column ++ " " ++ key.direction.sql).map
    (", ".intercalate ·)

/-- The name the number of rows to return is bound to. -/
def limitName : String := "limit"

/-- The name the number of rows to skip is bound to. -/
def offsetName : String := "offset"

/-- The clause that cuts a page out of a result. -/
def paginationText : String :=
  " LIMIT :" ++ limitName ++ " OFFSET :" ++ offsetName

/-- The parameters with a window bound. -/
def Parameters.withWindow (parameters : Parameters) (limit offset : Int) : Parameters :=
  (parameters.insert limitName (.integer limit)).insert offsetName (.integer offset)

end QueryFilter
