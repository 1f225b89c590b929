/-
The operators of filter text.

An operator has a code in filter text, a spelling in SQL and a number of values it takes. Main statement:
reading an operator's own code gives the operator back.
-/
import QueryFilter.Text.Letter
import QueryFilter.Text.Space

namespace QueryFilter

/-- How many values an operator takes. -/
inductive Arity where
  | none
  | single
  | list
  deriving DecidableEq, Repr

/-- The words for an arity in messages. -/
def Arity.describe : Arity → String
  | .none => "no value"
  | .single => "a single value"
  | .list => "a list of values"

inductive Operator where
  | eq
  | ne
  | gt
  | gte
  | lt
  | lte
  | startsWith
  | endsWith
  | contains
  | oneOf
  | noneOf
  | isNull
  | isNotNull
  deriving DecidableEq, Repr

namespace Operator

def all : List Operator :=
  [eq, ne, gt, gte, lt, lte, startsWith, endsWith, contains, oneOf, noneOf, isNull, isNotNull]

/-- The code in filter text. -/
def code : Operator → String
  | eq => "eq"
  | ne => "ne"
  | gt => "gt"
  | gte => "gte"
  | lt => "lt"
  | lte => "lte"
  | startsWith => "sw"
  | endsWith => "ew"
  | contains => "contains"
  | oneOf => "in"
  | noneOf => "nin"
  | isNull => "null"
  | isNotNull => "notnull"

/-- The operator in SQL. -/
def sql : Operator → String
  | eq => "="
  | ne => "<>"
  | gt => ">"
  | gte => ">="
  | lt => "<"
  | lte => "<="
  | startsWith | endsWith | contains => "LIKE"
  | oneOf => "IN"
  | noneOf => "NOT IN"
  | isNull => "IS NULL"
  | isNotNull => "IS NOT NULL"

def arity : Operator → Arity
  | isNull | isNotNull => .none
  | oneOf | noneOf => .list
  | _ => .single

/-- Pattern operators look for their value inside the text of a column. -/
def isPattern : Operator → Bool
  | startsWith | endsWith | contains => true
  | _ => false

/-- Comparison operators need an order on the values of a column. -/
def isComparison : Operator → Bool
  | gt | gte | lt | lte => true
  | _ => false

/-- List operators take a list of values. -/
def isList (op : Operator) : Bool :=
  op.arity = .list

/-- Null checks take no value. -/
def isNullCheck (op : Operator) : Bool :=
  op.arity = .none

/-- The SQL operator by which a related identifier is looked for in a junction table, for the operators
that ask for membership. -/
def membership? : Operator → Option String
  | eq | oneOf => some "IN"
  | ne | noneOf => some "NOT IN"
  | _ => none

/-- The value with the wildcards of a pattern operator around it; other operators leave it alone. -/
def pattern (op : Operator) (value : String) : String :=
  match op with
  | startsWith => value ++ "%"
  | endsWith => "%" ++ value
  | contains => "%" ++ value ++ "%"
  | _ => value

/-- The operator with a code, whatever the case of its ASCII letters and the white space around it. -/
def ofCode? (text : String) : Option Operator :=
  let folded := Text.lowerAscii (Text.strip text)
  all.find? fun op => op.code == folded

theorem mem_all (op : Operator) : op ∈ all := by
  cases op <;> decide

theorem code_injective {op op' : Operator} (h : op.code = op'.code) : op = op' := by
  have all_pairs : ∀ op ∈ all, ∀ op' ∈ all, op.code = op'.code → op = op' := by decide
  exact all_pairs _ (mem_all _) _ (mem_all _) h

theorem ofCode?_code (op : Operator) : ofCode? op.code = some op := by
  cases op <;> decide

end Operator

end QueryFilter
