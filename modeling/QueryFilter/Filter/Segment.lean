/-
The segments of filter text.

Filter text is a list of segments with commas between them. A comma belongs to a list of values, and does
not separate, exactly when the first parenthesis after it is a closing one; an opening parenthesis that is
never closed therefore holds back no segment after it. A segment reads `field:operator` or
`field:operator:value`, cut at its first two colons.
-/
import QueryFilter.Filter.Criterion
import QueryFilter.Text.Split

namespace QueryFilter

/-- Why a filter segment is no criterion. -/
inductive FilterFault where
  | noOperator
  | noField
  | unknownOperator (code : String)
  | unwantedValue (operator : Operator)
  | missingValue (operator : Operator)
  | notParenthesized (operator : Operator)
  | emptyList
  | emptyElement
  deriving DecidableEq, Repr

def FilterFault.message : FilterFault → String
  | noOperator => "Expected format 'field:operator' or 'field:operator:value'"
  | noField => "Field name cannot be empty"
  | unknownOperator code => "Unknown operator '" ++ code ++ "'"
  | unwantedValue op => "Operator '" ++ op.code ++ "' does not accept a value"
  | missingValue op => "Operator '" ++ op.code ++ "' requires a value"
  | notParenthesized op => "Operator '" ++ op.code ++ "' requires a parenthesized list, e.g. (a,b)"
  | emptyList => "List value cannot be empty"
  | emptyElement => "List value contains an empty element"

namespace FilterSegment

/-- Whether the first parenthesis of the text is a closing one. -/
def closesFirst : List Char → Bool
  | [] => false
  | c :: rest => if c = ')' then true else if c = '(' then false else closesFirst rest

/-- A comma separates segments unless a list is closed after it before one is opened. -/
def separates (c : Char) (rest : List Char) : Bool :=
  c == ',' && !closesFirst rest

/-- The segments of a text, trimmed, the blank ones left out. -/
def ofText (text : List Char) : List (List Char) :=
  ((Text.splitWhere separates text).map Text.trim).filter fun segment => !segment.isEmpty

/-- What stands between a pair of parentheses that opens and closes the text. -/
def parenthesized? : List Char → Option (List Char)
  | '(' :: rest => if rest.getLast? = some ')' then some rest.dropLast else none
  | _ => none

/-- The elements of a parenthesized list, trimmed; there is at least one and none is empty. -/
def readList (operator : Operator) (value : Option (List Char)) : Except FilterFault (List String) :=
  let text := Text.trim (value.getD [])
  if text.isEmpty then .error (.missingValue operator)
  else
    match parenthesized? text with
    | none => .error (.notParenthesized operator)
    | some inner =>
      if Text.isBlank inner then .error .emptyList
      else
        let elements := (Text.splitOn ',' inner).map Text.trim
        if elements.any List.isEmpty then .error .emptyElement
        else .ok (elements.map String.ofList)

/-- The criterion of a known operator on a field, from the text after the second colon if there is one. -/
def readOperand (field : String) (operator : Operator) (value : Option (List Char)) :
    Except FilterFault Criterion :=
  match arity : operator.arity with
  | .none =>
    if value.isSome then .error (.unwantedValue operator) else .ok ⟨field, operator, .none, arity.symm⟩
  | .single =>
    let text := Text.trim (value.getD [])
    if text.isEmpty then .error (.missingValue operator)
    else .ok ⟨field, operator, .single (String.ofList text), arity.symm⟩
  | .list =>
    match readList operator value with
    | .error fault => .error fault
    | .ok values => .ok ⟨field, operator, .list values, arity.symm⟩

/-- The criterion a segment writes. -/
def read (segment : List Char) : Except FilterFault Criterion :=
  let (field, afterField) := Text.cut ':' segment
  match afterField with
  | none => .error .noOperator
  | some text =>
    let (code, value) := Text.cut ':' text
    if Text.isBlank field then .error .noField
    else
      match Operator.ofCode? (String.ofList code) with
      | none => .error (.unknownOperator (String.ofList (Text.trim code)))
      | some operator => readOperand (String.ofList (Text.trim field)) operator value

end FilterSegment

end QueryFilter
