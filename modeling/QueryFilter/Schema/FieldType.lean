/-
The declared types of fields.

A collection has elements of a type, which may be a collection again; values are always checked and
converted at the type of the innermost elements.
-/

namespace QueryFilter

inductive FieldType where
  | string
  | integer
  | decimal
  | date
  | timestamp
  | boolean
  | collection (element : FieldType)
  deriving DecidableEq, Repr

namespace FieldType

/-- The name used in messages, the same for every collection. -/
def name : FieldType → String
  | string => "string"
  | integer => "integer"
  | decimal => "decimal"
  | date => "date"
  | timestamp => "timestamp"
  | boolean => "boolean"
  | collection _ => "collection"

/-- The type of the innermost elements. -/
def element : FieldType → FieldType
  | collection inner => inner.element
  | scalar => scalar

def isNumeric : FieldType → Bool
  | integer | decimal => true
  | _ => false

def isString : FieldType → Bool
  | string => true
  | _ => false

def isTemporal : FieldType → Bool
  | date | timestamp => true
  | _ => false

def isBoolean : FieldType → Bool
  | boolean => true
  | _ => false

def isCollection : FieldType → Bool
  | collection _ => true
  | _ => false

/-- The innermost elements are never collections. -/
theorem isCollection_element (type : FieldType) : type.element.isCollection = false := by
  induction type <;> simp_all [element, isCollection]

end FieldType

end QueryFilter
