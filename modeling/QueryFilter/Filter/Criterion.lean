/-
A filter criterion: a field, an operator and the values the operator takes.

The shape of the values fits the operator by construction, so no later step has to ask. `render` writes a
criterion as filter text.
-/
import QueryFilter.Filter.Operator

namespace QueryFilter

/-- The values of a criterion. -/
inductive Operand where
  | none
  | single (value : String)
  | list (values : List String)
  deriving DecidableEq, Repr

namespace Operand

def arity : Operand → Arity
  | none => .none
  | single _ => .single
  | list _ => .list

/-- Every value, those of a list one by one. -/
def values : Operand → List String
  | none => []
  | single value => [value]
  | list values => values

end Operand

structure Criterion where
  field : String
  operator : Operator
  operand : Operand
  fits : operand.arity = operator.arity
  deriving DecidableEq, Repr

/-- An operand of another shape than its operator takes. -/
structure ArityMismatch where
  operator : Operator
  given : Arity
  deriving DecidableEq, Repr

def ArityMismatch.message (mismatch : ArityMismatch) : String :=
  "Operator '" ++ mismatch.operator.code ++ "' expects " ++ mismatch.operator.arity.describe
    ++ " but got " ++ mismatch.given.describe

namespace Criterion

/-- The criterion of a field, an operator and values, refused when their shape does not fit. -/
def make (field : String) (operator : Operator) (operand : Operand) : Except ArityMismatch Criterion :=
  if fits : operand.arity = operator.arity then .ok ⟨field, operator, operand, fits⟩
  else .error ⟨operator, operand.arity⟩

/-- The criterion as filter text. -/
def render (criterion : Criterion) : String :=
  match criterion.operand with
  | .none => criterion.field ++ ":" ++ criterion.operator.code
  | .single value => criterion.field ++ ":" ++ criterion.operator.code ++ ":" ++ value
  | .list values =>
    criterion.field ++ ":" ++ criterion.operator.code ++ ":(" ++ ",".intercalate values ++ ")"

theorem make_eq_ok_iff {field : String} {operator : Operator} {operand : Operand} {c : Criterion} :
    make field operator operand = .ok c ↔
      c.field = field ∧ c.operator = operator ∧ c.operand = operand := by
  unfold make
  split
  · rename_i fits
    constructor
    · intro h; cases h; exact ⟨rfl, rfl, rfl⟩
    · rintro ⟨rfl, rfl, rfl⟩; rfl
  · rename_i misfit
    constructor
    · intro h; cases h
    · rintro ⟨rfl, rfl, rfl⟩; exact absurd c.fits misfit

end Criterion

end QueryFilter
