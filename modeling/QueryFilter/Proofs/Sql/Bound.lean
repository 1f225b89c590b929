/-
The values that criteria bind.

What a raw value is coerced to is never a list, so it takes one slot; the list bound for raw values takes a
slot for each of them, in order, and is a gap only when there are none.
-/
import QueryFilter.Filter.Criterion
import QueryFilter.Proofs.Sql.Slots
import QueryFilter.Sql.Coerce

namespace QueryFilter

/-- The value a criterion binds on a field of a type, if it takes any. -/
def Criterion.bound? (criterion : Criterion) (type : FieldType) : Option Value :=
  match criterion.operand with
  | .none => none
  | .single raw =>
    some (if criterion.operator.isPattern then .text (criterion.operator.pattern raw)
      else Value.coerce type raw)
  | .list raws => some (Value.coerceList type raws)

/-- An operator that asks for membership looks for no pattern. -/
theorem Operator.isPattern_of_membership? {op : Operator} {membership : String}
    (h : op.membership? = some membership) : op.isPattern = false := by
  cases op <;> simp_all [membership?, isPattern]

/-- An operator that asks for membership takes a value. -/
theorem Operator.arity_of_membership? {op : Operator} {membership : String}
    (h : op.membership? = some membership) : op.arity ≠ .none := by
  cases op <;> simp_all [membership?, arity]

namespace Value

theorem entries_read? {type : FieldType} {raw : String} {value : Value} (h : read? type raw = some value) :
    value.entries = [some value] := by
  unfold read? at h
  simp only at h
  split at h
  · rw [Option.or_eq_some_iff] at h
    rcases h with h | ⟨-, h⟩
    · obtain ⟨_, -, rfl⟩ := Option.map_eq_some_iff.1 h; simp [entries]
    · obtain ⟨_, -, rfl⟩ := Option.map_eq_some_iff.1 h; simp [entries]
  · obtain ⟨_, -, rfl⟩ := Option.map_eq_some_iff.1 h; simp [entries]
  · obtain ⟨_, -, rfl⟩ := Option.map_eq_some_iff.1 h; simp [entries]
  · obtain ⟨_, -, rfl⟩ := Option.map_eq_some_iff.1 h; simp [entries]
  · obtain ⟨_, -, rfl⟩ := Option.map_eq_some_iff.1 h; simp [entries]
  · cases h
  · cases h

/-- A coerced value is a scalar. -/
theorem entries_coerce (type : FieldType) (raw : String) :
    (coerce type raw).entries = [some (coerce type raw)] := by
  unfold coerce
  cases h : read? type raw with
  | none => simp [entries]
  | some value => exact entries_read? h

theorem entriesOf_coerce (type : FieldType) (raws : List String) :
    entriesOf (raws.map (coerce type)) = raws.map fun raw => some (coerce type raw) := by
  induction raws with
  | nil => rfl
  | cons raw raws ih => simp [entriesOf, entries_coerce, ih]

theorem entries_coerceList (type : FieldType) (raws : List String) :
    (coerceList type raws).entries =
      if raws = [] then [none] else raws.map fun raw => some (coerce type raw) := by
  cases raws with
  | nil => simp [coerceList, entries]
  | cons raw raws => simp [coerceList, entries, entries_coerce, entriesOf_coerce]

/-- The elements of a coerced list take a slot each. -/
theorem slots_coerceList (type : FieldType) (raws : List String) :
    (coerceList type raws).slots = raws.map (coerce type) := by
  unfold slots
  rw [entries_coerceList]
  split
  · rename_i none
    simp [none]
  · simp [List.filterMap_map]

theorem outline_coerceList (type : FieldType) (raws : List String) :
    (coerceList type raws).outline = if raws = [] then [false] else List.replicate raws.length true := by
  unfold outline
  rw [entries_coerceList]
  split
  · rfl
  · simp [Function.comp_def, List.map_const']

end Value

end QueryFilter
