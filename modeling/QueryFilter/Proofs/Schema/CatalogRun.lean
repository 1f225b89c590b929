/-
Catalogs over a run of calls.

Whatever is called, a catalog is afterwards what it was, or has one entity more, at its end and under an identity
it did not have (`after_cases`). So an identity keeps the entity registered under it over every run
(`describe_run`).
-/
import QueryFilter.Schema.Catalog

namespace QueryFilter.Catalog

/-- One use of a catalog. Asking for a type that declares its own entity comes with what its declaration gives
if it is run, which may be a failure or an entity of another identity. -/
inductive Call where
  | register (entity : Entity)
  | describe (identity : String)
  | describeDeclared (identity : String) (declared : Except Failure Entity)
  | contains (identity : String)
  | identities

/-- The catalog after a call, which is the catalog itself when the call only looks something up or fails. -/
def after (catalog : Catalog) : Call → Catalog
  | .register entity => (catalog.register entity).toOption.getD catalog
  | .describeDeclared identity declared => (catalog.describeDeclared (m := Id) identity declared).2
  | .describe _ | .contains _ | .identities => catalog

/-- The catalog after some calls, one after the other. -/
def run (catalog : Catalog) (calls : List Call) : Catalog :=
  calls.foldl after catalog

theorem after_cases (catalog : Catalog) (call : Call) :
    catalog.after call = catalog ∨ ∃ entity, catalog.find? entity.identity = none
      ∧ catalog.after call = ⟨catalog.entities ++ [entity]⟩ := by
  cases call with
  | register entity =>
    rw [after, register]
    split
    · exact .inl rfl
    · rename_i absent
      refine .inr ⟨entity, ?_, rfl⟩
      simpa [contains] using absent
  | describeDeclared identity declared =>
    rw [after, describeDeclared]
    cases found : catalog.find? identity with
    | some entity => exact .inl rfl
    | none =>
      cases declared with
      | error failure => exact .inl rfl
      | ok entity =>
        by_cases same : entity.identity = identity
        · exact .inr ⟨entity, same ▸ found, by simp [same, bind, pure]⟩
        · exact .inl (by simp [same, bind, pure])
  | describe identity => exact .inl rfl
  | contains identity => exact .inl rfl
  | identities => exact .inl rfl

/-- A call leaves what is registered as it is. -/
theorem find?_after {catalog : Catalog} {identity : String} {entity : Entity}
    (registered : catalog.find? identity = some entity) (call : Call) :
    (catalog.after call).find? identity = some entity := by
  obtain same | ⟨other, -, grown⟩ := catalog.after_cases call
  · rw [same, registered]
  · unfold find? at registered ⊢
    rw [grown, List.find?_append, registered, Option.some_or]

theorem find?_run {catalog : Catalog} {identity : String} {entity : Entity}
    (registered : catalog.find? identity = some entity) (calls : List Call) :
    (catalog.run calls).find? identity = some entity := by
  induction calls generalizing catalog with
  | nil => exact registered
  | cons call calls ih => exact ih (find?_after registered call)

theorem describe_eq_ok_iff {catalog : Catalog} {identity : String} {entity : Entity} :
    catalog.describe identity = .ok entity ↔ catalog.find? identity = some entity := by
  unfold describe
  cases catalog.find? identity with
  | none => simp
  | some found => simp

/-- An identity keeps its entity over every run. -/
theorem describe_run {catalog : Catalog} {identity : String} {entity : Entity}
    (registered : catalog.describe identity = .ok entity) (calls : List Call) :
    (catalog.run calls).describe identity = .ok entity :=
  describe_eq_ok_iff.2 (find?_run (describe_eq_ok_iff.1 registered) calls)

end QueryFilter.Catalog
