/-
The catalog of entities.

An entity is registered under its identity, once: a second registration is refused and the first one stays.
A type that declares its own entity is registered when it is first asked for; its declaration is run then,
and never again.
-/
import QueryFilter.Schema.Entity

namespace QueryFilter

structure Catalog where
  entities : List Entity

namespace Catalog

def empty : Catalog := ⟨[]⟩

def find? (catalog : Catalog) (identity : String) : Option Entity :=
  catalog.entities.find? fun entity => entity.identity == identity

def contains (catalog : Catalog) (identity : String) : Bool :=
  (catalog.find? identity).isSome

/-- The registered identities, sorted. -/
def identities (catalog : Catalog) : List String :=
  Text.sortedNames (catalog.entities.map (·.identity))

/-- The catalog with one more entity, refused when its identity is taken. -/
def register (catalog : Catalog) (entity : Entity) : Except Failure Catalog :=
  if catalog.contains entity.identity then
    .error (EntityFault.alreadyRegistered entity.identity).failure
  else .ok ⟨catalog.entities ++ [entity]⟩

/-- The entity registered under an identity. -/
def describe (catalog : Catalog) (identity : String) : Except Failure Entity :=
  match catalog.find? identity with
  | some entity => .ok entity
  | none => .error (.unknownEntity identity)

/-- The entity of a type that declares its own, and the catalog after it was asked for. The declaration is
run, in any monad, only if the identity is not registered; what it declares is then registered, unless it
fails or has another identity. -/
def describeDeclared {m : Type → Type} [Monad m] (catalog : Catalog) (identity : String)
    (declare : m (Except Failure Entity)) : m (Except Failure Entity × Catalog) :=
  match catalog.find? identity with
  | some entity => pure (.ok entity, catalog)
  | none => do
    match ← declare with
    | .error failure => pure (.error failure, catalog)
    | .ok entity =>
      if entity.identity = identity then pure (.ok entity, ⟨catalog.entities ++ [entity]⟩)
      else pure (.error (EntityFault.otherIdentity entity.identity identity).failure, catalog)

end Catalog

end QueryFilter
