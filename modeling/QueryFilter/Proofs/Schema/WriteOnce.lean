/-
A catalog is written once.

Calls are answered one after the other, and a reply says how many declarations were run for it. What one call can
do is said once (`Outcome`): it leaves the catalog as it is, or it adds an entity under an identity that was not
there. So no identity is there twice, over every run (`Keyed.run`), and an entity is found under its own. From
there on it is answered to whoever asks for its identity, its declaration is not run again, and a call that is
refused is never noticed (`write_once`).
-/
import Mathlib.Data.List.Nodup
import Mathlib.Data.List.Perm.Subperm
import QueryFilter.Proofs.Schema.Built
import QueryFilter.Proofs.Schema.CatalogRun

namespace QueryFilter.Catalog

/-- What a call is answered with. -/
inductive Answer where
  | described (result : Except Failure Entity)
  | known (found : Bool)
  | listed (identities : List String)

/-- An answer, and the number of declarations run for it. -/
structure Reply where
  answer : Answer
  declarations : Nat

/-- A declaration that is counted when it is run. -/
def counted (declared : Except Failure Entity) : StateM Nat (Except Failure Entity) := do
  modify (· + 1)
  return declared

/-- The reply to a call, and the catalog after it. -/
def perform (catalog : Catalog) : Call → Reply × Catalog
  | .register entity =>
    match catalog.register entity with
    | .ok grown => (⟨.described (.ok entity), 0⟩, grown)
    | .error failure => (⟨.described (.error failure), 0⟩, catalog)
  | .describe identity => (⟨.described (catalog.describe identity), 0⟩, catalog)
  | .describeDeclared identity declared =>
    let ((result, grown), count) := Id.run ((catalog.describeDeclared identity (counted declared)).run 0)
    (⟨.described result, count⟩, grown)
  | .contains identity => (⟨.known (catalog.contains identity), 0⟩, catalog)
  | .identities => (⟨.listed catalog.identities, 0⟩, catalog)

/-- The replies to some calls, one after the other. -/
def replies (catalog : Catalog) : List Call → List Reply
  | [] => []
  | call :: calls => (catalog.perform call).1 :: (catalog.perform call).2.replies calls

/-! ## What one call can do -/

/-- The reply to a call and the catalog after it, by what is registered and what is declared. -/
inductive Outcome (catalog : Catalog) : Call → Reply → Catalog → Prop where
  | registered {entity : Entity} (new : catalog.find? entity.identity = none) :
    Outcome catalog (.register entity) ⟨.described (.ok entity), 0⟩ ⟨catalog.entities ++ [entity]⟩
  | taken {entity : Entity} (known : catalog.contains entity.identity = true) :
    Outcome catalog (.register entity)
      ⟨.described (.error (EntityFault.alreadyRegistered entity.identity).failure), 0⟩ catalog
  | found {identity : String} {entity : Entity} (known : catalog.find? identity = some entity) :
    Outcome catalog (.describe identity) ⟨.described (.ok entity), 0⟩ catalog
  | unknown {identity : String} (new : catalog.find? identity = none) :
    Outcome catalog (.describe identity) ⟨.described (.error (.unknownEntity identity)), 0⟩ catalog
  | kept {identity : String} {entity : Entity} (known : catalog.find? identity = some entity)
    (declared : Except Failure Entity) :
    Outcome catalog (.describeDeclared identity declared) ⟨.described (.ok entity), 0⟩ catalog
  | declared {entity : Entity} (new : catalog.find? entity.identity = none) :
    Outcome catalog (.describeDeclared entity.identity (.ok entity)) ⟨.described (.ok entity), 1⟩
      ⟨catalog.entities ++ [entity]⟩
  | undeclared {identity : String} (new : catalog.find? identity = none) (failure : Failure) :
    Outcome catalog (.describeDeclared identity (.error failure)) ⟨.described (.error failure), 1⟩ catalog
  | misdeclared {identity : String} {entity : Entity} (new : catalog.find? identity = none)
    (other : entity.identity ≠ identity) :
    Outcome catalog (.describeDeclared identity (.ok entity))
      ⟨.described (.error (EntityFault.otherIdentity entity.identity identity).failure), 1⟩ catalog
  | asked (identity : String) :
    Outcome catalog (.contains identity) ⟨.known (catalog.contains identity), 0⟩ catalog
  | listed : Outcome catalog .identities ⟨.listed catalog.identities, 0⟩ catalog

theorem describeDeclared_of_known {m : Type → Type} [Monad m] {catalog : Catalog} {identity : String} {entity : Entity}
    (known : catalog.find? identity = some entity) (declare : m (Except Failure Entity)) :
    catalog.describeDeclared identity declare = pure (.ok entity, catalog) := by
  rw [describeDeclared, known]

theorem outcome_perform (catalog : Catalog) (call : Call) :
    catalog.Outcome call (catalog.perform call).1 (catalog.perform call).2 := by
  cases call with
  | register entity =>
    rw [perform, register]
    by_cases known : catalog.contains entity.identity = true
    · rw [if_pos known]
      exact .taken known
    · rw [if_neg known]
      exact .registered (by simpa [contains] using known)
  | describe identity =>
    rw [perform, describe]
    cases known : catalog.find? identity with
    | some entity => exact .found known
    | none => exact .unknown known
  | describeDeclared identity declared =>
    rw [perform]
    cases known : catalog.find? identity with
    | some entity =>
      rw [describeDeclared_of_known known]
      exact .kept known declared
    | none =>
      rw [describeDeclared, known]
      cases declared with
      | error failure => exact .undeclared known failure
      | ok entity =>
        by_cases same : entity.identity = identity
        · subst same
          simpa [counted] using Outcome.declared known
        · simpa [counted, same] using Outcome.misdeclared known same
  | contains identity => exact .asked identity
  | identities => exact .listed

namespace Outcome

variable {catalog grown : Catalog} {call : Call} {reply : Reply}

theorem perform_eq (outcome : catalog.Outcome call reply grown) : catalog.perform call = (reply, grown) := by
  cases outcome with
  | registered new => simp [perform, register, contains, new]
  | taken known => simp [perform, register, known]
  | found known => simp [perform, describe, known]
  | unknown new => simp [perform, describe, new]
  | kept known declared =>
    rw [perform, describeDeclared_of_known known]
    rfl
  | declared new => simp [perform, describeDeclared, counted, new]
  | undeclared new failure => simp [perform, describeDeclared, counted, new]
  | misdeclared new other => simp [perform, describeDeclared, counted, new, other]
  | asked | listed => rfl

theorem after_eq (outcome : catalog.Outcome call reply grown) : catalog.after call = grown := by
  cases outcome with
  | registered new => simp [after, register, contains, new, Except.toOption]
  | taken known => simp [after, register, known, Except.toOption]
  | kept known declared =>
    rw [after, describeDeclared_of_known known]
    rfl
  | declared new => simp [after, describeDeclared, new, bind, pure]
  | undeclared new failure => simp [after, describeDeclared, new, bind, pure]
  | misdeclared new other => simp [after, describeDeclared, new, other, bind, pure]
  | found | unknown | asked | listed => rfl

end Outcome

theorem after_eq_perform (catalog : Catalog) (call : Call) : catalog.after call = (catalog.perform call).2 :=
  (catalog.outcome_perform call).after_eq

/-! ## Runs -/

theorem replies_append (catalog : Catalog) (before later : List Call) :
    catalog.replies (before ++ later) = catalog.replies before ++ (catalog.run before).replies later := by
  induction before generalizing catalog with
  | nil => rfl
  | cons call before ih =>
    rw [List.cons_append, replies, ih, replies, List.cons_append, ← after_eq_perform]
    rfl

theorem find?_eq_none_iff {catalog : Catalog} {identity : String} :
    catalog.find? identity = none ↔ identity ∉ catalog.entities.map (·.identity) := by
  simp [find?]

/-- No two entities have the same identity. -/
def Keyed (catalog : Catalog) : Prop :=
  (catalog.entities.map (·.identity)).Nodup

theorem Keyed.after {catalog : Catalog} (keyed : catalog.Keyed) (call : Call) : (catalog.after call).Keyed := by
  obtain same | ⟨entity, new, grown⟩ := catalog.after_cases call
  · rwa [same]
  · unfold Keyed
    rw [grown, List.map_append, List.map_singleton, List.nodup_append_comm, List.singleton_append, List.nodup_cons]
    exact ⟨find?_eq_none_iff.1 new, keyed⟩

theorem Keyed.run {catalog : Catalog} (keyed : catalog.Keyed) (calls : List Call) : (catalog.run calls).Keyed := by
  induction calls generalizing catalog with
  | nil => exact keyed
  | cons call calls ih => exact ih (keyed.after call)

theorem keyed_empty : Keyed empty :=
  List.nodup_nil

theorem Keyed.find?_of_mem {catalog : Catalog} (keyed : catalog.Keyed) {entity : Entity}
    (mem : entity ∈ catalog.entities) : catalog.find? entity.identity = some entity :=
  (find?_eq_some_iff_of_distinct keyed).2 ⟨mem, rfl⟩

theorem identity_of_find? {catalog : Catalog} {identity : String} {entity : Entity}
    (known : catalog.find? identity = some entity) : entity.identity = identity := by
  simpa using List.find?_some known

theorem find?_grown {catalog : Catalog} {entity : Entity} (new : catalog.find? entity.identity = none) :
    find? ⟨catalog.entities ++ [entity]⟩ entity.identity = some entity := by
  unfold find? at new ⊢
  rw [List.find?_append, new, Option.none_or, List.find?_cons_of_pos (by simp)]

theorem contains_eq_false_iff {catalog : Catalog} {identity : String} :
    catalog.contains identity = false ↔ catalog.find? identity = none := by
  simp [contains]

theorem mem_identities_iff {catalog : Catalog} {identity : String} :
    identity ∈ catalog.identities ↔ catalog.contains identity = true := by
  rw [← not_iff_not, Bool.not_eq_true, contains_eq_false_iff, find?_eq_none_iff, identities, Text.mem_sortedNames]

theorem Keyed.identities_perm {catalog : Catalog} (keyed : catalog.Keyed) :
    catalog.identities.Perm (catalog.entities.map (·.identity)) := by
  have sorted := Text.pairwise_sortedNames (catalog.entities.map (·.identity))
  have distinct : catalog.identities.Nodup := sorted.imp fun less => String.ne_of_lt less
  exact (List.perm_ext_iff_of_nodup distinct keyed).2 fun identity => Text.mem_sortedNames

/-! ## Write-once -/

/-- The identity a call is about, if it is about one. -/
def Call.identity? : Call → Option String
  | .register entity => some entity.identity
  | .describe identity | .describeDeclared identity _ | .contains identity => some identity
  | .identities => none

/-- The calls a catalog refuses, and with what: an identity is registered a second time, an unknown one is asked
for, or a type with an unknown one fails to declare its entity or declares another. -/
inductive Refuses (catalog : Catalog) : Call → Failure → Prop where
  | taken {entity : Entity} (known : catalog.contains entity.identity = true) :
    Refuses catalog (.register entity) (EntityFault.alreadyRegistered entity.identity).failure
  | unknown {identity : String} (new : catalog.contains identity = false) :
    Refuses catalog (.describe identity) (.unknownEntity identity)
  | undeclared {identity : String} (new : catalog.contains identity = false) (failure : Failure) :
    Refuses catalog (.describeDeclared identity (.error failure)) failure
  | misdeclared {identity : String} {entity : Entity} (new : catalog.contains identity = false)
    (other : entity.identity ≠ identity) :
    Refuses catalog (.describeDeclared identity (.ok entity))
      (EntityFault.otherIdentity entity.identity identity).failure

/-- What a catalog that is written once promises of the calls to come. -/
structure WriteOnce (catalog : Catalog) : Prop where
  own : ∀ entity ∈ catalog.entities, catalog.describe entity.identity = .ok entity
  given : ∀ {call entity}, (catalog.perform call).1.answer = .described (.ok entity) →
    call.identity? = some entity.identity ∧ (catalog.perform call).2.describe entity.identity = .ok entity
  kept : ∀ {identity entity}, catalog.describe identity = .ok entity → ∀ later declared,
    catalog.replies (later ++ [.describe identity, .describeDeclared identity declared]) =
      catalog.replies later ++ [⟨.described (.ok entity), 0⟩, ⟨.described (.ok entity), 0⟩]
  unrun : ∀ {identity entity}, catalog.describe identity = .ok entity →
    ∀ (m : Type → Type) [Monad m] (declare : m (Except Failure Entity)),
      catalog.describeDeclared identity declare = pure (.ok entity, catalog)
  declared : ∀ call, (catalog.perform call).1.declarations = 0 ∨ (catalog.perform call).1.declarations = 1
    ∧ ∃ identity declared, call = .describeDeclared identity declared ∧ catalog.contains identity = false
  refused : ∀ {call failure},
    (catalog.perform call).1.answer = .described (.error failure) ↔ catalog.Refuses call failure
  unseen : ∀ {call failure}, catalog.Refuses call failure → ∀ later,
    catalog.replies (call :: later) = (catalog.perform call).1 :: catalog.replies later
  listed : ∃ names, (catalog.perform .identities).1.answer = .listed names ∧ names.Pairwise (· < ·)
    ∧ (∀ identity, identity ∈ names ↔ (catalog.perform (.contains identity)).1.answer = .known true)
    ∧ names.Perm (catalog.entities.map (·.identity))

theorem Refuses.outcome {catalog : Catalog} {call : Call} {failure : Failure}
    (refuses : catalog.Refuses call failure) :
    ∃ count, catalog.Outcome call ⟨.described (.error failure), count⟩ catalog := by
  cases refuses with
  | taken known => exact ⟨0, .taken known⟩
  | unknown new => exact ⟨0, .unknown (contains_eq_false_iff.1 new)⟩
  | undeclared new => exact ⟨1, .undeclared (contains_eq_false_iff.1 new) failure⟩
  | misdeclared new other => exact ⟨1, .misdeclared (contains_eq_false_iff.1 new) other⟩

theorem refused_iff {catalog : Catalog} {call : Call} {failure : Failure} :
    (catalog.perform call).1.answer = .described (.error failure) ↔ catalog.Refuses call failure := by
  constructor
  · intro answered
    have outcome := catalog.outcome_perform call
    generalize catalog.perform call = performed at outcome answered
    obtain ⟨⟨answer, count⟩, grown⟩ := performed
    dsimp only at answered outcome
    subst answered
    cases outcome with
    | taken known => exact .taken known
    | unknown new => exact .unknown (contains_eq_false_iff.2 new)
    | undeclared new failure => exact .undeclared (contains_eq_false_iff.2 new) failure
    | misdeclared new other => exact .misdeclared (contains_eq_false_iff.2 new) other
  · intro refuses
    obtain ⟨count, outcome⟩ := refuses.outcome
    rw [outcome.perform_eq]

theorem Refuses.replies_cons {catalog : Catalog} {call : Call} {failure : Failure}
    (refuses : catalog.Refuses call failure) (later : List Call) :
    catalog.replies (call :: later) = (catalog.perform call).1 :: catalog.replies later := by
  obtain ⟨count, outcome⟩ := refuses.outcome
  rw [replies, outcome.perform_eq]

theorem describe_of_given {catalog : Catalog} {call : Call} {entity : Entity}
    (given : (catalog.perform call).1.answer = .described (.ok entity)) :
    call.identity? = some entity.identity ∧ (catalog.perform call).2.describe entity.identity = .ok entity := by
  have outcome := catalog.outcome_perform call
  generalize catalog.perform call = performed at outcome given
  obtain ⟨⟨answer, count⟩, grown⟩ := performed
  dsimp only at given outcome ⊢
  subst given
  rw [describe_eq_ok_iff]
  cases outcome with
  | registered new => exact ⟨rfl, find?_grown new⟩
  | found known => exact ⟨congrArg some (identity_of_find? known).symm, identity_of_find? known ▸ known⟩
  | kept known declared => exact ⟨congrArg some (identity_of_find? known).symm, identity_of_find? known ▸ known⟩
  | declared new => exact ⟨rfl, find?_grown new⟩

theorem declarations_perform (catalog : Catalog) (call : Call) :
    (catalog.perform call).1.declarations = 0 ∨ (catalog.perform call).1.declarations = 1
      ∧ ∃ identity declared, call = .describeDeclared identity declared ∧ catalog.contains identity = false := by
  have outcome := catalog.outcome_perform call
  generalize (catalog.perform call).1 = reply, (catalog.perform call).2 = grown at outcome
  cases outcome with
  | declared new => exact .inr ⟨rfl, _, _, rfl, contains_eq_false_iff.2 new⟩
  | undeclared new failure => exact .inr ⟨rfl, _, _, rfl, contains_eq_false_iff.2 new⟩
  | misdeclared new other => exact .inr ⟨rfl, _, _, rfl, contains_eq_false_iff.2 new⟩
  | registered | taken | found | unknown | kept | asked | listed => exact .inl rfl

/-- Whoever asks for a registered identity is given its entity, after any calls. -/
theorem replies_of_described {catalog : Catalog} {identity : String} {entity : Entity}
    (described : catalog.describe identity = .ok entity) (later : List Call) (declared : Except Failure Entity) :
    catalog.replies (later ++ [.describe identity, .describeDeclared identity declared]) =
      catalog.replies later ++ [⟨.described (.ok entity), 0⟩, ⟨.described (.ok entity), 0⟩] := by
  have known := find?_run (describe_eq_ok_iff.1 described) later
  have found := (Outcome.found known).perform_eq
  have kept := (Outcome.kept known declared).perform_eq
  rw [replies_append]
  simp only [replies, found, kept]

/-- **A catalog is written once.** At every point of every run, what was given is found under its own identity and
is given again, a declaration is run only for an identity that is not registered, refused calls are not noticed by
those after them, and the identities listed are those known. -/
theorem write_once (before later : List Call) :
    empty.replies (before ++ later) = empty.replies before ++ (empty.run before).replies later
      ∧ (empty.run before).WriteOnce := by
  have keyed := Keyed.run keyed_empty before
  refine ⟨replies_append empty before later, ?_⟩
  constructor
  case own => exact fun entity mem => describe_eq_ok_iff.2 (keyed.find?_of_mem mem)
  case given => exact describe_of_given
  case kept => exact replies_of_described
  case unrun =>
    intro identity entity described m _ declare
    exact describeDeclared_of_known (describe_eq_ok_iff.1 described) declare
  case declared => exact declarations_perform _
  case refused => exact refused_iff
  case unseen => exact Refuses.replies_cons
  case listed =>
    refine ⟨_, rfl, Text.pairwise_sortedNames _, fun identity => ?_, keyed.identities_perm⟩
    rw [perform, Answer.known.injEq]
    exact mem_identities_iff

end QueryFilter.Catalog
