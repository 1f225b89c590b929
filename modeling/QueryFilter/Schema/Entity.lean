/-
Entities: their identity, their table and their fields.

An entity is made from a declaration, which may be wrong in several ways; the first fault in the order of
declaration is reported. What is made is well formed by construction: it has an identity, its fields have
distinct names, whatever can be filtered on has a column, and junction fields come with bare identifiers and
an id column.
-/
import QueryFilter.Failure
import QueryFilter.Schema.EntityField
import QueryFilter.Sql.Identifier
import QueryFilter.Text.NameSet

namespace QueryFilter

/-- What is wrong with an entity, its declaration or its registration. -/
inductive EntityFault where
  | noIdentity
  | unnamedField (entity : String)
  | duplicateField (field entity : String)
  | noColumn (field entity : String)
  | badIdentifier (complaint : String)
  | noIdColumn (field entity : String)
  | idColumnMissing (entity field : String)
  | alreadyRegistered (entity : String)
  | otherIdentity (declared expected : String)
  deriving DecidableEq, Repr

def EntityFault.message : EntityFault → String
  | noIdentity => "Entity identity cannot be empty"
  | unnamedField entity => "Entity '" ++ entity ++ "' has a field with an empty name"
  | duplicateField field entity => "Duplicate field '" ++ field ++ "' in entity '" ++ entity ++ "'"
  | noColumn field entity => "Filterable field '" ++ field ++ "' in entity '" ++ entity ++ "' has no column"
  | badIdentifier complaint => complaint
  | noIdColumn field entity =>
    "Junction field '" ++ field ++ "' requires entity '" ++ entity ++ "' to declare an id column"
  | idColumnMissing entity field =>
    "Entity '" ++ entity ++ "' has junction field '" ++ field ++ "' but no id column"
  | alreadyRegistered entity => "Entity '" ++ entity ++ "' is already registered"
  | otherIdentity declared expected =>
    "Descriptor identity '" ++ declared ++ "' does not match entity '" ++ expected ++ "'"

def EntityFault.failure (fault : EntityFault) : Failure :=
  .invalidEntity fault.message

/-- Every name of the junction is a bare identifier. -/
def Junction.IsBare (junction : Junction) : Prop :=
  Identifier.isBare junction.table.toList = true ∧ Identifier.isBare junction.ownerColumn.toList = true
    ∧ Identifier.isBare junction.relatedColumn.toList = true

/-- What a field has to have in an entity with the given id column. -/
structure EntityField.Fits (idColumn : Option String) (field : EntityField) : Prop where
  named : Text.blank field.name = false
  column : field.filterable = true → Text.blank field.column = false
  junction : ∀ junction, field.junction = some junction → junction.IsBare ∧ idColumn.isSome = true

/-- What the parts of an entity have to have. -/
structure Entity.WellFormed (identity : String) (idColumn : Option String) (fields : List EntityField) :
    Prop where
  identified : identity ≠ ""
  distinct : (fields.map (·.name)).Nodup
  fits : ∀ field ∈ fields, field.Fits idColumn

structure Entity where
  identity : String
  table : String
  idColumn : Option String
  fields : List EntityField
  wellFormed : Entity.WellFormed identity idColumn fields
  deriving DecidableEq

namespace Entity

def field? (entity : Entity) (name : String) : Option EntityField :=
  entity.fields.find? fun field => field.name == name

def isFilterable (entity : Entity) (name : String) : Bool :=
  (entity.field? name).any (·.filterable)

def isSortable (entity : Entity) (name : String) : Bool :=
  (entity.field? name).any (·.sortable)

def column? (entity : Entity) (name : String) : Option String :=
  (entity.field? name).map (·.column)

/-- The names of the fields that can be filtered on, sorted. -/
def filterableNames (entity : Entity) : List String :=
  Text.sortedNames ((entity.fields.filter (·.filterable)).map (·.name))

/-- The names of the fields that can be sorted on, sorted. -/
def sortableNames (entity : Entity) : List String :=
  Text.sortedNames ((entity.fields.filter (·.sortable)).map (·.name))

theorem mem_of_field? {entity : Entity} {name : String} {field : EntityField}
    (h : entity.field? name = some field) : field ∈ entity.fields ∧ field.name = name := by
  refine ⟨List.mem_of_find?_eq_some h, ?_⟩
  simpa using List.find?_some h

end Entity

/-- A declared entity. Without a table name, the table is the plural of the identity in snake case. -/
structure Declaration where
  identity : String
  table : Option String
  idColumn : Option String
  fields : List EntityField
  deriving DecidableEq, Repr

namespace Declaration

/-- What is wrong with a junction, if anything is. -/
def junctionFault? (entity : String) (idColumn : Option String) (field : String) (junction : Junction) :
    Option EntityFault :=
  match Identifier.complaint? junction.table with
  | some complaint => some (.badIdentifier complaint)
  | none =>
    match Identifier.complaint? junction.ownerColumn with
    | some complaint => some (.badIdentifier complaint)
    | none =>
      match Identifier.complaint? junction.relatedColumn with
      | some complaint => some (.badIdentifier complaint)
      | none => if idColumn.isSome then none else some (.noIdColumn field entity)

/-- What is wrong with a field after fields of the given names, if anything is. -/
def fieldFault? (entity : String) (idColumn : Option String) (before : List String) (field : EntityField) :
    Option EntityFault :=
  if Text.blank field.name then some (.unnamedField entity)
  else if before.contains field.name then some (.duplicateField field.name entity)
  else if field.filterable && Text.blank field.column then some (.noColumn field.name entity)
  else
    match field.junction with
    | none => none
    | some junction => junctionFault? entity idColumn field.name junction

/-- The first thing wrong with some fields, after fields of the given names. -/
def fieldsFault? (entity : String) (idColumn : Option String) (before : List String) :
    List EntityField → Option EntityFault
  | [] => none
  | field :: fields =>
    match fieldFault? entity idColumn before field with
    | some fault => some fault
    | none => fieldsFault? entity idColumn (field.name :: before) fields

/-- The first thing wrong with a declaration. -/
def fault? (declaration : Declaration) : Option EntityFault :=
  let identity := Text.strip declaration.identity
  if identity = "" then some .noIdentity
  else fieldsFault? identity declaration.idColumn [] declaration.fields

theorem bare_of_junctionFault? {entity : String} {idColumn : Option String} {field : String}
    {junction : Junction} (h : junctionFault? entity idColumn field junction = none) :
    junction.IsBare ∧ idColumn.isSome = true := by
  unfold junctionFault? at h
  split at h
  · cases h
  · rename_i table
    split at h
    · cases h
    · rename_i owner
      split at h
      · cases h
      · rename_i related
        split at h
        · rename_i declared
          exact ⟨⟨Identifier.complaint?_eq_none_iff.1 table, Identifier.complaint?_eq_none_iff.1 owner,
            Identifier.complaint?_eq_none_iff.1 related⟩, declared⟩
        · cases h

theorem fits_of_fieldFault? {entity : String} {idColumn : Option String} {before : List String}
    {field : EntityField} (h : fieldFault? entity idColumn before field = none) :
    field.Fits idColumn ∧ field.name ∉ before := by
  unfold fieldFault? at h
  split at h
  · cases h
  · rename_i named
    split at h
    · cases h
    · rename_i fresh
      split at h
      · cases h
      · rename_i column
        refine ⟨⟨by simpa using named, ?_, ?_⟩, by simpa using fresh⟩
        · intro filterable
          simpa [filterable] using column
        · intro junction found
          rw [found] at h
          exact bare_of_junctionFault? h

theorem wellFormed_of_fieldsFault? {entity : String} {idColumn : Option String} {before : List String}
    {fields : List EntityField} (h : fieldsFault? entity idColumn before fields = none) :
    (fields.map (·.name)).Nodup ∧ (∀ field ∈ fields, field.Fits idColumn)
      ∧ ∀ field ∈ fields, field.name ∉ before := by
  induction fields generalizing before with
  | nil => simp
  | cons field fields ih =>
    rw [fieldsFault?] at h
    split at h
    · cases h
    · rename_i here
      obtain ⟨fits, fresh⟩ := fits_of_fieldFault? here
      obtain ⟨distinct, allFit, allFresh⟩ := ih h
      refine ⟨?_, ?_, ?_⟩
      · rw [List.map_cons, List.nodup_cons]
        refine ⟨?_, distinct⟩
        intro again
        obtain ⟨other, mem, same⟩ := List.mem_map.1 again
        exact allFresh other mem (same ▸ List.mem_cons_self)
      · intro other mem
        rcases List.mem_cons.1 mem with rfl | mem
        · exact fits
        · exact allFit other mem
      · intro other mem
        rcases List.mem_cons.1 mem with rfl | mem
        · exact fresh
        · exact fun earlier => allFresh other mem (List.mem_cons_of_mem _ earlier)

theorem wellFormed_of_fault? {declaration : Declaration} (h : declaration.fault? = none) :
    Entity.WellFormed (Text.strip declaration.identity) declaration.idColumn declaration.fields := by
  unfold fault? at h
  simp only at h
  split at h
  · cases h
  · rename_i identified
    obtain ⟨distinct, fits, _⟩ := wellFormed_of_fieldsFault? h
    exact ⟨identified, distinct, fits⟩

/-- The entity of a declaration, refused for the first thing wrong with it. -/
def build (declaration : Declaration) : Except EntityFault Entity :=
  match sound : declaration.fault? with
  | some fault => .error fault
  | none =>
    let identity := Text.strip declaration.identity
    .ok {
      identity
      table := declaration.table.getD (Naming.plural (Naming.snakeCase identity))
      idColumn := declaration.idColumn
      fields := declaration.fields
      wellFormed := wellFormed_of_fault? sound
    }

end Declaration

end QueryFilter
