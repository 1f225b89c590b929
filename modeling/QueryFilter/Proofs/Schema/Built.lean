/-
What is built of a declaration.

A declaration is built exactly when it is valid, which is said of its parts alone (`Declaration.Valid`). Its fields
are looked at in turn: one is refused when the fields before it would have been built and it lacks something, and
then for the first thing it lacks (`Declaration.FieldFault`, `Declaration.FirstFault`). What is built keeps the
fields as they were declared, and whatever is asked of it by name is answered from the one field of that name
(`Entity.Mirrors`).
-/
import Mathlib.Data.List.Nodup
import QueryFilter.Schema.Entity

namespace QueryFilter

/-! ## Identifiers -/

/-- The shape `[a-z_][a-z0-9_]*`. -/
def Identifier.Bare (name : String) : Prop :=
  ∃ first rest, name.toList = first :: rest ∧ (first = '_' ∨ 'a' ≤ first ∧ first ≤ 'z')
    ∧ ∀ c ∈ rest, c = '_' ∨ 'a' ≤ c ∧ c ≤ 'z' ∨ '0' ≤ c ∧ c ≤ '9'

/-- The names a junction puts into SQL text, in the order they are looked at. -/
def Junction.names (junction : Junction) : List String :=
  [junction.table, junction.ownerColumn, junction.relatedColumn]

theorem Identifier.isStart_iff {c : Char} : isStart c = true ↔ c = '_' ∨ 'a' ≤ c ∧ c ≤ 'z' := by
  simp [isStart, or_comm]

theorem Identifier.isPart_iff {c : Char} :
    isPart c = true ↔ c = '_' ∨ 'a' ≤ c ∧ c ≤ 'z' ∨ '0' ≤ c ∧ c ≤ '9' := by
  simp [isPart, isStart_iff, Text.isDigit, or_assoc]

theorem Identifier.bare_iff {name : String} : Bare name ↔ complaint? name = none := by
  rw [complaint?_eq_none_iff, Bare]
  cases name.toList with
  | nil => simp [isBare]
  | cons first rest => simp [isBare, isStart_iff, isPart_iff]

theorem Junction.isBare_iff {junction : Junction} :
    junction.IsBare ↔ ∀ name ∈ junction.names, Identifier.Bare name := by
  simp [IsBare, names, Identifier.bare_iff, Identifier.complaint?_eq_none_iff]

/-! ## Names -/

/-- With distinct keys, what is found by a key is the one item that has it. -/
theorem find?_eq_some_iff_of_distinct {α : Type} {key : α → String} {items : List α}
    (distinct : (items.map key).Nodup) {name : String} {item : α} :
    items.find? (fun other => key other == name) = some item ↔ item ∈ items ∧ key item = name := by
  constructor
  · intro found
    exact ⟨List.mem_of_find?_eq_some found, by simpa using List.find?_some found⟩
  · rintro ⟨mem, rfl⟩
    induction items with
    | nil => cases mem
    | cons first items ih =>
      rw [List.map_cons, List.nodup_cons] at distinct
      rcases List.mem_cons.1 mem with rfl | later
      · exact List.find?_cons_of_pos (beq_self_eq_true _)
      · have other : key first ≠ key item := fun same => distinct.1 (same ▸ List.mem_map_of_mem later)
        rw [List.find?_cons_of_neg (by simpa using other)]
        exact ih distinct.2 later

namespace Entity

variable {entity : Entity} {name : String}

theorem field?_eq_some_iff {field : EntityField} :
    entity.field? name = some field ↔ field ∈ entity.fields ∧ field.name = name :=
  find?_eq_some_iff_of_distinct entity.wellFormed.distinct

theorem any_field?_iff (capable : EntityField → Bool) : (entity.field? name).any capable = true ↔
    ∃ field ∈ entity.fields, field.name = name ∧ capable field = true := by
  simp [Option.any_eq_true, field?_eq_some_iff, and_assoc]

/-- The names listed for a capability are those of the fields that have it. -/
theorem mem_names_iff (capable : EntityField → Bool) :
    name ∈ Text.sortedNames ((entity.fields.filter capable).map (·.name)) ↔
      (entity.field? name).any capable = true := by
  rw [Text.mem_sortedNames, any_field?_iff, List.mem_map]
  refine exists_congr fun field => ?_
  rw [List.mem_filter]
  tauto

end Entity

/-! ## Declarations -/

namespace Declaration

/-- What is asked of a declaration. -/
structure Valid (declaration : Declaration) : Prop where
  identified : Text.strip declaration.identity ≠ ""
  named : ∀ field ∈ declaration.fields, Text.blank field.name = false
  distinct : (declaration.fields.map (·.name)).Nodup
  columns : ∀ field ∈ declaration.fields, field.filterable = true → Text.blank field.column = false
  identifiers : ∀ field ∈ declaration.fields, ∀ junction, field.junction = some junction →
    ∀ name ∈ junction.names, Identifier.Bare name
  idColumn : (∃ field ∈ declaration.fields, field.junction ≠ none) → declaration.idColumn ≠ none

/-- The fault of a junction: the first of its names that is no bare identifier, or else the missing id column. -/
inductive JunctionFault (entity : String) (idColumn : Option String) (field : String) (junction : Junction) :
    EntityFault → Prop where
  | badIdentifier {bare others : List String} {name complaint : String}
    (split : junction.names = bare ++ name :: others) (sound : ∀ earlier ∈ bare, Identifier.Bare earlier)
    (bad : Identifier.complaint? name = some complaint) :
    JunctionFault entity idColumn field junction (.badIdentifier complaint)
  | noIdColumn (sound : ∀ name ∈ junction.names, Identifier.Bare name) (missing : idColumn = none) :
    JunctionFault entity idColumn field junction (.noIdColumn field entity)

/-- The fault of a field declared after some others: the first thing it lacks, in the order of the cases. -/
inductive FieldFault (entity : String) (idColumn : Option String) (earlier : List EntityField)
    (field : EntityField) : EntityFault → Prop where
  | unnamed (blank : Text.blank field.name = true) :
    FieldFault entity idColumn earlier field (.unnamedField entity)
  | duplicate (named : Text.blank field.name = false) (again : ∃ other ∈ earlier, other.name = field.name) :
    FieldFault entity idColumn earlier field (.duplicateField field.name entity)
  | noColumn (named : Text.blank field.name = false) (new : ∀ other ∈ earlier, other.name ≠ field.name)
    (filterable : field.filterable = true) (blank : Text.blank field.column = true) :
    FieldFault entity idColumn earlier field (.noColumn field.name entity)
  | junction {junction : Junction} {fault : EntityFault} (named : Text.blank field.name = false)
    (new : ∀ other ∈ earlier, other.name ≠ field.name)
    (column : field.filterable = true → Text.blank field.column = false) (kept : field.junction = some junction)
    (lacks : JunctionFault entity idColumn field.name junction fault) :
    FieldFault entity idColumn earlier field fault

/-- The fault a declaration is refused for: that it has no identity, or that of a field behind fields that would
have been built. -/
inductive FirstFault (declaration : Declaration) : EntityFault → Prop where
  | noIdentity (blank : Text.strip declaration.identity = "") : FirstFault declaration .noIdentity
  | field {earlier later : List EntityField} {field : EntityField} {fault : EntityFault}
    (split : declaration.fields = earlier ++ field :: later) (valid : Valid { declaration with fields := earlier })
    (lacks : FieldFault (Text.strip declaration.identity) declaration.idColumn earlier field fault) :
    FirstFault declaration fault

variable {entity : String} {idColumn : Option String} {field : EntityField} {fault : EntityFault}

theorem junctionFault?_eq (entity : String) (idColumn : Option String) (field : String) (junction : Junction) :
    junctionFault? entity idColumn field junction =
      match junction.names.findSome? Identifier.complaint? with
      | some complaint => some (.badIdentifier complaint)
      | none => if idColumn.isSome then none else some (.noIdColumn field entity) := by
  unfold junctionFault? Junction.names
  cases table : Identifier.complaint? junction.table with
  | some complaint => simp [table]
  | none =>
    cases owner : Identifier.complaint? junction.ownerColumn with
    | some complaint => simp [table, owner]
    | none => cases related : Identifier.complaint? junction.relatedColumn <;> simp [table, owner, related]

theorem junctionFault?_eq_some_iff {name : String} {junction : Junction} :
    junctionFault? entity idColumn name junction = some fault ↔
      JunctionFault entity idColumn name junction fault := by
  rw [junctionFault?_eq]
  constructor
  · intro found
    split at found
    · rename_i complaint bad
      obtain ⟨bare, other, others, split, here, sound⟩ := List.findSome?_eq_some_iff.1 bad
      cases found
      exact .badIdentifier split (fun earlier mem => Identifier.bare_iff.2 (sound earlier mem)) here
    · rename_i sound
      rw [List.findSome?_eq_none_iff] at sound
      split at found
      · cases found
      · rename_i missing
        cases found
        exact .noIdColumn (fun name mem => Identifier.bare_iff.2 (sound name mem)) (by simpa using missing)
  · rintro (⟨split, sound, bad⟩ | ⟨sound, missing⟩)
    · have found := List.findSome?_eq_some_iff.2
        ⟨_, _, _, split, bad, fun earlier mem => Identifier.bare_iff.1 (sound earlier mem)⟩
      rw [found]
    · have none := List.findSome?_eq_none_iff.2 fun name mem => Identifier.bare_iff.1 (sound name mem)
      rw [none, missing]
      rfl

theorem fieldFault?_eq_some_iff {earlier : List EntityField} {before : List String}
    (names : ∀ name, name ∈ before ↔ ∃ other ∈ earlier, other.name = name) :
    fieldFault? entity idColumn before field = some fault ↔ FieldFault entity idColumn earlier field fault := by
  unfold fieldFault?
  constructor
  · intro found
    split at found
    · rename_i blank
      cases found
      exact .unnamed blank
    · rename_i named
      rw [Bool.not_eq_true] at named
      split at found
      · rename_i again
        cases found
        exact .duplicate named ((names _).1 (by simpa using again))
      · rename_i new
        have new : ∀ other ∈ earlier, other.name ≠ field.name := fun other mem same =>
          new (by simpa using (names _).2 ⟨other, mem, same⟩)
        split at found
        · rename_i blank
          rw [Bool.and_eq_true] at blank
          cases found
          exact .noColumn named new blank.1 blank.2
        · rename_i column
          have column : field.filterable = true → Text.blank field.column = false := by simpa using column
          split at found
          · cases found
          · rename_i junction kept
            exact .junction named new column kept (junctionFault?_eq_some_iff.1 found)
  · intro lacks
    have unseen : (∀ other ∈ earlier, other.name ≠ field.name) → field.name ∉ before := fun new again => by
      obtain ⟨other, mem, same⟩ := (names _).1 again
      exact new other mem same
    cases lacks with
    | unnamed blank => simp [blank]
    | duplicate named again => simp [named, (names _).2 again]
    | noColumn named new filterable blank => simp [named, unseen new, filterable, blank]
    | junction named new column kept lacks =>
      have noColumn : (field.filterable && Text.blank field.column) = false := by
        cases filterable : field.filterable with
        | false => rfl
        | true => exact column filterable
      simp [named, unseen new, noColumn, kept, junctionFault?_eq_some_iff.2 lacks]

theorem junctionFault?_eq_none_iff {name : String} {junction : Junction} :
    junctionFault? entity idColumn name junction = none ↔ junction.IsBare ∧ idColumn.isSome = true := by
  refine ⟨bare_of_junctionFault?, ?_⟩
  rintro ⟨bare, declared⟩
  have sound : junction.names.findSome? Identifier.complaint? = none :=
    List.findSome?_eq_none_iff.2 fun name mem => Identifier.bare_iff.1 (Junction.isBare_iff.1 bare name mem)
  rw [junctionFault?_eq, sound, declared]
  rfl

theorem fieldFault?_eq_none_iff {before : List String} :
    fieldFault? entity idColumn before field = none ↔ field.Fits idColumn ∧ field.name ∉ before := by
  refine ⟨fits_of_fieldFault?, ?_⟩
  rintro ⟨fits, new⟩
  have noColumn : (field.filterable && Text.blank field.column) = false := by
    cases filterable : field.filterable with
    | false => rfl
    | true => exact fits.column filterable
  unfold fieldFault?
  rw [if_neg (by simp [fits.named]), if_neg (by simpa using new), if_neg (by simp [noColumn])]
  cases kept : field.junction with
  | none => rfl
  | some junction => exact junctionFault?_eq_none_iff.2 (fits.junction junction kept)

theorem fieldsFault?_eq_none_iff {before : List String} {fields : List EntityField} :
    fieldsFault? entity idColumn before fields = none ↔ (fields.map (·.name)).Nodup
      ∧ (∀ field ∈ fields, field.Fits idColumn) ∧ ∀ field ∈ fields, field.name ∉ before := by
  refine ⟨wellFormed_of_fieldsFault?, ?_⟩
  induction fields generalizing before with
  | nil => exact fun _ => rfl
  | cons field fields ih =>
    rintro ⟨distinct, fits, new⟩
    rw [List.map_cons, List.nodup_cons] at distinct
    rw [List.forall_mem_cons] at fits new
    rw [fieldsFault?, fieldFault?_eq_none_iff.2 ⟨fits.1, new.1⟩]
    refine ih ⟨distinct.2, fits.2, fun other mem => ?_⟩
    rw [List.mem_cons, not_or]
    exact ⟨fun same => distinct.1 (same ▸ List.mem_map_of_mem mem), new.2 other mem⟩

/-- The first fault of some fields is that of a field behind fields without a fault. -/
theorem fieldsFault?_eq_some_iff {earlier : List EntityField} {before : List String}
    (names : ∀ name, name ∈ before ↔ ∃ other ∈ earlier, other.name = name) {fields : List EntityField} :
    fieldsFault? entity idColumn before fields = some fault ↔ ∃ between field later,
      fields = between ++ field :: later ∧ fieldsFault? entity idColumn before between = none
        ∧ FieldFault entity idColumn (earlier ++ between) field fault := by
  induction fields generalizing earlier before with
  | nil => simp [fieldsFault?]
  | cons first fields ih =>
    rw [fieldsFault?]
    cases here : fieldFault? entity idColumn before first with
    | some found =>
      constructor
      · rintro ⟨⟩
        exact ⟨[], first, fields, rfl, rfl, by
          rw [List.append_nil]
          exact (fieldFault?_eq_some_iff names).1 here⟩
      · rintro ⟨between, field, later, split, sound, lacks⟩
        cases between with
        | nil =>
          obtain ⟨rfl, rfl⟩ := List.cons.inj split
          rw [List.append_nil] at lacks
          exact here.symm.trans ((fieldFault?_eq_some_iff names).2 lacks)
        | cons other between =>
          obtain ⟨rfl, rfl⟩ := List.cons.inj split
          rw [fieldsFault?, here] at sound
          cases sound
    | none =>
      have names' : ∀ name, name ∈ first.name :: before ↔
          ∃ other ∈ earlier ++ [first], other.name = name := by
        intro name
        rw [List.mem_cons, names]
        simp only [List.mem_append, List.mem_singleton, or_and_right, exists_or, exists_eq_left]
        rw [or_comm, eq_comm]
      rw [ih names']
      constructor
      · rintro ⟨between, field, later, rfl, sound, lacks⟩
        refine ⟨first :: between, field, later, rfl, by rw [fieldsFault?, here]; exact sound, ?_⟩
        rwa [List.append_assoc] at lacks
      · rintro ⟨between, field, later, split, sound, lacks⟩
        cases between with
        | nil =>
          obtain ⟨rfl, rfl⟩ := List.cons.inj split
          rw [List.append_nil, ← fieldFault?_eq_some_iff names, here] at lacks
          cases lacks
        | cons other between =>
          obtain ⟨rfl, rfl⟩ := List.cons.inj split
          rw [fieldsFault?, here] at sound
          refine ⟨between, field, later, rfl, sound, ?_⟩
          rwa [List.append_assoc]

theorem valid_iff {declaration : Declaration} : declaration.Valid ↔ Text.strip declaration.identity ≠ ""
    ∧ fieldsFault? (Text.strip declaration.identity) declaration.idColumn [] declaration.fields = none := by
  rw [fieldsFault?_eq_none_iff]
  constructor
  · rintro ⟨identified, named, distinct, columns, identifiers, idColumn⟩
    refine ⟨identified, distinct, fun field mem => ⟨named field mem, columns field mem, ?_⟩, by simp⟩
    intro junction kept
    have declared := idColumn ⟨field, mem, by simp [kept]⟩
    exact ⟨Junction.isBare_iff.2 (identifiers field mem junction kept), Option.isSome_iff_ne_none.2 declared⟩
  · rintro ⟨identified, distinct, fits, -⟩
    refine ⟨identified, fun field mem => (fits field mem).named, distinct, fun field mem => (fits field mem).column,
      fun field mem junction kept => Junction.isBare_iff.1 ((fits field mem).junction junction kept).1, ?_⟩
    rintro ⟨field, mem, kept⟩
    obtain ⟨junction, kept⟩ := Option.ne_none_iff_exists'.1 kept
    exact Option.isSome_iff_ne_none.1 ((fits field mem).junction junction kept).2

theorem fault?_eq_none_iff {declaration : Declaration} : declaration.fault? = none ↔ declaration.Valid := by
  rw [valid_iff, fault?]
  by_cases blank : Text.strip declaration.identity = ""
  · simp [blank]
  · simp [blank]

theorem fault?_eq_some_iff {declaration : Declaration} :
    declaration.fault? = some fault ↔ declaration.FirstFault fault := by
  have none : ∀ name : String, name ∈ ([] : List String) ↔
      ∃ other ∈ ([] : List EntityField), other.name = name := by simp
  unfold fault?
  by_cases blank : Text.strip declaration.identity = ""
  · simp only [blank, if_true, Option.some.injEq]
    constructor
    · rintro rfl
      exact .noIdentity blank
    · rintro (_ | ⟨split, valid, lacks⟩)
      · rfl
      · exact absurd blank valid.identified
  · simp only [blank, if_false]
    rw [fieldsFault?_eq_some_iff none]
    constructor
    · rintro ⟨earlier, field, later, split, sound, lacks⟩
      exact .field split (valid_iff.2 ⟨blank, sound⟩) lacks
    · rintro (absurd | ⟨split, valid, lacks⟩)
      · contradiction
      · exact ⟨_, _, _, split, (valid_iff.1 valid).2, lacks⟩

theorem build_eq_error_iff {declaration : Declaration} :
    declaration.build = .error fault ↔ declaration.fault? = some fault := by
  unfold build
  split
  · rename_i found sound
    simp [sound]
  · rename_i sound
    simp [sound]

theorem build_eq_ok_iff {declaration : Declaration} {made : Entity} :
    declaration.build = .ok made ↔ declaration.fault? = none ∧ made.identity = Text.strip declaration.identity
      ∧ made.table = declaration.table.getD (Naming.plural (Naming.snakeCase (Text.strip declaration.identity)))
      ∧ made.idColumn = declaration.idColumn ∧ made.fields = declaration.fields := by
  unfold build
  split
  · rename_i found sound
    simp [sound]
  · rename_i sound
    obtain ⟨identity, table, idColumn, fields, wellFormed⟩ := made
    simp [sound, eq_comm]

end Declaration

/-- An entity that is as it was declared, and answers from the declared fields by their names. -/
structure Entity.Mirrors (declaration : Declaration) (entity : Entity) : Prop where
  identity : entity.identity = Text.strip declaration.identity
  idColumn : entity.idColumn = declaration.idColumn
  fields : entity.fields = declaration.fields
  field : ∀ name field, entity.field? name = some field ↔ field ∈ declaration.fields ∧ field.name = name
  column : ∀ name column, entity.column? name = some column ↔
    ∃ field, entity.field? name = some field ∧ field.column = column
  isFilterable : ∀ name, entity.isFilterable name = true ↔
    ∃ field ∈ declaration.fields, field.name = name ∧ field.filterable = true
  isSortable : ∀ name, entity.isSortable name = true ↔
    ∃ field ∈ declaration.fields, field.name = name ∧ field.sortable = true
  filterable : entity.filterableNames.Pairwise (· < ·)
    ∧ ∀ name, name ∈ entity.filterableNames ↔ entity.isFilterable name = true
  sortable : entity.sortableNames.Pairwise (· < ·)
    ∧ ∀ name, name ∈ entity.sortableNames ↔ entity.isSortable name = true

theorem Entity.mirrors_of_fields {declaration : Declaration} {entity : Entity}
    (identity : entity.identity = Text.strip declaration.identity) (idColumn : entity.idColumn = declaration.idColumn)
    (fields : entity.fields = declaration.fields) : entity.Mirrors declaration where
  identity := identity
  idColumn := idColumn
  fields := fields
  field name field := by rw [← fields, field?_eq_some_iff]
  column name column := Option.map_eq_some_iff
  isFilterable name := by
    rw [← fields]
    exact any_field?_iff _
  isSortable name := by
    rw [← fields]
    exact any_field?_iff _
  filterable := ⟨Text.pairwise_sortedNames _, fun _ => mem_names_iff _⟩
  sortable := ⟨Text.pairwise_sortedNames _, fun _ => mem_names_iff _⟩

namespace Declaration

/-- **A declaration is built exactly when it is valid.** It is refused for its first fault, and what is built of it
mirrors it. -/
theorem build_iff_valid (declaration : Declaration) :
    ((∃ entity, declaration.build = .ok entity) ↔ declaration.Valid)
      ∧ (∀ fault, declaration.build = .error fault ↔ declaration.FirstFault fault)
      ∧ ∀ entity, declaration.build = .ok entity → entity.Mirrors declaration := by
  refine ⟨?_, fun fault => build_eq_error_iff.trans fault?_eq_some_iff, fun entity built => ?_⟩
  · rw [← fault?_eq_none_iff]
    constructor
    · rintro ⟨entity, built⟩
      exact (build_eq_ok_iff.1 built).1
    · intro sound
      cases built : declaration.build with
      | ok entity => exact ⟨entity, rfl⟩
      | error fault =>
        rw [build_eq_error_iff, sound] at built
        cases built
  · obtain ⟨-, identity, -, idColumn, fields⟩ := build_eq_ok_iff.1 built
    exact Entity.mirrors_of_fields identity idColumn fields

end Declaration

namespace Sample

/-- Parcels: the note can neither be filtered nor sorted on, and has no column. -/
def parcelsDeclaration : Declaration :=
  ⟨"\tParcel ", none, some "p.id",
    [EntityField.plain "weight" .integer, ⟨"note", " ", .string, false, false, none⟩,
      EntityField.related "tagIds" .integer ⟨"parcel_tags", "parcel_id", "_tag1"⟩]⟩

/-- Parcels with two fields more: the first has two names that are no identifiers, the second no column. -/
def spoiltDeclaration : Declaration :=
  { parcelsDeclaration with
    fields := parcelsDeclaration.fields ++
      [EntityField.related "roles" .string ⟨"parcel_roles", "Parcel", "1role"⟩,
        (EntityField.plain "price" .decimal).withColumn ""] }

def spoiltFault : EntityFault :=
  .badIdentifier ("Identifier 'Parcel' is invalid. Must start with a lowercase letter or underscore and "
    ++ "contain only lowercase letters, numbers, and underscores.")

end Sample

open Sample in
/-- Parcels are built; with two fields more that lack something, they are refused for the first. -/
theorem Declaration.build_iff_valid_parcels :
    parcelsDeclaration.Valid
      ∧ (∃ parcels, parcelsDeclaration.build = .ok parcels ∧ parcels.Mirrors parcelsDeclaration)
      ∧ spoiltDeclaration.build = .error spoiltFault ∧ spoiltDeclaration.FirstFault spoiltFault := by
  have valid : parcelsDeclaration.Valid := fault?_eq_none_iff.1 (by decide)
  have spoilt : spoiltDeclaration.build = .error spoiltFault := build_eq_error_iff.2 (by decide +kernel)
  obtain ⟨built, -, mirrors⟩ := build_iff_valid parcelsDeclaration
  obtain ⟨-, refused, -⟩ := build_iff_valid spoiltDeclaration
  obtain ⟨parcels, made⟩ := built.2 valid
  exact ⟨valid, ⟨parcels, made, mirrors parcels made⟩, spoilt, (refused spoiltFault).1 spoilt⟩

end QueryFilter
