/-
The kinds of bound values.

A field declares a kind for its values. What is read at a type is of the kind of its innermost elements, and what
is not read is bound as text, which is of no kind (`Value.ofKind_coerce_iff`). For whole numbers, dates and
timestamps a raw value passes the check exactly when it is read (`Violation.ofValue?_eq_none_iff`), although the
check takes a whole number through binary64 and reading tries 64 bits first. So everything that an accepted request
binds on a field of these types is of the declared kind (`Value.checked_iff_ofKind`).
-/
import QueryFilter.Proofs.Number.Finite
import QueryFilter.Proofs.Service.Compiles
import QueryFilter.Proofs.Sql.Conditions
import QueryFilter.Proofs.Text.Tidy

namespace QueryFilter

/-- The kinds of values that are read at a type of elements; a whole number may be bound as a binary64 number. -/
inductive Value.OfKind : FieldType → Value → Prop where
  | integer (n : Int) : OfKind .integer (.integer n)
  | float (x : Binary64) : OfKind .integer (.float x)
  | decimal (d : Decimal) : OfKind .decimal (.decimal d)
  | boolean (b : Bool) : OfKind .boolean (.boolean b)
  | date (d : Date) : OfKind .date (.date d)
  | timestamp (t : Timestamp) : OfKind .timestamp (.timestamp t)

/-- A value of a kind, or a list of such values. -/
def Value.AllOfKind (element : FieldType) : Value → Prop
  | .list items => items ≠ [] ∧ ∀ item ∈ items, item.OfKind element
  | value => value.OfKind element

/-- The types whose elements are whole numbers, dates or timestamps. -/
def FieldType.IsExact (type : FieldType) : Prop :=
  type.element = .integer ∨ type.element.isTemporal = true

/-! ## Reading -/

namespace Value

theorem OfKind.allOfKind {element : FieldType} {value : Value} (kind : value.OfKind element) :
    value.AllOfKind element := by
  cases kind <;> constructor

theorem ofKind_read? {type : FieldType} {raw : String} {value : Value} (read : read? type raw = some value) :
    value.OfKind type.element := by
  unfold read? at read
  simp only at read
  split at read
  · rename_i element
    rw [element]
    rcases Option.or_eq_some_iff.1 read with whole | ⟨-, number⟩
    · obtain ⟨n, -, rfl⟩ := Option.map_eq_some_iff.1 whole
      exact .integer n
    · obtain ⟨x, -, rfl⟩ := Option.map_eq_some_iff.1 number
      exact .float x
  · rename_i element
    obtain ⟨d, -, rfl⟩ := Option.map_eq_some_iff.1 read
    exact element ▸ .decimal d
  · rename_i element
    obtain ⟨b, -, rfl⟩ := Option.map_eq_some_iff.1 read
    exact element ▸ .boolean b
  · rename_i element
    obtain ⟨d, -, rfl⟩ := Option.map_eq_some_iff.1 read
    exact element ▸ .date d
  · rename_i element
    obtain ⟨t, -, rfl⟩ := Option.map_eq_some_iff.1 read
    exact element ▸ .timestamp t
  · cases read
  · cases read

theorem not_ofKind_text (element : FieldType) (raw : String) : ¬ (text raw).OfKind element := nofun

theorem ofKind_coerce_iff {type : FieldType} {raw : String} :
    (coerce type raw).OfKind type.element ↔ (read? type raw).isSome = true := by
  unfold coerce
  cases read : read? type raw with
  | none =>
    simp [not_ofKind_text]
  | some value => simp [ofKind_read? read]

/-- A value that is not of the declared kind is the raw value as text. -/
theorem coerce_eq_text_iff {type : FieldType} {raw : String} :
    coerce type raw = .text raw ↔ ¬ (coerce type raw).OfKind type.element := by
  constructor
  · rintro same kind
    rw [same] at kind
    exact not_ofKind_text _ _ kind
  · intro other
    rw [ofKind_coerce_iff, Option.not_isSome_iff_eq_none] at other
    rw [coerce, other, Option.getD_none]

end Value

/-! ## Checking -/

theorem Timestamp.ofText?_trim (cs : List Char) : ofText? (Text.trim cs) = ofText? cs := by
  simp only [ofText?, Text.trim_trim]

theorem Date.ofText?_trim (cs : List Char) : ofText? (Text.trim cs) = ofText? cs := by
  simp only [ofText?, Text.trim_trim]

/-- A whole number is read wherever a number is, since a text that writes one writes a finite number. -/
theorem Value.isSome_read?_integer {type : FieldType} (whole : type.element = .integer) (raw : String) :
    (read? type raw).isSome = (number? raw).isSome := by
  unfold read? number?
  rw [whole]
  simp only [Option.isSome_or, Option.isSome_map]
  cases written : Whole.ofText? (Text.trim raw.toList) with
  | none => rw [Option.isSome_none, Bool.false_or]
  | some n => rw [Binary64.isSome_ofText?_of_whole written, Option.isSome_some, Bool.true_or]

/-- A raw value passes the check at an exact type when it is read there. -/
theorem Violation.ofValue?_eq_none_iff {type : FieldType} (exact : type.IsExact) (name raw : String) :
    ofValue? name type.element raw = none ↔ (Value.read? type raw).isSome = true := by
  rcases exact with whole | temporal
  · rw [Value.isSome_read?_integer whole, whole]
    simp only [ofValue?]
    split <;> simp_all
  · unfold ofValue? Value.read?
    cases element : type.element with
    | date =>
      simp only [Option.isSome_map, Date.ofText?_trim]
      split <;> simp_all
    | timestamp =>
      simp only [Option.isSome_map, Timestamp.ofText?_trim]
      split <;> simp_all
    | _ =>
      rw [element] at temporal
      cases temporal

/-! ## Accepted criteria -/

/-- Patterns are looked for in text alone. -/
theorem Violation.isString_of_isPattern {operator : Operator} {field : EntityField}
    (lawful : ofOperator operator field = []) (pattern : operator.isPattern = true) :
    field.type.isString = true := by
  unfold ofOperator at lawful
  simp only [List.append_eq_nil_iff] at lawful
  have asks := lawful.1.1.2
  rw [pattern, Bool.true_and] at asks
  cases string : field.type.isString with
  | true => rfl
  | false => simp [string] at asks

theorem FieldType.IsExact.not_isString {type : FieldType} (exact : type.IsExact) : type.isString = false := by
  cases type with
  | string => rcases exact with whole | temporal <;> contradiction
  | _ => rfl

/-- Every value of an accepted criterion passes the check of its field. -/
theorem Criterion.Accepted.values {entity : Entity} {criterion : Criterion} (accepted : criterion.Accepted entity)
    {field : EntityField} (found : entity.field? criterion.field = some field) :
    ∀ raw ∈ criterion.operand.values, Violation.ofValue? criterion.field field.type.element raw = none := by
  have lawful := accepted.lawful
  unfold Violation.ofCriterion at lawful
  rw [found] at lawful
  simp only at lawful
  split at lawful
  · cases lawful
  · exact List.filterMap_eq_nil_iff.1 (List.append_eq_nil_iff.1 lawful).2

/-- What an accepted criterion binds on a field of an exact type is of the declared kind. -/
theorem Criterion.Accepted.allOfKind {entity : Entity} {criterion : Criterion}
    (accepted : criterion.Accepted entity) {field : EntityField}
    (found : entity.field? criterion.field = some field) (exact : field.type.IsExact) {value : Value}
    (bound : criterion.boundIn? entity = some value) : value.AllOfKind field.type.element := by
  have read : ∀ raw ∈ criterion.operand.values, (Value.coerce field.type raw).OfKind field.type.element :=
    fun raw mem => Value.ofKind_coerce_iff.2
      ((Violation.ofValue?_eq_none_iff exact _ raw).1 (accepted.values found raw mem))
  unfold boundIn? at bound
  rw [found, Option.bind_some] at bound
  unfold bound? at bound
  cases operand : criterion.operand with
  | none =>
    rw [operand] at bound
    cases bound
  | single raw =>
    -- A pattern would be bound as text, but is not accepted on the field.
    have plain : criterion.operator.isPattern = false := by
      obtain ⟨field', found', lawful⟩ := accepted.field
      cases found.symm.trans found'
      cases pattern : criterion.operator.isPattern with
      | false => rfl
      | true => exact absurd (Violation.isString_of_isPattern lawful pattern) (by simp [exact.not_isString])
    rw [operand, plain] at bound
    cases bound
    exact (read raw (by simp [operand, Operand.values])).allOfKind
  | list raws =>
    rw [operand] at bound
    cases bound
    have listed := accepted.listed
    rw [operand] at listed
    refine ⟨by simpa using listed, fun item mem => ?_⟩
    obtain ⟨raw, given, rfl⟩ := List.mem_map.1 mem
    exact read raw (by simpa [operand, Operand.values] using given)

/-- A query that binds the values of the criteria, those on fields of exact types at the declared kind, and behind
them its window. -/
structure Query.BindsKinds (entity : Entity) (request : Request) (query : Query) : Prop where
  parameters : query.parameters.entries =
    Bindings.entriesFrom 1 (request.filters.filterMap (·.boundIn? entity))
      ++ [(limitName, .integer request.limit), (offsetName, .integer request.offset)]
  kinds : ∀ criterion ∈ request.filters, ∀ field, entity.field? criterion.field = some field →
    field.type.IsExact → ∀ value, criterion.boundIn? entity = some value → value.AllOfKind field.type.element

theorem Query.bindsKinds_of_accepted {entity : Entity} {base : String} {request : Request} {query : Query}
    (accepted : request.Accepted entity) (compiled : compile entity base request = .ok query) :
    query.BindsKinds entity request where
  parameters := entries_compile compiled
  kinds criterion mem _ found exact _ bound := (accepted.filters criterion mem).allOfKind found exact bound

/-- **Checked values keep their kind.** At a type of whole numbers, dates or timestamps a raw value passes the
check exactly when it is not bound as text, and then it is bound at the kind of the type. So a request that is
accepted has a query over every base, and binds every value on a field of such a type at the declared kind. -/
theorem Value.checked_iff_ofKind :
    (∀ type : FieldType, type.IsExact → ∀ name raw,
      (Violation.ofValue? name type.element raw = none ↔ coerce type raw ≠ .text raw)
        ∧ (coerce type raw ≠ .text raw → (coerce type raw).OfKind type.element))
    ∧ ∀ (entity : Entity) (request accepted : Request), request.process entity = .ok accepted → ∀ base,
      ∃ query, Query.compile entity base accepted = .ok query ∧ query.BindsKinds entity accepted := by
  constructor
  · intro type exact name raw
    have kept : coerce type raw ≠ .text raw ↔ (coerce type raw).OfKind type.element := by
      rw [Ne, coerce_eq_text_iff, not_not]
    exact ⟨by rw [kept, ofKind_coerce_iff, Violation.ofValue?_eq_none_iff exact], kept.1⟩
  · intro entity request accepted processed base
    have lawful := (Request.accepted_of_process processed).1
    obtain ⟨query, compiled⟩ := lawful.resolved.compile base
    exact ⟨query, compiled, Query.bindsKinds_of_accepted lawful compiled⟩

namespace Sample

def shipmentsDeclaration : Declaration :=
  ⟨"Shipment", some "shipments", some "s.id",
    [⟨"weight", "s.weight", .integer, true, true, none⟩,
      ⟨"packedOn", "s.packed_on", .collection (.collection .date), true, false, none⟩,
      ⟨"arrivedAt", "s.arrived_at", .timestamp, true, true, none⟩,
      ⟨"tagIds", "s.tag_ids", .collection .integer, true, false,
        some ⟨"shipment_tags", "shipment_id", "tag_id"⟩⟩]⟩

theorem fault?_shipmentsDeclaration : shipmentsDeclaration.fault? = none := by decide

/-- Shipments, packed on some days. -/
def shipments : Entity where
  identity := shipmentsDeclaration.identity
  table := "shipments"
  idColumn := shipmentsDeclaration.idColumn
  fields := shipmentsDeclaration.fields
  wellFormed := Declaration.wellFormed_of_fault? fault?_shipmentsDeclaration

/-- The tagged shipments that weigh more than 64 bits hold, packed on one of two days and arrived since. -/
def heavyShipments : Request :=
  { Request.standard with
    filterText := some ("weight:gt:9223372036854775808,packedOn:in:(2024-02-29, 2024-03-01),"
      ++ "arrivedAt:gte:2024-03-02T10:00:00+02:00,tagIds:in:(+3)") }

def heavyShipmentsAccepted : Request :=
  { heavyShipments with
    filters :=
      [⟨"weight", .gt, .single "9223372036854775808", rfl⟩,
        ⟨"packedOn", .oneOf, .list ["2024-02-29", "2024-03-01"], rfl⟩,
        ⟨"arrivedAt", .gte, .single "2024-03-02T10:00:00+02:00", rfl⟩, ⟨"tagIds", .oneOf, .list ["+3"], rfl⟩] }

end Sample

open Sample in
/-- The thirtieth of February is refused, the twenty-ninth bound as a date, among the values of every criterion. -/
theorem Value.checked_iff_ofKind_shipments :
    FieldType.IsExact (.collection (.collection .date))
      ∧ Violation.ofValue? "packedOn" .date " 2024-02-29" = none
      ∧ (coerce (.collection (.collection .date)) " 2024-02-29").OfKind .date
      ∧ coerce (.collection (.collection .date)) "2024-02-30" = .text "2024-02-30"
      ∧ heavyShipments.process shipments = .ok heavyShipmentsAccepted
      ∧ ∃ query, Query.compile shipments "SELECT * FROM shipments s" heavyShipmentsAccepted = .ok query
        ∧ query.BindsKinds shipments heavyShipmentsAccepted := by
  have exact : FieldType.IsExact (.collection (.collection .date)) := .inr rfl
  have passes : Violation.ofValue? "packedOn" .date " 2024-02-29" = none := by decide +kernel
  have refused : Violation.ofValue? "packedOn" .date "2024-02-30" ≠ none := by decide +kernel
  have processed : heavyShipments.process shipments = .ok heavyShipmentsAccepted := by decide +kernel
  obtain ⟨checked, bound⟩ := checked_iff_ofKind
  have good := checked _ exact "packedOn" " 2024-02-29"
  have bad := checked _ exact "packedOn" "2024-02-30"
  exact ⟨exact, passes, good.2 (good.1.1 passes), not_not.1 fun kept => refused (bad.1.2 kept), processed,
    bound shipments heavyShipments heavyShipmentsAccepted processed "SELECT * FROM shipments s"⟩

end QueryFilter
