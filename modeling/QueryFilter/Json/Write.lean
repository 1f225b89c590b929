/-
Writing requests, entities, pages and parameters as structured values.
-/
import QueryFilter.Json.Value
import QueryFilter.Paging.Page
import QueryFilter.Schema.Entity
import QueryFilter.Sql.Parameters

namespace QueryFilter

/-- A text, or `null` when there is none. -/
def Json.ofOptional : Option String → Json
  | some s => .string s
  | none => .null

/-- A list of texts. -/
def Json.ofStrings (texts : List String) : Json :=
  .array (texts.map .string)

def FieldType.toJson : FieldType → Json
  | .collection element => .object [("type", .string "collection"), ("element", element.toJson)]
  | scalar => .object [("type", .string scalar.name)]

def Operand.toJson : Operand → Json
  | .none => .null
  | .single value => .string value
  | .list values => .ofStrings values

def Criterion.toJson (criterion : Criterion) : Json :=
  .object [("field", .string criterion.field), ("operator", .string criterion.operator.code),
    ("value", criterion.operand.toJson)]

def SortKey.toJson (key : SortKey) : Json :=
  .object [("field", .string key.field), ("direction", .string key.direction.code)]

/-- The window and the texts of a request; a text that is not there is left out. -/
def Request.toJson (request : Request) : Json :=
  let text (name : String) : Option String → List (String × Json)
    | some s => [(name, .string s)]
    | none => []
  .object ([("limit", .integer request.limit), ("offset", .integer request.offset)]
    ++ text "filter" request.filterText ++ text "sort" request.sortText)

def Junction.toJson (junction : Junction) : Json :=
  .object [("table", .string junction.table), ("owner_column", .string junction.ownerColumn),
    ("related_column", .string junction.relatedColumn)]

def EntityField.toJson (field : EntityField) : Json :=
  .object ([("name", .string field.name), ("column", .string field.column),
      ("field_type", field.type.toJson), ("filterable", .boolean field.filterable),
      ("sortable", .boolean field.sortable)]
    ++ (match field.junction with
      | some junction => [("junction", junction.toJson)]
      | none => []))

def Entity.toJson (entity : Entity) : Json :=
  .object [("identity", .string entity.identity), ("table_name", .string entity.table),
    ("id_column", .ofOptional entity.idColumn), ("fields", .array (entity.fields.map EntityField.toJson))]

/-- A page, its content written by `write`. -/
def Page.toJson {α : Type} (write : α → Json) (page : Page α) : Json :=
  .object [("content", .array (page.content.map write)), ("page", .integer page.number),
    ("size", .integer page.size), ("totalElements", .integer page.total),
    ("appliedFilters", .ofStrings page.appliedFilters), ("appliedSorts", .ofStrings page.appliedSorts)]

mutual

/-- A bound value without its kind: decimals, dates and timestamps are texts. -/
def Value.toJson : Value → Json
  | .null => .null
  | .text s => .string s
  | .integer n => .integer n
  | .float x => .number x
  | .decimal d => .string d.render
  | .boolean b => .boolean b
  | .date d => .string d.render
  | .timestamp t => .string t.render
  | .list items => .array (Value.listToJson items)

/-- Bound values without their kinds. -/
def Value.listToJson : List Value → List Json
  | [] => []
  | item :: items => item.toJson :: Value.listToJson items

end

/-- Parameters as pairs of a name and a value, in order. -/
def Parameters.toJson (parameters : Parameters) : Json :=
  .object [("entries",
    .array (parameters.entries.map fun entry => .array [.string entry.1, entry.2.toJson]))]

end QueryFilter
