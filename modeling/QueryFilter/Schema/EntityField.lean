/-
The fields of an entity.

A field has a name in filter and sort text, and a column or SQL expression it stands for. The values of a
junction field are kept in a table of their own, which pairs the entity's identifier with related ones.
-/
import QueryFilter.Schema.FieldType
import QueryFilter.Schema.Naming

namespace QueryFilter

/-- A table of pairs: the column with the identifier of the entity, and the column with the related
identifier that is filtered on. -/
structure Junction where
  table : String
  ownerColumn : String
  relatedColumn : String
  deriving DecidableEq, Repr

structure EntityField where
  name : String
  column : String
  type : FieldType
  filterable : Bool
  sortable : Bool
  junction : Option Junction
  deriving DecidableEq, Repr

namespace EntityField

/-- A field that can be filtered and sorted on, in the column of its name in snake case. -/
def plain (name : String) (type : FieldType) : EntityField :=
  ⟨name, Naming.snakeCase name, type, true, true, none⟩

/-- A field of many values kept in a junction table; it can be filtered but not sorted on. -/
def related (name : String) (element : FieldType) (junction : Junction) : EntityField :=
  { plain name (.collection element) with sortable := false, junction := some junction }

def withColumn (field : EntityField) (column : String) : EntityField :=
  { field with column := column }

def withFilterable (field : EntityField) (filterable : Bool) : EntityField :=
  { field with filterable := filterable }

def withSortable (field : EntityField) (sortable : Bool) : EntityField :=
  { field with sortable := sortable }

end EntityField

end QueryFilter
