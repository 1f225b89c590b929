/-
Folding flat rows into nested objects.

Rows are taken one by one into slots: one for each root, in it one for each of its children, and in that one
for each of its grandchildren, all in the order in which they are first seen. A slot keeps the row it was
first seen in, and objects are built from those rows, innermost first.
-/

namespace QueryFilter

/-- The ids in a row of a joined view; a row without a child has no grandchild. -/
structure RowIds (ρ κ : Type) where
  root : ρ → κ
  child : ρ → Option κ
  grandchild : ρ → Option κ

/-- How objects are built from the rows they are first seen in. -/
structure Assembler (ρ α β γ : Type) where
  grandchild : ρ → γ
  child : ρ → List γ → β
  root : ρ → List β → α

namespace Fold

variable {ρ κ α β γ σ : Type} [DecidableEq κ]

/-- The slots with the one for a key updated; a key that has none gets a fresh slot at the end. -/
def update (key : κ) (fresh : σ) (change : σ → σ) : List (κ × σ) → List (κ × σ)
  | [] => [(key, change fresh)]
  | slot :: slots =>
    if slot.1 = key then (key, change slot.2) :: slots else slot :: update key fresh change slots

/-- A child: the row it was first seen in, and the rows of its grandchildren. -/
structure ChildSlot (ρ κ : Type) where
  row : ρ
  grandchildren : List (κ × ρ)

/-- A root: the row it was first seen in, and its children. -/
structure RootSlot (ρ κ : Type) where
  row : ρ
  children : List (κ × ChildSlot ρ κ)

/-- The child's slot after a row. -/
def absorbGrandchild (ids : RowIds ρ κ) (row : ρ) (slot : ChildSlot ρ κ) : ChildSlot ρ κ :=
  match ids.grandchild row with
  | none => slot
  | some key => { slot with grandchildren := update key row id slot.grandchildren }

/-- The root's slot after a row. -/
def absorbChild (ids : RowIds ρ κ) (row : ρ) (slot : RootSlot ρ κ) : RootSlot ρ κ :=
  match ids.child row with
  | none => slot
  | some key => { slot with children := update key ⟨row, []⟩ (absorbGrandchild ids row) slot.children }

/-- The slots after a row. -/
def absorb (ids : RowIds ρ κ) (slots : List (κ × RootSlot ρ κ)) (row : ρ) : List (κ × RootSlot ρ κ) :=
  update (ids.root row) ⟨row, []⟩ (absorbChild ids row) slots

/-- The child built from a slot. -/
def assembleChild (assembler : Assembler ρ α β γ) (slot : ChildSlot ρ κ) : β :=
  assembler.child slot.row (slot.grandchildren.map fun entry => assembler.grandchild entry.2)

/-- The root built from a slot. -/
def assembleRoot (assembler : Assembler ρ α β γ) (slot : RootSlot ρ κ) : α :=
  assembler.root slot.row (slot.children.map fun entry => assembleChild assembler entry.2)

/-- The roots of some rows. -/
def roots (ids : RowIds ρ κ) (assembler : Assembler ρ α β γ) (rows : List ρ) : List α :=
  (rows.foldl (absorb ids) []).map fun entry => assembleRoot assembler entry.2

end Fold

end QueryFilter
