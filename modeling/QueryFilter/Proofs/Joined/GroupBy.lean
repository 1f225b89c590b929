/-
The fold is a group-by.

The nested objects of some rows are said here without slots, from the rows alone. Among the rows of a group an
object is made for each distinct key, in the order in which the keys first occur, from the first row that has
the key (`perKey`). Roots are made for the root ids of all rows, children for the child ids in the rows of
their root, and grandchildren for the grandchild ids in the rows of their root and their child
(`groupedRoots`); so an id that occurs under two parents makes an object under each of them.

The fold gives these objects, however the rows of its roots are mixed (`roots_eq_groupedRoots`).
-/
import Mathlib.Data.List.Basic
import QueryFilter.Proofs.Joined.Grouping

namespace QueryFilter.Fold

variable {ρ κ α β γ τ : Type} [DecidableEq κ]

/-- The distinct keys among the rows of a group, in the order of first occurrence. -/
def distinctKeys (key : ρ → Option κ) (group : ρ → Bool) (rows : List ρ) : List κ :=
  ((rows.filter group).filterMap key).eraseDups

/-- The first row of a group with a key. -/
def firstRow? (key : ρ → Option κ) (group : ρ → Bool) (rows : List ρ) (k : κ) : Option ρ :=
  rows.find? fun row => group row && key row = some k

/-- Every distinct key of a group has a first row. -/
theorem isSome_firstRow? {key : ρ → Option κ} {group : ρ → Bool} {rows : List ρ} {k : κ}
    (mem : k ∈ distinctKeys key group rows) : (firstRow? key group rows k).isSome := by
  obtain ⟨row, there, has⟩ := List.mem_filterMap.1 (List.mem_eraseDups.1 mem)
  obtain ⟨inRows, inGroup⟩ := List.mem_filter.1 there
  exact List.find?_isSome.2 ⟨row, inRows, by simp [inGroup, has]⟩

/-- The objects made for the distinct keys among the rows of a group, each from its key and from the first
row of the group that has it. -/
def perKey (key : ρ → Option κ) (group : ρ → Bool) (make : κ → ρ → τ) (rows : List ρ) : List τ :=
  (distinctKeys key group rows).attach.map fun ⟨k, mem⟩ =>
    make k ((firstRow? key group rows k).get (isSome_firstRow? mem))

section

variable (ids : RowIds ρ κ) (assembler : Assembler ρ α β γ) (rows : List ρ)

/-- The grandchildren of a child of a root. -/
def groupedGrandchildren (root child : κ) : List γ :=
  perKey ids.grandchild (fun row => ids.root row = root && ids.child row = some child)
    (fun _ first => assembler.grandchild first) rows

/-- The children of a root. -/
def groupedChildren (root : κ) : List β :=
  perKey ids.child (fun row => ids.root row = root)
    (fun child first => assembler.child first (groupedGrandchildren ids assembler rows root child)) rows

/-- The roots of some rows. -/
def groupedRoots : List α :=
  perKey ids.rootKey (fun _ => true)
    (fun root first => assembler.root first (groupedChildren ids assembler rows root)) rows

end

/-- What is listed with a key is the first row that has it. -/
theorem find?_of_mem_firsts {key : ρ → Option κ} {rows : List ρ} {entry : κ × ρ}
    (mem : entry ∈ firsts key rows) : (rows.find? fun row => key row = some entry.1) = some entry.2 := by
  induction rows with
  | nil => cases mem
  | cons row rows ih =>
    simp only [firsts] at mem
    cases here : key row with
    | none =>
      rw [here] at mem
      rw [List.find?_cons_of_neg (by simp [here])]
      exact ih mem
    | some k =>
      rw [here] at mem
      rcases List.mem_cons.1 mem with rfl | later
      · exact List.find?_cons_of_pos (by simp [here])
      · obtain ⟨there, other⟩ := List.mem_filter.1 later
        have ne : k ≠ entry.1 := Ne.symm (by simpa using other)
        rw [List.find?_cons_of_neg (by simpa [here] using ne)]
        exact ih there

theorem perKey_eq_filterMap (key : ρ → Option κ) (group : ρ → Bool) (make : κ → ρ → τ) (rows : List ρ) :
    perKey key group make rows =
      (distinctKeys key group rows).filterMap fun k => (firstRow? key group rows k).map (make k) := by
  unfold perKey
  conv_rhs => rw [← List.attach_map_subtype_val (distinctKeys key group rows), List.filterMap_map]
  rw [← List.filterMap_eq_map]
  refine List.filterMap_congr fun ⟨k, mem⟩ _ => ?_
  obtain ⟨row, first⟩ := Option.isSome_iff_exists.1 (isSome_firstRow? mem)
  simp [first]

/-- The distinct keys of a group are listed with the rows the objects are made from. -/
theorem perKey_eq_map_firsts (key : ρ → Option κ) (group : ρ → Bool) (make : κ → ρ → τ) (rows : List ρ) :
    perKey key group make rows = (firsts key (rows.filter group)).map fun entry => make entry.1 entry.2 := by
  have made : ∀ entry ∈ firsts key (rows.filter group),
      (firstRow? key group rows entry.1).map (make entry.1) = some (make entry.1 entry.2) := by
    intro entry mem
    have first := find?_of_mem_firsts mem
    simp only [List.find?_filter, Bool.decide_and, Bool.decide_eq_true, decide_eq_true_eq] at first
    rw [firstRow?, first, Option.map_some]
  rw [perKey_eq_filterMap, distinctKeys, ← firstOccurrences_eq_eraseDups, ← keys_firsts, List.filterMap_map,
    ← List.filterMap_eq_map]
  exact List.filterMap_congr made

theorem groupedGrandchildren_eq (ids : RowIds ρ κ) (assembler : Assembler ρ α β γ) (rows : List ρ)
    (root child : κ) :
    groupedGrandchildren ids assembler rows root child =
      nestGrandchildren ids assembler (ofKey ids.child child (ofKey ids.rootKey root rows)) := by
  unfold groupedGrandchildren nestGrandchildren ofKey
  rw [perKey_eq_map_firsts, List.filter_filter]
  simp only [RowIds.rootKey, Option.some.injEq, Bool.and_comm]

theorem groupedChildren_eq (ids : RowIds ρ κ) (assembler : Assembler ρ α β γ) (rows : List ρ) (root : κ) :
    groupedChildren ids assembler rows root = nestChildren ids assembler (ofKey ids.rootKey root rows) := by
  unfold groupedChildren nestChildren
  rw [perKey_eq_map_firsts]
  simp only [groupedGrandchildren_eq, ofKey, RowIds.rootKey, Option.some.injEq]

/-- **The fold is a group-by.** Its roots are one for each root id, its children one for each child id under a
root, its grandchildren one for each grandchild id under a child of a root, each made from the first row with
these ids and all standing in the order of these rows. -/
theorem roots_eq_groupedRoots (ids : RowIds ρ κ) (assembler : Assembler ρ α β γ) (rows : List ρ) :
    roots ids assembler rows = groupedRoots ids assembler rows := by
  rw [roots_eq_nestRoots]
  unfold nestRoots groupedRoots
  rw [perKey_eq_map_firsts, List.filter_eq_self.2 fun _ _ => rfl]
  simp only [groupedChildren_eq]

/-- Rows of two roots in turn. Child 7 occurs under both roots, and so does grandchild 5 under two children; of
rows with the same ids the first one stays. -/
example :
    let rows : List (Nat × Option Nat × Option Nat × String) :=
      [(1, some 7, some 5, "a"), (2, none, some 5, "b"), (1, some 8, some 5, "c"), (2, some 7, none, "d"),
        (1, some 7, some 5, "e"), (2, some 7, some 6, "f"), (1, some 7, some 4, "g")]
    let ids : RowIds (Nat × Option Nat × Option Nat × String) Nat := ⟨(·.1), (·.2.1), (·.2.2.1)⟩
    roots ids ⟨(·.2.2.2), fun row grandchildren => (row.2.2.2, grandchildren),
        fun row children => (row.2.2.2, children)⟩ rows =
      [("a", [("a", ["a", "g"]), ("c", ["c"])]), ("b", [("d", ["f"])])] := by
  decide

end QueryFilter.Fold
