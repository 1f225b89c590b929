/-
Folding rows is grouping them.

`nestRoots` says what the nested objects of some rows are, one level at a time: the rows are grouped by root,
those of a root by child and those of a child by grandchild, groups standing in the order of their first
rows. The fold does all levels in one pass (`roots_eq_nestRoots`): the slot of a key holds what the rows of
that key alone make of it (`foldl_gather`).
-/
import QueryFilter.Joined.Fold
import QueryFilter.Proofs.Joined.Occurrences

namespace QueryFilter

/-- The root of a row as a key every row has. -/
def RowIds.rootKey {ρ κ : Type} (ids : RowIds ρ κ) (row : ρ) : Option κ :=
  some (ids.root row)

namespace Fold

variable {ρ κ α β γ σ : Type} [DecidableEq κ]

/-- The keys of some rows with the row each is first seen in, in that order; rows without a key have none. -/
def firsts (key : ρ → Option κ) : List ρ → List (κ × ρ)
  | [] => []
  | row :: rows =>
    match key row with
    | none => firsts key rows
    | some k => (k, row) :: (firsts key rows).filter fun entry => entry.1 ≠ k

/-- The rows with a key. -/
def ofKey (key : ρ → Option κ) (k : κ) (rows : List ρ) : List ρ :=
  rows.filter fun row => key row = some k

/-- The grandchildren of a child with the given rows. -/
def nestGrandchildren (ids : RowIds ρ κ) (assembler : Assembler ρ α β γ) (rows : List ρ) : List γ :=
  (firsts ids.grandchild rows).map fun entry => assembler.grandchild entry.2

/-- The children of a root with the given rows. -/
def nestChildren (ids : RowIds ρ κ) (assembler : Assembler ρ α β γ) (rows : List ρ) : List β :=
  (firsts ids.child rows).map fun entry =>
    assembler.child entry.2 (nestGrandchildren ids assembler (ofKey ids.child entry.1 rows))

/-- The roots of some rows. -/
def nestRoots (ids : RowIds ρ κ) (assembler : Assembler ρ α β γ) (rows : List ρ) : List α :=
  (firsts ids.rootKey rows).map fun entry =>
    assembler.root entry.2 (nestChildren ids assembler (ofKey ids.rootKey entry.1 rows))

/-- The ids of the roots of some rows, in the order of the nested roots. -/
def rootIds (ids : RowIds ρ κ) (rows : List ρ) : List κ :=
  (firsts ids.rootKey rows).map (·.1)

/-! ## First rows -/

theorem keys_firsts (key : ρ → Option κ) (rows : List ρ) :
    (firsts key rows).map (·.1) = firstOccurrences (rows.filterMap key) := by
  induction rows with
  | nil => rfl
  | cons row rows ih =>
    simp only [firsts]
    cases here : key row with
    | none => rw [ih, List.filterMap_cons_none here]
    | some k =>
      rw [List.filterMap_cons_some here, firstOccurrences, ← ih, List.map_cons, List.filter_map]
      rfl

theorem nodup_keys_firsts (key : ρ → Option κ) (rows : List ρ) : ((firsts key rows).map (·.1)).Nodup := by
  rw [keys_firsts]
  exact nodup_firstOccurrences _

theorem rootIds_eq (ids : RowIds ρ κ) (rows : List ρ) : rootIds ids rows = firstOccurrences (rows.map ids.root) := by
  rw [rootIds, keys_firsts, ← List.filterMap_eq_map]
  rfl

theorem nodup_rootIds (ids : RowIds ρ κ) (rows : List ρ) : (rootIds ids rows).Nodup :=
  nodup_keys_firsts _ rows

theorem key_of_mem_firsts {key : ρ → Option κ} {rows : List ρ} {entry : κ × ρ}
    (mem : entry ∈ firsts key rows) : entry.2 ∈ rows ∧ key entry.2 = some entry.1 := by
  induction rows with
  | nil => cases mem
  | cons row rows ih =>
    simp only [firsts] at mem
    cases here : key row with
    | none =>
      rw [here] at mem
      obtain ⟨there, found⟩ := ih mem
      exact ⟨List.mem_cons_of_mem _ there, found⟩
    | some k =>
      rw [here] at mem
      rcases List.mem_cons.1 mem with rfl | later
      · exact ⟨List.mem_cons_self, here⟩
      · obtain ⟨there, found⟩ := ih (List.mem_filter.1 later).1
        exact ⟨List.mem_cons_of_mem _ there, found⟩

/-- First rows stand in the order of the rows. -/
theorem firsts_sublist (key : ρ → Option κ) (rows : List ρ) : ((firsts key rows).map (·.2)).Sublist rows := by
  induction rows with
  | nil => exact .slnil
  | cons row rows ih =>
    simp only [firsts]
    cases key row with
    | none => exact ih.cons row
    | some k =>
      have kept : (((firsts key rows).filter fun entry => entry.1 ≠ k).map (·.2)).Sublist rows :=
        (List.filter_sublist.map _).trans ih
      exact kept.cons_cons row

theorem firsts_root (ids : RowIds ρ κ) (rows : List ρ) :
    ((firsts ids.rootKey rows).map (·.2)).map ids.root = rootIds ids rows := by
  rw [List.map_map, rootIds]
  refine List.map_congr_left fun entry mem => ?_
  exact Option.some.inj (key_of_mem_firsts mem).2

/-- The same rows in another order have the same keys. -/
theorem keys_firsts_perm (key : ρ → Option κ) {rows rows' : List ρ} (perm : rows.Perm rows') :
    ((firsts key rows).map (·.1)).Perm ((firsts key rows').map (·.1)) := by
  refine (List.perm_ext_iff_of_nodup (nodup_keys_firsts key rows) (nodup_keys_firsts key rows')).2 fun k => ?_
  rw [keys_firsts, keys_firsts, mem_firstOccurrences, mem_firstOccurrences]
  exact (perm.filterMap key).mem_iff

/-- Rows that give a root the children and grandchildren it has in a table. -/
structure SameDescendants (ids : RowIds ρ κ) (rows table : List ρ) (root : κ) : Prop where
  children : ((firsts ids.child (ofKey ids.rootKey root rows)).map (·.1)).Perm
    ((firsts ids.child (ofKey ids.rootKey root table)).map (·.1))
  grandchildren : ∀ child,
    ((firsts ids.grandchild (ofKey ids.child child (ofKey ids.rootKey root rows))).map (·.1)).Perm
      ((firsts ids.grandchild (ofKey ids.child child (ofKey ids.rootKey root table))).map (·.1))

/-- All rows of a root, in whatever order, give it all its descendants. -/
theorem SameDescendants.of_perm {ids : RowIds ρ κ} {rows table : List ρ} {root : κ}
    (all : (ofKey ids.rootKey root rows).Perm (ofKey ids.rootKey root table)) :
    SameDescendants ids rows table root where
  children := keys_firsts_perm _ all
  grandchildren _ := keys_firsts_perm _ (all.filter _)

theorem ofKey_cons_self {key : ρ → Option κ} {k : κ} {row : ρ} (here : key row = some k) (rows : List ρ) :
    ofKey key k (row :: rows) = row :: ofKey key k rows :=
  List.filter_cons_of_pos (by simpa using here)

theorem ofKey_cons_other {key : ρ → Option κ} {k : κ} {row : ρ} (other : key row ≠ some k) (rows : List ρ) :
    ofKey key k (row :: rows) = ofKey key k rows :=
  List.filter_cons_of_neg (by simpa using other)

/-! ## Slots by key -/

/-- The slots after a row that goes into the slot of its key. -/
def gather (key : ρ → Option κ) (fresh : ρ → σ) (change : ρ → σ → σ) (slots : List (κ × σ)) (row : ρ) :
    List (κ × σ) :=
  match key row with
  | none => slots
  | some k => update k (fresh row) (change row) slots

theorem update_of_not_mem {k : κ} {slots : List (κ × σ)} (new : k ∉ slots.map (·.1)) (fresh : σ)
    (change : σ → σ) : update k fresh change slots = slots ++ [(k, change fresh)] := by
  induction slots with
  | nil => rfl
  | cons slot slots ih =>
    simp only [List.map_cons, List.mem_cons, not_or] at new
    rw [update, if_neg (Ne.symm new.1), ih new.2, List.cons_append]

theorem update_of_mem {k : κ} {slots : List (κ × σ)} (distinct : (slots.map (·.1)).Nodup)
    (old : k ∈ slots.map (·.1)) (fresh : σ) (change : σ → σ) :
    update k fresh change slots = slots.map fun slot => (slot.1, if slot.1 = k then change slot.2 else slot.2) := by
  induction slots with
  | nil => cases old
  | cons slot slots ih =>
    obtain ⟨absent, others⟩ := List.nodup_cons.1 distinct
    by_cases same : slot.1 = k
    · subst same
      have untouched : ∀ s ∈ slots, (s.1, if s.1 = slot.1 then change s.2 else s.2) = s := by
        intro s mem
        have other : s.1 ≠ slot.1 := by
          intro same
          refine absent ?_
          simp only [← same]
          exact List.mem_map_of_mem mem
        rw [if_neg other]
      rw [update, if_pos rfl, List.map_cons, if_pos rfl, List.map_congr_left untouched, List.map_id']
    · rw [List.map_cons, List.mem_cons] at old
      have later := old.resolve_left (Ne.symm same)
      rw [update, if_neg same, ih others later, List.map_cons, if_neg same]

/-- Of a row whose key is known already, nothing is new. -/
theorem unseen_cons_old {key : ρ → Option κ} {row : ρ} {k : κ} (here : key row = some k) {keys : List κ}
    (old : k ∈ keys) (rows : List ρ) :
    (firsts key (row :: rows)).filter (fun entry => entry.1 ∉ keys) =
      (firsts key rows).filter fun entry => entry.1 ∉ keys := by
  simp only [firsts, here]
  rw [List.filter_cons_of_neg (by simpa using old), List.filter_filter]
  refine List.filter_congr fun entry _ => ?_
  by_cases same : entry.1 = k
  · simp [same, old]
  · simp [same]

/-- A row whose key is not known comes first, and its key is known from then on. -/
theorem unseen_cons_new {key : ρ → Option κ} {row : ρ} {k : κ} (here : key row = some k) {keys : List κ}
    (new : k ∉ keys) (rows : List ρ) :
    (firsts key (row :: rows)).filter (fun entry => entry.1 ∉ keys) =
      (k, row) :: (firsts key rows).filter fun entry => entry.1 ∉ keys ++ [k] := by
  simp only [firsts, here]
  rw [List.filter_cons_of_pos (by simpa using new), List.filter_filter]
  congr 1
  refine List.filter_congr fun entry _ => ?_
  by_cases same : entry.1 = k <;> simp [same]

/-- The slot of a key holds what the rows of that key make of it, one after the other. -/
theorem foldl_gather (key : ρ → Option κ) (fresh : ρ → σ) (change : ρ → σ → σ) (rows : List ρ)
    {slots : List (κ × σ)} (distinct : (slots.map (·.1)).Nodup) :
    rows.foldl (gather key fresh change) slots =
      slots.map (fun slot => (slot.1, (ofKey key slot.1 rows).foldl (fun s row => change row s) slot.2))
        ++ ((firsts key rows).filter fun entry => entry.1 ∉ slots.map (·.1)).map fun entry =>
          (entry.1, (ofKey key entry.1 rows).foldl (fun s row => change row s) (fresh entry.2)) := by
  induction rows generalizing slots with
  | nil => simp [firsts, ofKey]
  | cons row rows ih =>
    rw [List.foldl_cons, gather]
    cases here : key row with
    | none =>
      have pass (k : κ) : ofKey key k (row :: rows) = ofKey key k rows :=
        ofKey_cons_other (by simp [here]) rows
      simp only [firsts, here, pass, ih distinct]
    | some k =>
      have other {k' : κ} (ne : k' ≠ k) : ofKey key k' (row :: rows) = ofKey key k' rows :=
        ofKey_cons_other (by simpa [here] using Ne.symm ne) rows
      -- A known key changes its slot and no other; a new one gets a slot, and is known from then on.
      by_cases old : k ∈ slots.map (·.1)
      · have keys : (slots.map fun s => (s.1, if s.1 = k then change row s.2 else s.2)).map (·.1) =
            slots.map (·.1) := by simp
        simp only
        rw [update_of_mem distinct old, ih (by rwa [keys]), keys, unseen_cons_old here old, List.map_map]
        congr 1
        · refine List.map_congr_left fun slot _ => ?_
          by_cases same : slot.1 = k
          · simp [same, ofKey_cons_self here]
          · simp [same, other same]
        · refine List.map_congr_left fun entry mem => ?_
          have new : entry.1 ≠ k := by
            rintro rfl
            simp [old] at mem
          rw [other new]
      · have keys : (slots ++ [(k, change row (fresh row))]).map (·.1) = slots.map (·.1) ++ [k] := by simp
        have distinct' : (slots.map (·.1) ++ [k]).Nodup := by
          rw [List.nodup_append]
          refine ⟨distinct, by simp, ?_⟩
          intro x mem y last
          rcases List.mem_singleton.1 last with rfl
          exact fun same => old (same ▸ mem)
        simp only
        rw [update_of_not_mem old, ih (by rwa [keys]), keys, unseen_cons_new here old, List.map_append,
          List.append_assoc]
        congr 1
        · refine List.map_congr_left fun slot mem => ?_
          have ne : slot.1 ≠ k := fun h => old (h ▸ List.mem_map_of_mem mem)
          rw [other ne]
        · rw [List.map_cons, List.map_cons, List.map_nil, List.singleton_append, ofKey_cons_self here,
            List.foldl_cons]
          congr 1
          refine List.map_congr_left fun entry mem => ?_
          have ne : entry.1 ≠ k := by
            rintro rfl
            simp at mem
          rw [other ne]

/-! ## The fold -/

section

variable (ids : RowIds ρ κ)

theorem foldl_absorbGrandchild (rows : List ρ) (slot : ChildSlot ρ κ) :
    rows.foldl (fun slot row => absorbGrandchild ids row slot) slot =
      ⟨slot.row, rows.foldl (gather ids.grandchild id fun _ kept => kept) slot.grandchildren⟩ := by
  induction rows generalizing slot with
  | nil => rfl
  | cons row rows ih =>
    rw [List.foldl_cons, List.foldl_cons, ih, absorbGrandchild, gather]
    cases ids.grandchild row with
    | none => rfl
    | some key => rfl

theorem foldl_absorbChild (rows : List ρ) (slot : RootSlot ρ κ) :
    rows.foldl (fun slot row => absorbChild ids row slot) slot =
      ⟨slot.row, rows.foldl (gather ids.child (⟨·, []⟩) (absorbGrandchild ids)) slot.children⟩ := by
  induction rows generalizing slot with
  | nil => rfl
  | cons row rows ih =>
    rw [List.foldl_cons, List.foldl_cons, ih, absorbChild, gather]
    cases ids.child row with
    | none => rfl
    | some key => rfl

/-- The slots of some keys, one for each first row. -/
theorem foldl_gather_nil (key : ρ → Option κ) (fresh : ρ → σ) (change : ρ → σ → σ) (rows : List ρ) :
    rows.foldl (gather key fresh change) [] =
      (firsts key rows).map fun entry =>
        (entry.1, (ofKey key entry.1 rows).foldl (fun s row => change row s) (fresh entry.2)) := by
  have distinct : (([] : List (κ × σ)).map (·.1)).Nodup := List.nodup_nil
  rw [foldl_gather key fresh change rows distinct]
  simp only [List.map_nil, List.not_mem_nil, not_false_eq_true, decide_true, List.nil_append]
  rw [List.filter_eq_self.2 fun _ _ => rfl]

theorem grandchildren_eq (rows : List ρ) :
    rows.foldl (gather ids.grandchild id fun _ kept => kept) [] = firsts ids.grandchild rows := by
  have kept (rows : List ρ) (row : ρ) : rows.foldl (fun kept _ => kept) row = row := by
    induction rows with
    | nil => rfl
    | cons _ rows ih => exact ih
  rw [foldl_gather_nil]
  simp only [kept, id, List.map_id']

/-- **The fold groups the rows.** Its roots are those of the rows grouped level by level. -/
theorem roots_eq_nestRoots (assembler : Assembler ρ α β γ) (rows : List ρ) :
    roots ids assembler rows = nestRoots ids assembler rows := by
  have absorbed : rows.foldl (absorb ids) [] =
      rows.foldl (gather ids.rootKey (⟨·, []⟩) (absorbChild ids)) [] := rfl
  unfold roots nestRoots
  rw [absorbed, foldl_gather_nil, List.map_map]
  refine List.map_congr_left fun root _ => ?_
  simp only [Function.comp_apply, assembleRoot, foldl_absorbChild, foldl_gather_nil, List.map_map, nestChildren]
  congr 1
  refine List.map_congr_left fun child _ => ?_
  simp only [Function.comp_apply, assembleChild, foldl_absorbGrandchild, grandchildren_eq, nestGrandchildren]

end

end Fold

end QueryFilter
