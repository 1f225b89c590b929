/-
The meaning of queries over a table.

A flat table has rows, a value of every column expression in a row, and the rows in which a condition holds with the
value bound in it. A query for roots means this over it: its rows are those in which all conditions hold
(`FlatTable.matching`), a group is the rows among them that agree on the columns of GROUP BY (`FlatTable.groups`), the
order is lexicographic in the terms of ORDER BY (`FlatTable.Precedes`), and the window is cut from the groups
(`FlatTable.window`).

A source answers a plan by the meaning of its statements (`FlatTable.Answers`): whatever query over the columns of the
lookup a statement is the SQL of, that query is what it is answered with.
-/
import Mathlib.Data.List.Sort
import QueryFilter.Joined.Lookup
import QueryFilter.Proofs.Joined.Grouping
import QueryFilter.Proofs.Joined.RootQuery

namespace QueryFilter

/-- A finite table: its rows, the value of a column expression in a row, and whether a condition holds in a row with
the value bound in it. -/
structure FlatTable (ρ ν : Type) where
  rows : List ρ
  value : String → ρ → ν
  holds : Clause → ρ → Bool

/-! ## The order of rows -/

section

variable {ρ ν : Type} [LinearOrder ν]

/-- Whether a value comes before another in a direction. -/
def Direction.Before : Direction → ν → ν → Prop
  | asc, x, y => x < y
  | desc, x, y => y < x

instance (direction : Direction) (x y : ν) : Decidable (direction.Before x y) := by
  cases direction <;> exact inferInstanceAs (Decidable (_ < _))

theorem Direction.before_trichotomy (direction : Direction) (x y : ν) :
    direction.Before x y ∨ x = y ∨ direction.Before y x := by
  cases direction with
  | asc => exact lt_trichotomy x y
  | desc =>
    rcases lt_trichotomy y x with h | h | h
    · exact .inl h
    · exact .inr (.inl h.symm)
    · exact .inr (.inr h)

theorem Direction.Before.trans {direction : Direction} {x y z : ν} (left : direction.Before x y)
    (right : direction.Before y z) : direction.Before x z := by
  cases direction with
  | asc => exact lt_trans left right
  | desc => exact lt_trans right left

theorem Direction.Before.asymm {direction : Direction} {x y : ν} (left : direction.Before x y) :
    ¬ direction.Before y x := by
  cases direction with
  | asc => exact lt_asymm left
  | desc => exact lt_asymm left

theorem Direction.Before.ne {direction : Direction} {x y : ν} (h : direction.Before x y) : x ≠ y := by
  rintro rfl
  exact h.asymm h

namespace FlatTable

/-- Whether a row may be listed before another: it is before it in the first term in which they differ. -/
def Precedes (table : FlatTable ρ ν) : List OrderTerm → ρ → ρ → Prop
  | [], _, _ => True
  | term :: terms, r, s =>
    term.direction.Before (table.value term.column r) (table.value term.column s)
      ∨ table.value term.column r = table.value term.column s ∧ table.Precedes terms r s

instance decidablePrecedes (table : FlatTable ρ ν) : (terms : List OrderTerm) → (r s : ρ) →
    Decidable (table.Precedes terms r s)
  | [], _, _ => isTrue trivial
  | _ :: terms, r, s =>
    have := table.decidablePrecedes terms r s
    inferInstanceAs (Decidable (_ ∨ _ ∧ _))

variable {table : FlatTable ρ ν} {terms : List OrderTerm} {r s t : ρ}

theorem precedes_total (terms : List OrderTerm) (r s : ρ) :
    table.Precedes terms r s ∨ table.Precedes terms s r := by
  induction terms with
  | nil => exact .inl trivial
  | cons term terms ih =>
    rcases term.direction.before_trichotomy (table.value term.column r) (table.value term.column s)
      with before | same | after
    · exact .inl (.inl before)
    · rcases ih with left | right
      · exact .inl (.inr ⟨same, left⟩)
      · exact .inr (.inr ⟨same.symm, right⟩)
    · exact .inr (.inl after)

theorem Precedes.trans (left : table.Precedes terms r s) (right : table.Precedes terms s t) :
    table.Precedes terms r t := by
  induction terms with
  | nil => trivial
  | cons _ terms ih =>
    rcases left with before | ⟨same, left⟩
    · rcases right with before' | ⟨same', -⟩
      · exact .inl (before.trans before')
      · exact .inl (same' ▸ before)
    · rcases right with before' | ⟨same', right⟩
      · exact .inl (same ▸ before')
      · exact .inr ⟨same.trans same', ih left right⟩

/-- Rows that may be listed either way agree in every term. -/
theorem Precedes.antisymm (left : table.Precedes terms r s) (right : table.Precedes terms s r) :
    ∀ column ∈ terms.map (·.column), table.value column r = table.value column s := by
  induction terms with
  | nil => simp
  | cons term terms ih =>
    rcases left with before | ⟨same, left⟩
    · rcases right with after | ⟨same, -⟩
      · exact absurd after before.asymm
      · exact absurd same.symm before.ne
    · rcases right with after | ⟨-, right⟩
      · exact absurd same.symm after.ne
      · intro column mem
        rcases List.mem_cons.1 mem with rfl | later
        · exact same
        · exact ih left right column later

/-- The order of rows depends on their values in the terms alone. -/
theorem Precedes.congr {r' s' : ρ} (h : table.Precedes terms r s)
    (left : ∀ column ∈ terms.map (·.column), table.value column r = table.value column r')
    (right : ∀ column ∈ terms.map (·.column), table.value column s = table.value column s') :
    table.Precedes terms r' s' := by
  induction terms with
  | nil => trivial
  | cons _ terms ih =>
    simp only [List.map_cons, List.forall_mem_cons] at left right
    rcases h with before | ⟨same, rest⟩
    · exact .inl (left.1 ▸ right.1 ▸ before)
    · exact .inr ⟨left.1 ▸ right.1 ▸ same, ih rest left.2 right.2⟩

instance : Std.Total (table.Precedes terms) := ⟨precedes_total terms⟩

instance : IsTrans ρ (table.Precedes terms) := ⟨fun _ _ _ => Precedes.trans⟩

end FlatTable

end

/-! ## The meaning of queries -/

section

variable {ρ κ ν α β γ : Type} [DecidableEq κ] [LinearOrder ν] {m : Type → Type} [Monad m]

namespace FlatTable

section

variable (table : FlatTable ρ ν) (query : RootQuery)

/-- The rows in which every condition of a query holds. -/
def matching : List ρ :=
  table.rows.filter fun row => query.conditions.all (table.holds · row)

/-- The values of a row by which it is grouped. -/
def groupKey (row : ρ) : List ν :=
  query.groupBy.map (table.value · row)

/-- The groups of the matching rows, each by its key and its first row. -/
def keyedGroups : List (List ν × ρ) :=
  Fold.firsts (fun row => some (table.groupKey query row)) (table.matching query)

/-- The groups of the matching rows, each by its first row, in order. -/
def groups : List ρ :=
  ((table.keyedGroups query).map (·.2)).insertionSort (table.Precedes query.orderBy)

/-- The distinct roots of the matching rows. -/
def matchingRoots (ids : RowIds ρ κ) : List κ :=
  firstOccurrences ((table.matching query).map ids.root)

/-- The roots of the groups in the window of a query, one for each group. -/
def window (ids : RowIds ρ κ) : List κ :=
  (((table.groups query).map ids.root).drop query.offset.toNat).take query.limit.toNat

end

/-- The rows of some roots. -/
def rowsOf (table : FlatTable ρ ν) (ids : RowIds ρ κ) (wanted : List κ) : List ρ :=
  table.rows.filter fun row => ids.root row ∈ wanted

/-- The root id expression of a view tells the roots of the table's rows apart. -/
def Identifies (table : FlatTable ρ ν) (roots : RootView ρ κ α β γ) : Prop :=
  ∀ r ∈ table.rows, ∀ s ∈ table.rows,
    table.value roots.view.rootId r = table.value roots.view.rootId s ↔ roots.ids.root r = roots.ids.root s

/-- A source that answers the statements of a plan by their meaning over a table. The number of roots is that of any
query the count statement is the SQL of; the root ids are those in the window of any query the id statement is the
SQL of; and the rows are all there are of the roots asked for, in the order of any query whose SQL asks for them. -/
structure Answers (table : FlatTable ρ ν) (roots : RootView ρ κ α β γ) (entity : Entity) (plan : JoinPlan)
    (source : RowSource m ρ κ) : Prop where
  count : ∀ query : RootQuery, query.Over roots.view entity → plan.count = query.countStatement roots.view →
    source.count plan.count = pure ((table.matchingRoots query roots.ids).length : Int)
  rootIds : ∀ query : RootQuery, query.Over roots.view entity → plan.rootIds = query.rootIdsStatement roots.view →
    source.rootIds plan.rootIds = pure (table.window query roots.ids)
  rows : ∀ (wanted : List κ) (query : RootQuery), query.Over roots.view entity →
    plan.rows (wanted.map roots.bindId) = query.rowsStatement roots.view (wanted.map roots.bindId) →
    ∃ rows, source.rows (plan.rows (wanted.map roots.bindId)) = pure rows
      ∧ rows.Perm (table.rowsOf roots.ids wanted) ∧ rows.Pairwise (table.Precedes query.orderBy)

end FlatTable

end

end QueryFilter
