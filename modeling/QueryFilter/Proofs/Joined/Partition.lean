/-
The pages of a lookup, together.

A page shows the roots of the groups in its window, and there may be more groups than roots. So the pages show
every matching root once exactly when each has groups in one window alone, among as many windows as there are
pages (`RootView.pages_partition_iff`). Sorting by what has one value in a root is enough for that; sorting by
a column of its children is not, since a root then has a group for each value.
-/
import Mathlib.Data.List.Pairwise
import QueryFilter.Proofs.Joined.Slice
import QueryFilter.Proofs.Paging.Window

namespace QueryFilter

/-! ## Windows of a list -/

namespace FlatTable

variable {κ : Type}

/-- Lists without repetitions, inside of one, are that one together when each of its elements is in one. -/
theorem flatMap_range_perm_iff {all : List κ} (distinct : all.Nodup) {part : Nat → List κ}
    (distinctParts : ∀ i, (part i).Nodup) (inside : ∀ i, ∀ k ∈ part i, k ∈ all) (count : Nat) :
    ((List.range count).flatMap part).Perm all ↔ ∀ k ∈ all, ∃! i, i < count ∧ k ∈ part i := by
  constructor
  · intro perm k mem
    have disjoint := (List.nodup_flatMap.1 (perm.nodup_iff.2 distinct)).2
    obtain ⟨i, bound, here⟩ := List.mem_flatMap.1 (perm.mem_iff.2 mem)
    refine ⟨i, ⟨List.mem_range.1 bound, here⟩, fun j ⟨bound', there⟩ => ?_⟩
    have symm : Std.Symm (Function.onFun List.Disjoint part) := ⟨fun _ _ => List.disjoint_symm⟩
    by_contra other
    exact disjoint.forall (List.mem_range.2 bound') bound other there here
  · intro single
    have disjoint : ((List.range count).flatMap part).Nodup := by
      refine List.nodup_flatMap.2 ⟨fun i _ => distinctParts i, ?_⟩
      refine List.nodup_range.pairwise_of_forall_ne fun i bound j bound' other k here there => ?_
      have unique := single k (inside i k here)
      exact other (unique.unique ⟨List.mem_range.1 bound, here⟩ ⟨List.mem_range.1 bound', there⟩)
    refine (List.perm_ext_iff_of_nodup disjoint distinct).2 fun k => ?_
    rw [List.mem_flatMap]
    constructor
    · rintro ⟨i, -, here⟩
      exact inside i k here
    · intro mem
      obtain ⟨i, ⟨bound, here⟩, -⟩ := single k mem
      exact ⟨i, List.mem_range.2 bound, here⟩

theorem mem_window_iff {items : List κ} {k : κ} (size i : Nat) :
    k ∈ (items.drop (i * size)).take size ↔ ∃ j, i * size ≤ j ∧ j < i * size + size ∧ items[j]? = some k := by
  rw [List.mem_iff_getElem?]
  constructor
  · rintro ⟨n, found⟩
    rw [List.getElem?_take, List.getElem?_drop] at found
    split at found
    · exact ⟨i * size + n, by omega, by omega, found⟩
    · cases found
  · rintro ⟨j, from', upTo, found⟩
    refine ⟨j - i * size, ?_⟩
    rw [List.getElem?_take, List.getElem?_drop, if_pos (by omega), Nat.add_sub_cancel' from']
    exact found

/-- Without repetitions, every element is in one window alone. -/
theorem existsUnique_window {items : List κ} (distinct : items.Nodup) {size : Nat} (positive : 0 < size)
    {count : Nat} (enough : items.length ≤ count * size) {k : κ} (mem : k ∈ items) :
    ∃! i, i < count ∧ k ∈ (items.drop (i * size)).take size := by
  -- The window is the one the place of the element falls into, and the element has one place.
  obtain ⟨j, found⟩ := List.mem_iff_getElem?.1 mem
  have bound : j < items.length := (List.getElem?_eq_some_iff.1 found).1
  refine ⟨j / size, ⟨?_, ?_⟩, ?_⟩
  · exact Nat.div_lt_of_lt_mul (by rw [Nat.mul_comm]; omega)
  · refine (mem_window_iff size (j / size)).2 ⟨j, Nat.div_mul_le_self j size, ?_, found⟩
    exact Nat.lt_div_mul_add positive
  · rintro i ⟨-, here⟩
    obtain ⟨j', from', upTo, found'⟩ := (mem_window_iff size i).1 here
    have same : j = j' := (List.getElem?_inj bound distinct).1 (found.trans found'.symm)
    subst same
    refine (Nat.div_eq_of_lt_le from' ?_).symm
    rw [Nat.add_mul, Nat.one_mul]
    exact upTo

end FlatTable

namespace Page

variable {α : Type}

/-- The pages of a size are enough for a total. -/
theorem le_totalPages_mul (content : List α) (total : Nat) {request : Request} (positive : 1 ≤ request.limit) :
    total ≤ (new content total request).totalPages.toNat * request.limit.toNat := by
  have pages := lt_totalPages_iff content positive (Int.natCast_nonneg total)
  have natural : 0 ≤ (new content total request).totalPages := by
    have first := pages (-1)
    omega
  have enough : (total : Int) ≤ (new content total request).totalPages * request.limit := by
    have last := pages (new content total request).totalPages
    omega
  rw [← Int.toNat_of_nonneg natural, ← Int.toNat_of_nonneg (show 0 ≤ request.limit by omega)] at enough
  exact_mod_cast enough

end Page

/-! ## Pages -/

/-- Pages, by their number, that together show every matching root once and nothing else. -/
def FlatTable.Partitions {ρ κ ν : Type} [DecidableEq κ] (table : FlatTable ρ ν) (ids : RowIds ρ κ)
    (query : RootQuery) (count : Nat) (shown : Nat → List κ) : Prop :=
  ((List.range count).flatMap shown).Perm (table.matchingRoots query ids)

namespace FlatTable

variable {ρ κ ν α β γ : Type} [DecidableEq κ] [LinearOrder ν] {table : FlatTable ρ ν}
  {roots : RootView ρ κ α β γ} {entity : Entity} {request : Request}

/-- The window of the i-th page of a request. -/
def windowAt (table : FlatTable ρ ν) (roots : RootView ρ κ α β γ) (entity : Entity) (request : Request) (i : Nat) :
    List κ :=
  table.window ((request.atPage i).rootQuery roots.view entity) roots.ids

omit [DecidableEq κ] in
/-- The windows of the pages are consecutive. -/
theorem windowAt_eq (positive : 1 ≤ request.limit) (i : Nat) :
    table.windowAt roots entity request i =
      (((table.groups (request.rootQuery roots.view entity)).map roots.ids.root).drop
        (i * request.limit.toNat)).take request.limit.toNat := by
  have offset : ((i : Int) * request.limit).toNat = i * request.limit.toNat := by
    rw [Int.toNat_mul (by omega) (by omega), Int.toNat_natCast]
  unfold windowAt window
  change ((List.map _ (table.groups (request.rootQuery roots.view entity))).drop
    ((i : Int) * request.limit).toNat).take _ = _
  rw [offset]
  rfl

/-- Pages of all rows of the roots in their windows show every matching root once when each is in one
window. -/
theorem partitions_iff (identified : table.Identifies roots) {rows : Nat → List ρ}
    (all : ∀ i, (rows i).Perm (table.rowsOf roots.ids (table.windowAt roots entity request i))) (count : Nat) :
    table.Partitions roots.ids (request.rootQuery roots.view entity) count
        (fun i => Fold.rootIds roots.ids (rows i)) ↔
      ∀ root ∈ table.matchingRoots (request.rootQuery roots.view entity) roots.ids,
        ∃! i, i < count ∧ root ∈ table.windowAt roots entity request i := by
  have shown (i : Nat) (root : κ) : root ∈ Fold.rootIds roots.ids (rows i) ↔
      root ∈ table.windowAt roots entity request i := by
    rw [(roots_perm roots.ids (all i) fun _ => exists_row_of_window).mem_iff, mem_firstOccurrences]
  have inside (i : Nat) : ∀ root ∈ Fold.rootIds roots.ids (rows i),
      root ∈ table.matchingRoots (request.rootQuery roots.view entity) roots.ids := by
    intro root mem
    have byRoot := (request.atPage i).rootQuery_byRoot roots.view entity
    exact (mem_groups_root identified byRoot).1 (mem_groups_of_window ((shown i root).1 mem))
  rw [Partitions, flatMap_range_perm_iff (nodup_matchingRoots _) (fun i => Fold.nodup_rootIds _ _) inside]
  simp only [shown]

/-- Sorted by what has one value in a root, every matching root is in one window. -/
theorem existsUnique_window_of_sortsByRoot (identified : table.Identifies roots)
    (byRoot : table.SortsByRoot roots.ids entity request) (positive : 1 ≤ request.limit) {count : Nat}
    (enough : (table.matchingRoots (request.rootQuery roots.view entity) roots.ids).length ≤
      count * request.limit.toNat) {root : κ}
    (mem : root ∈ table.matchingRoots (request.rootQuery roots.view entity) roots.ids) :
    ∃! i, i < count ∧ root ∈ table.windowAt roots entity request i := by
  have grouped := request.rootQuery_byRoot roots.view entity
  have single := nodup_groups_root (setByRoot_of_sortsByRoot identified byRoot)
  have length := (groups_root_perm identified grouped single).length_eq
  simp only [windowAt_eq positive]
  exact existsUnique_window single (by omega) (by omega) ((mem_groups_root identified grouped).2 mem)

end FlatTable

/-- **When the pages partition the roots.** The pages of a lookup show every matching root once and nothing
else exactly when each has groups in the window of one page alone; so they do when sorted by their roots. -/
theorem RootView.pages_partition_iff {ρ κ ν α β γ : Type} [DecidableEq κ] [LinearOrder ν] {m : Type → Type}
    [Monad m] [LawfulMonad m] {table : FlatTable ρ ν} {roots : RootView ρ κ α β γ} {entity : Entity}
    {request : Request} {source : RowSource m ρ κ} (identified : table.Identifies roots)
    (positive : 1 ≤ request.limit)
    (answered : ∀ i, ∃ plan, JoinPlan.make roots.view entity (request.atPage i) = .ok plan
      ∧ table.Answers roots entity plan source) :
    ∃ (pages : Nat → Page α) (rows : Nat → List ρ),
      (∀ i, roots.findPage source entity (request.atPage i) = pure (pages i)
        ∧ (pages i).total = (table.matchingRoots (request.rootQuery roots.view entity) roots.ids).length
        ∧ (pages i).content = Fold.nestRoots roots.ids roots.assembler (rows i)
        ∧ (rows i).Perm (table.rowsOf roots.ids (table.windowAt roots entity request i)))
      ∧ (table.Partitions roots.ids (request.rootQuery roots.view entity) (pages 0).totalPages.toNat
          (fun i => Fold.rootIds roots.ids (rows i)) ↔
        ∀ root ∈ table.matchingRoots (request.rootQuery roots.view entity) roots.ids,
          ∃! i, i < (pages 0).totalPages.toNat ∧ root ∈ table.windowAt roots entity request i)
      ∧ (table.SortsByRoot roots.ids entity request →
        table.Partitions roots.ids (request.rootQuery roots.view entity) (pages 0).totalPages.toNat
          (fun i => Fold.rootIds roots.ids (rows i))) := by
  have found : ∀ i, ∃ rows, rows.Perm (table.rowsOf roots.ids (table.windowAt roots entity request i))
      ∧ roots.findPage source entity (request.atPage i) =
        pure (Page.new (Fold.nestRoots roots.ids roots.assembler rows)
          (table.matchingRoots (request.rootQuery roots.view entity) roots.ids).length (request.atPage i)) := by
    intro i
    obtain ⟨plan, planned, answers⟩ := answered i
    obtain ⟨rows, -, all, -, page⟩ := findPage_of_answers identified planned answers
    exact ⟨rows, all, page⟩
  choose rows all page using found
  refine ⟨_, rows, fun i => ⟨page i, rfl, rfl, all i⟩, FlatTable.partitions_iff identified all _,
    fun byRoot => ?_⟩
  refine (FlatTable.partitions_iff identified all _).2 fun root mem => ?_
  have enough := Page.le_totalPages_mul (Fold.nestRoots roots.ids roots.assembler (rows 0))
    (table.matchingRoots (request.rootQuery roots.view entity) roots.ids).length positive
  exact FlatTable.existsUnique_window_of_sortsByRoot identified byRoot positive enough mem

open Sample in
/-- Sorted by rank, one deal a page, both deals are shown. -/
theorem RootView.pages_partition_firstByRank :
    deals.Identifies dealRoots ∧ 1 ≤ firstByRank.limit
      ∧ (∀ i, ∃ plan, JoinPlan.make dealRoots.view dealEntity (firstByRank.atPage i) = .ok plan
        ∧ deals.Answers dealRoots dealEntity plan (dealSource firstByRank))
      ∧ ∃ (pages : Nat → Page (Int × List (Int × List Int))) (rows : Nat → List DealRow),
        (∀ i, dealRoots.findPage (dealSource firstByRank) dealEntity (firstByRank.atPage i) = pure (pages i)
          ∧ (pages i).content = Fold.nestRoots dealRoots.ids dealRoots.assembler (rows i))
        ∧ deals.Partitions dealRoots.ids (firstByRank.rootQuery dealRoots.view dealEntity)
          (pages 0).totalPages.toNat (fun i => Fold.rootIds dealRoots.ids (rows i)) := by
  have answered (i : Nat) : ∃ plan, JoinPlan.make dealRoots.view dealEntity (firstByRank.atPage i) = .ok plan
      ∧ deals.Answers dealRoots dealEntity plan (dealSource firstByRank) :=
    ⟨_, rfl, dealSource_answers _ _ rfl⟩
  have positive : 1 ≤ firstByRank.limit := by decide
  obtain ⟨pages, rows, found, -, byRoot⟩ := pages_partition_iff deals_identifies positive answered
  exact ⟨deals_identifies, positive, answered, pages, rows, fun i => ⟨(found i).1, (found i).2.2.1⟩,
    byRoot deals_sortsByRoot⟩

namespace Sample

/-- Two deals a page, sorted by a budget of a program. -/
def byBudget : Request :=
  { Request.standard with
    limit := 2
    sorts := [⟨"budget", .asc⟩] }

end Sample

open Sample in
/-- Both groups of the first deal are before that of the second, so the only page is the first deal alone. -/
theorem RootView.pages_miss_deal :
    deals.Identifies dealRoots
      ∧ (∀ i, ∃ plan, JoinPlan.make dealRoots.view dealEntity (byBudget.atPage i) = .ok plan
        ∧ deals.Answers dealRoots dealEntity plan (dealSource byBudget))
      ∧ ∃ page, dealRoots.findPage (dealSource byBudget) dealEntity (byBudget.atPage 0) = pure page
        ∧ page.totalPages = 1
        ∧ page.content = [(1, [(10, [100, 101]), (11, [])])]
        ∧ deals.matchingRoots (byBudget.rootQuery dealRoots.view dealEntity) dealRoots.ids = [1, 2]
        ∧ ¬ (page.content.map (·.1)).Perm
          (deals.matchingRoots (byBudget.rootQuery dealRoots.view dealEntity) dealRoots.ids) := by
  refine ⟨deals_identifies, fun i => ⟨_, rfl, dealSource_answers _ _ rfl⟩, ?_⟩
  refine ⟨Page.new [(1, [(10, [100, 101]), (11, [])])] 2 (byBudget.atPage 0), rfl, by decide, rfl, by decide, ?_⟩
  intro perm
  have length := perm.length_eq
  revert length
  decide

end QueryFilter
