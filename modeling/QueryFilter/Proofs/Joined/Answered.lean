/-
Lookups over a table.

When a source answers a plan by the meaning of its statements over a table, a lookup gives the nested roots of the
rows answered: all rows of the roots in the window of the request's query, in its order
(`RootView.findPage_of_answers`). The window is cut from the groups of the matching rows, so a root with several
groups may be in it twice, and in several windows.
-/
import QueryFilter.Proofs.Joined.Table

namespace QueryFilter

variable {ρ κ ν α β γ : Type} [DecidableEq κ] [LinearOrder ν]

/-- A query whose groups have one root each, and which orders by what it groups by. -/
structure RootQuery.ByRoot (query : RootQuery) (view : JoinedView) : Prop where
  root : view.rootId ∈ query.groupBy
  ordered : ∀ column, column ∈ query.groupBy ↔ column ∈ query.orderBy.map (·.column)

theorem Request.rootQuery_byRoot (request : Request) (view : JoinedView) (entity : Entity) :
    (request.rootQuery view entity).ByRoot view where
  root := mem_firstOccurrences.2 List.mem_cons_self
  ordered _ := JoinedView.mem_groupColumns

namespace FlatTable

variable (table : FlatTable ρ ν) (query : RootQuery)

/-! ## Groups -/

omit [LinearOrder ν] in
theorem mem_matching {table : FlatTable ρ ν} {query : RootQuery} {row : ρ} (mem : row ∈ table.matching query) :
    row ∈ table.rows :=
  (List.mem_filter.1 mem).1

theorem groups_perm : (table.groups query).Perm ((table.keyedGroups query).map (·.2)) :=
  List.perm_insertionSort _ _

theorem groups_sorted : (table.groups query).Pairwise (table.Precedes query.orderBy) :=
  List.pairwise_insertionSort _ _

variable {table query}

theorem matching_of_mem_groups {row : ρ} (mem : row ∈ table.groups query) : row ∈ table.matching query := by
  obtain ⟨entry, first, rfl⟩ := List.mem_map.1 ((table.groups_perm query).mem_iff.1 mem)
  exact (Fold.key_of_mem_firsts first).1

/-- Every matching row is in the group of some row that stands for it. -/
theorem exists_group {row : ρ} (mem : row ∈ table.matching query) :
    ∃ group ∈ table.groups query, table.groupKey query group = table.groupKey query row := by
  have known : table.groupKey query row ∈ (table.keyedGroups query).map (·.1) := by
    rw [keyedGroups, Fold.keys_firsts, mem_firstOccurrences, List.mem_filterMap]
    exact ⟨row, mem, rfl⟩
  obtain ⟨entry, first, same⟩ := List.mem_map.1 known
  refine ⟨entry.2, ?_, ?_⟩
  · exact (table.groups_perm query).mem_iff.2 (List.mem_map_of_mem first)
  · have found := (Fold.key_of_mem_firsts first).2
    rw [← same]
    exact Option.some.inj found

/-- No two groups have the same key. -/
theorem nodup_groupKeys (table : FlatTable ρ ν) (query : RootQuery) :
    ((table.groups query).map (table.groupKey query)).Nodup := by
  have keys : ((table.keyedGroups query).map (·.2)).map (table.groupKey query) =
      (table.keyedGroups query).map (·.1) := by
    rw [List.map_map]
    refine List.map_congr_left fun entry first => ?_
    exact Option.some.inj (Fold.key_of_mem_firsts first).2
  have perm := (table.groups_perm query).map (table.groupKey query)
  rw [perm.nodup_iff, keys]
  exact Fold.nodup_keys_firsts _ _

omit [LinearOrder ν] in
/-- Rows agree on the columns of their group. -/
theorem value_eq_of_groupKey {r s : ρ} (same : table.groupKey query r = table.groupKey query s) :
    ∀ column ∈ query.groupBy, table.value column r = table.value column s := by
  unfold groupKey at same
  exact List.map_inj_left.1 same

variable {roots : RootView ρ κ α β γ}

omit [DecidableEq κ] [LinearOrder ν] in
theorem root_eq_of_groupKey (identified : table.Identifies roots) (byRoot : query.ByRoot roots.view) {r s : ρ}
    (left : r ∈ table.rows) (right : s ∈ table.rows) (same : table.groupKey query r = table.groupKey query s) :
    roots.ids.root r = roots.ids.root s :=
  (identified r left s right).1 (value_eq_of_groupKey same _ byRoot.root)

omit [LinearOrder ν] in
theorem nodup_matchingRoots (ids : RowIds ρ κ) : (table.matchingRoots query ids).Nodup :=
  nodup_firstOccurrences _

/-- The roots of the groups are the roots of the matching rows. -/
theorem mem_groups_root (identified : table.Identifies roots) (byRoot : query.ByRoot roots.view) {root : κ} :
    root ∈ (table.groups query).map roots.ids.root ↔ root ∈ table.matchingRoots query roots.ids := by
  unfold matchingRoots
  rw [mem_firstOccurrences, List.mem_map, List.mem_map]
  constructor
  · rintro ⟨group, mem, rfl⟩
    exact ⟨group, matching_of_mem_groups mem, rfl⟩
  · rintro ⟨row, mem, rfl⟩
    obtain ⟨group, there, same⟩ := exists_group mem
    exact ⟨group, there, root_eq_of_groupKey identified byRoot (mem_matching (matching_of_mem_groups there))
      (mem_matching mem) same⟩

/-- When every root has one group, the groups are as many as the matching roots. -/
theorem groups_root_perm (identified : table.Identifies roots) (byRoot : query.ByRoot roots.view)
    (single : ((table.groups query).map roots.ids.root).Nodup) :
    ((table.groups query).map roots.ids.root).Perm (table.matchingRoots query roots.ids) :=
  (List.perm_ext_iff_of_nodup single (nodup_matchingRoots _)).2 fun _ => mem_groups_root identified byRoot

/-! ## Windows -/

omit [DecidableEq κ] in
theorem mem_groups_of_window {ids : RowIds ρ κ} {root : κ} (mem : root ∈ table.window query ids) :
    root ∈ (table.groups query).map ids.root :=
  List.mem_of_mem_drop (List.mem_of_mem_take mem)

omit [DecidableEq κ] in
theorem exists_row_of_window {ids : RowIds ρ κ} {root : κ} (mem : root ∈ table.window query ids) :
    ∃ row ∈ table.rows, ids.root row = root := by
  obtain ⟨group, there, rfl⟩ := List.mem_map.1 (mem_groups_of_window mem)
  exact ⟨group, mem_matching (matching_of_mem_groups there), rfl⟩

omit [LinearOrder ν] in
theorem rowsOf_nil (ids : RowIds ρ κ) : table.rowsOf ids [] = [] := by
  unfold rowsOf
  exact List.filter_eq_nil_iff.2 fun _ _ => by simp

omit [LinearOrder ν] in
theorem rowsOf_firstOccurrences (ids : RowIds ρ κ) (wanted : List κ) :
    table.rowsOf ids (firstOccurrences wanted) = table.rowsOf ids wanted := by
  unfold rowsOf
  simp only [mem_firstOccurrences]

omit [LinearOrder ν] in
/-- The roots of some rows are the wanted ones, once the rows are all there are of these. -/
theorem roots_perm (ids : RowIds ρ κ) {rows : List ρ} {wanted : List κ}
    (all : rows.Perm (table.rowsOf ids wanted)) (present : ∀ root ∈ wanted, ∃ row ∈ table.rows, ids.root row = root) :
    (Fold.rootIds ids rows).Perm (firstOccurrences wanted) := by
  refine (List.perm_ext_iff_of_nodup (Fold.nodup_rootIds _ _) (nodup_firstOccurrences _)).2 fun root => ?_
  rw [Fold.rootIds_eq, mem_firstOccurrences, mem_firstOccurrences, List.mem_map]
  constructor
  · rintro ⟨row, mem, rfl⟩
    have wantedRow := (List.mem_filter.1 (all.mem_iff.1 mem)).2
    simpa using wantedRow
  · intro mem
    obtain ⟨row, there, rfl⟩ := present root mem
    exact ⟨row, all.mem_iff.2 (List.mem_filter.2 ⟨there, by simpa using mem⟩), rfl⟩

end FlatTable

/-! ## Lookups -/

section

variable {m : Type → Type} [Monad m] [LawfulMonad m] {table : FlatTable ρ ν} {roots : RootView ρ κ α β γ}
  {entity : Entity} {request : Request} {plan : JoinPlan} {source : RowSource m ρ κ}

omit [LawfulMonad m] in
/-- The ids answered are those in the window of the request's query. -/
theorem FlatTable.Answers.listed (answers : table.Answers roots entity plan source)
    (planned : JoinPlan.make roots.view entity request = .ok plan) :
    source.rootIds plan.rootIds = pure (table.window (request.rootQuery roots.view entity) roots.ids) :=
  answers.rootIds _ (request.rootQuery_over roots.view entity) (JoinPlan.make_writes planned).rootIds

/-- A lookup over a table gives the nested roots of the rows answered, all rows of the roots in the window in order. -/
theorem RootView.findPage_of_answers (identified : table.Identifies roots)
    (planned : JoinPlan.make roots.view entity request = .ok plan)
    (answers : table.Answers roots entity plan source) :
    ∃ rows, source.rows (plan.rows ((firstOccurrences (table.window (request.rootQuery roots.view entity)
          roots.ids)).map roots.bindId)) = pure rows
      ∧ rows.Perm (table.rowsOf roots.ids (table.window (request.rootQuery roots.view entity) roots.ids))
      ∧ rows.Pairwise (table.Precedes (roots.view.orderTerms entity request))
      ∧ roots.findPage source entity request =
        pure (Page.new (Fold.nestRoots roots.ids roots.assembler rows)
          (table.matchingRoots (request.rootQuery roots.view entity) roots.ids).length request) := by
  have byRoot := request.rootQuery_byRoot roots.view entity
  have ranges := request.rootQuery_over roots.view entity
  have writes := JoinPlan.make_writes planned
  have counted := answers.count _ ranges writes.count
  have listed := answers.listed planned
  obtain ⟨rows, answered, all, sorted⟩ := answers.rows
    (firstOccurrences (table.window (request.rootQuery roots.view entity) roots.ids)) _ ranges (writes.rows _)
  rw [FlatTable.rowsOf_firstOccurrences] at all
  refine ⟨rows, answered, all, sorted, ?_⟩
  generalize request.rootQuery roots.view entity = query at byRoot counted listed answered all
  have given : (ExceptT.mk (pure (JoinPlan.make roots.view entity request)) : ExceptT Failure m JoinPlan) =
      pure plan := by rw [planned]; rfl
  -- Where the lookup ends early, there are no rows of the window.
  have noRows (none : table.window query roots.ids = []) : rows = [] := by
    rw [none, FlatTable.rowsOf_nil] at all
    exact all.eq_nil
  unfold findPage
  simp only [given, pure_bind, counted, listed]
  split
  · rename_i none
    have noRoots : table.matchingRoots query roots.ids = [] := by simpa using none
    have noWindow : table.window query roots.ids = [] := by
      refine List.eq_nil_iff_forall_not_mem.2 fun root mem => ?_
      have root := (FlatTable.mem_groups_root identified byRoot).1 (FlatTable.mem_groups_of_window mem)
      rw [noRoots] at root
      cases root
    rw [noRows noWindow, noRoots]
    rfl
  · split
    · rename_i empty
      have noIds := List.isEmpty_iff.1 empty
      have noWindow : table.window query roots.ids = [] := by
        refine List.eq_nil_iff_forall_not_mem.2 fun root mem => ?_
        have id := mem_firstOccurrences.2 mem
        rw [noIds] at id
        cases id
      rw [noRows noWindow]
      rfl
    · rw [answered, pure_bind, Fold.roots_eq_nestRoots]

end

end QueryFilter
