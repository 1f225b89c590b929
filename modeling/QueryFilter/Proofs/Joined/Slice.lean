/-
A page sorted by its roots is a slice of them.

When a root has one value in every column sorted on, the groups of a lookup are its roots, so the window is a
slice of the distinct matching roots in order (`FlatTable.rootOrder`). The rows of the page are sorted in the
same way: they keep the roots in that order, and have every row of each (`RootView.findPage_slice`).
-/
import QueryFilter.Proofs.Joined.Answered
import QueryFilter.Proofs.Joined.Readings

namespace QueryFilter

variable {ρ κ ν α β γ : Type} [DecidableEq κ] [LinearOrder ν]

namespace FlatTable

/-- A column has one value in all rows of a root. -/
def SetByRoot (table : FlatTable ρ ν) (ids : RowIds ρ κ) (column : String) : Prop :=
  ∀ r ∈ table.rows, ∀ s ∈ table.rows, ids.root r = ids.root s → table.value column r = table.value column s

/-- Every column sorted on has one value in all rows of a root. -/
def SortsByRoot (table : FlatTable ρ ν) (ids : RowIds ρ κ) (entity : Entity) (request : Request) : Prop :=
  ∀ column ∈ (request.sortTerms entity).map (·.column), table.SetByRoot ids column

/-- Whether a root may be listed before another, by all of their rows. -/
def RootPrecedes (table : FlatTable ρ ν) (ids : RowIds ρ κ) (terms : List OrderTerm) (k k' : κ) : Prop :=
  ∀ r ∈ table.rows, ∀ s ∈ table.rows, ids.root r = k → ids.root s = k' → table.Precedes terms r s

/-- The distinct roots of the rows in which the conditions of a query hold, in the order of the query. -/
structure RootOrder (table : FlatTable ρ ν) (ids : RowIds ρ κ) (query : RootQuery) (ordered : List κ) : Prop where
  distinct : ordered.Nodup
  matching : ∀ root, root ∈ ordered ↔ ∃ row ∈ table.matching query, ids.root row = root
  sorted : ordered.Pairwise (table.RootPrecedes ids query.orderBy)

variable {table : FlatTable ρ ν} {roots : RootView ρ κ α β γ} {entity : Entity} {request : Request}
  {query : RootQuery}

omit [DecidableEq κ] [LinearOrder ν] in
/-- Sorted by its roots, a request groups by what has one value in a root. -/
theorem setByRoot_of_sortsByRoot (identified : table.Identifies roots)
    (byRoot : table.SortsByRoot roots.ids entity request) :
    ∀ column ∈ (request.rootQuery roots.view entity).groupBy, table.SetByRoot roots.ids column := by
  intro column mem r left s right same
  rcases List.mem_cons.1 (mem_firstOccurrences.1 mem) with rfl | sorted
  · exact (identified r left s right).2 same
  · exact byRoot column sorted r left s right same

omit [DecidableEq κ] in
theorem RootPrecedes.antisymm (identified : table.Identifies roots) (byRoot : query.ByRoot roots.view) {k k' : κ}
    (left : table.RootPrecedes roots.ids query.orderBy k k') (right : table.RootPrecedes roots.ids query.orderBy k' k)
    (present : ∃ row ∈ table.rows, roots.ids.root row = k)
    (present' : ∃ row ∈ table.rows, roots.ids.root row = k') : k = k' := by
  obtain ⟨r, mem, rfl⟩ := present
  obtain ⟨s, mem', rfl⟩ := present'
  have ahead := left r mem s mem' rfl rfl
  have behind := right s mem' r mem rfl rfl
  exact (identified r mem s mem').1 (ahead.antisymm behind _ ((byRoot.ordered _).1 byRoot.root))

section

variable (identified : table.Identifies roots) (byRoot : query.ByRoot roots.view)
  (fixed : ∀ column ∈ query.groupBy, table.SetByRoot roots.ids column)

include byRoot fixed

omit [DecidableEq κ] in
/-- Rows in order have their roots in order. -/
theorem sorted_roots {rows : List ρ} (inside : ∀ row ∈ rows, row ∈ table.rows)
    (sorted : rows.Pairwise (table.Precedes query.orderBy)) :
    (rows.map roots.ids.root).Pairwise (table.RootPrecedes roots.ids query.orderBy) := by
  rw [List.pairwise_map]
  refine sorted.imp_of_mem fun {g g'} mem mem' before r there s there' same same' => ?_
  refine before.congr (fun column listed => ?_) fun column listed => ?_
  · exact fixed column ((byRoot.ordered column).2 listed) g (inside g mem) r there same.symm
  · exact fixed column ((byRoot.ordered column).2 listed) g' (inside g' mem') s there' same'.symm

omit [DecidableEq κ] byRoot in
/-- Groups of one root are one group. -/
theorem nodup_groups_root : ((table.groups query).map roots.ids.root).Nodup := by
  have keys := table.nodup_groupKeys query
  rw [List.Nodup, List.pairwise_map] at keys ⊢
  refine keys.imp_of_mem fun {g g'} mem mem' differ same => differ ?_
  have inside := mem_matching (matching_of_mem_groups mem)
  have inside' := mem_matching (matching_of_mem_groups mem')
  exact List.map_congr_left fun column grouped => fixed column grouped g inside g' inside' same

include identified

/-- The roots of the groups are the distinct matching roots in order. -/
theorem rootOrder : table.RootOrder roots.ids query ((table.groups query).map roots.ids.root) where
  distinct := nodup_groups_root fixed
  matching root := by
    rw [mem_groups_root identified byRoot, matchingRoots, mem_firstOccurrences, List.mem_map]
  sorted := sorted_roots byRoot fixed (fun _ mem => mem_matching (matching_of_mem_groups mem))
    (table.groups_sorted query)

/-- Rows in order, all there are of the roots in the window, keep the roots in the order of the window. -/
theorem roots_eq_window {rows : List ρ} (all : rows.Perm (table.rowsOf roots.ids (table.window query roots.ids)))
    (sorted : rows.Pairwise (table.Precedes query.orderBy)) :
    Fold.rootIds roots.ids rows = table.window query roots.ids := by
  -- Both lists have the same roots, each once, and are in order; the order leaves no choice between roots.
  have order := rootOrder identified byRoot fixed
  have piece : (table.window query roots.ids).Sublist ((table.groups query).map roots.ids.root) :=
    (List.take_sublist _ _).trans (List.drop_sublist _ _)
  have perm := roots_perm roots.ids all fun root mem => exists_row_of_window mem
  rw [firstOccurrences_eq_self (order.distinct.sublist piece)] at perm
  have first := Fold.firsts_sublist roots.ids.rootKey rows
  have inside : ∀ row ∈ (Fold.firsts roots.ids.rootKey rows).map (·.2), row ∈ table.rows :=
    fun row mem => (List.mem_filter.1 (all.mem_iff.1 (first.mem mem))).1
  have inOrder := sorted_roots byRoot fixed inside (sorted.sublist first)
  rw [Fold.firsts_root] at inOrder
  refine List.Perm.eq_of_pairwise ?_ inOrder (order.sorted.sublist piece) perm
  intro k k' mem mem' left right
  exact left.antisymm identified byRoot right (exists_row_of_window (perm.mem_iff.1 mem)) (exists_row_of_window mem')

end

omit [LinearOrder ν] in
/-- All rows of some roots are all rows of each of them. -/
theorem ofKey_perm {rows : List ρ} {wanted : List κ} (all : rows.Perm (table.rowsOf roots.ids wanted)) {root : κ}
    (mem : root ∈ wanted) :
    (Fold.ofKey roots.ids.rootKey root rows).Perm (Fold.ofKey roots.ids.rootKey root table.rows) := by
  have kept := all.filter fun row => roots.ids.rootKey row = some root
  refine kept.trans ?_
  unfold rowsOf Fold.ofKey
  rw [List.filter_filter]
  refine .of_eq (List.filter_congr fun row _ => ?_)
  by_cases same : roots.ids.root row = root
  · simp [RowIds.rootKey, same, mem]
  · simp [RowIds.rootKey, same]

end FlatTable

/-- **A page sorted by its roots is a slice of them, complete.** Its total is the number of distinct matching
roots; its content are the roots of some rows, which stand in the order of the slice, each once, with all
children and grandchildren they have in the table. -/
theorem RootView.findPage_slice {m : Type → Type} [Monad m] [LawfulMonad m] {table : FlatTable ρ ν}
    {roots : RootView ρ κ α β γ} {entity : Entity} {request : Request} {plan : JoinPlan}
    {source : RowSource m ρ κ} (identified : table.Identifies roots)
    (byRoot : table.SortsByRoot roots.ids entity request)
    (planned : JoinPlan.make roots.view entity request = .ok plan)
    (answers : table.Answers roots entity plan source) :
    ∃ ordered rows page, table.RootOrder roots.ids (request.rootQuery roots.view entity) ordered
      ∧ roots.findPage source entity request = pure page
      ∧ page.total = ordered.length
      ∧ page.content = Fold.nestRoots roots.ids roots.assembler rows
      ∧ page = Page.new page.content page.total request
      ∧ Fold.rootIds roots.ids rows = (ordered.drop request.offset.toNat).take request.limit.toNat
      ∧ (∀ row ∈ rows, row ∈ table.rows)
      ∧ ∀ root ∈ (ordered.drop request.offset.toNat).take request.limit.toNat,
        Fold.SameDescendants roots.ids rows table.rows root := by
  obtain ⟨rows, -, all, sorted, found⟩ := findPage_of_answers identified planned answers
  have grouped := request.rootQuery_byRoot roots.view entity
  have fixed := FlatTable.setByRoot_of_sortsByRoot identified byRoot
  have order := FlatTable.rootOrder identified grouped fixed
  have total := (FlatTable.groups_root_perm identified grouped order.distinct).length_eq
  refine ⟨_, rows, _, order, found, by rw [total]; rfl, rfl, rfl,
    FlatTable.roots_eq_window identified grouped fixed all sorted, fun row mem => ?_, fun root mem => ?_⟩
  · exact (List.mem_filter.1 (all.mem_iff.1 mem)).1
  · exact .of_perm (FlatTable.ofKey_perm all mem)

namespace Sample

/-- A deal with one of its programs, and one of the program's contracts if it has any. -/
structure DealRow where
  deal : Int
  rank : Int
  program : Int
  budget : Int
  contract : Option Int
  deriving DecidableEq, Repr

def dealsDeclaration : Declaration :=
  ⟨"Deal", some "deals", some "d.id",
    [⟨"rank", "d.rank", .integer, true, true, none⟩, ⟨"budget", "p.budget", .integer, true, true, none⟩]⟩

theorem fault?_dealsDeclaration : dealsDeclaration.fault? = none := by decide

/-- Deals by their rank and by the budgets of their programs. -/
def dealEntity : Entity where
  identity := dealsDeclaration.identity
  table := "deals"
  idColumn := dealsDeclaration.idColumn
  fields := dealsDeclaration.fields
  wellFormed := Declaration.wellFormed_of_fault? fault?_dealsDeclaration

/-- Deals with the numbers of their programs, and these with the numbers of their contracts. -/
def dealRoots : RootView DealRow Int (Int × List (Int × List Int)) (Int × List Int) Int where
  view := ⟨"*", "deals d JOIN programs p ON p.deal_id = d.id", "d.id"⟩
  ids := ⟨DealRow.deal, fun row => some row.program, DealRow.contract⟩
  bindId := .integer
  assembler := ⟨fun row => row.contract.getD 0, fun row contracts => (row.program, contracts),
    fun row programs => (row.deal, programs)⟩

theorem dealColumns_plain : PlainColumns dealRoots.view dealEntity where
  columns column known := by
    have listed : column ∈ ["d.id", "d.rank", "p.budget"] := by
      rcases known with rfl | ⟨name, found⟩
      · exact List.mem_cons_self
      · obtain ⟨field, there, rfl⟩ := Option.map_eq_some_iff.1 found
        have mem : field ∈ dealsDeclaration.fields := List.mem_of_find?_eq_some there
        have columns : ∀ field ∈ dealsDeclaration.fields, field.column ∈ ["d.id", "d.rank", "p.budget"] := by decide
        exact columns field mem
    have plain : ∀ column ∈ ["d.id", "d.rank", "p.budget"],
        column ≠ "" ∧ Text.Avoids [',', ':', 'A', 'G', 'O'] column := by decide
    exact ⟨(plain column listed).1, (plain column listed).2⟩
  own := by decide

/-- Two deals, the first with two programs; the one kind of condition it knows is a least budget. -/
def deals : FlatTable DealRow Int where
  rows := [⟨1, 7, 10, 10, some 100⟩, ⟨1, 7, 10, 10, some 101⟩, ⟨1, 7, 11, 20, none⟩, ⟨2, 5, 20, 30, none⟩]
  value column row :=
    if column = "d.id" then row.deal else if column = "d.rank" then row.rank else row.budget
  holds
    | .bound before (.integer least) "", row => before = "p.budget >= " && least ≤ row.budget
    | _, _ => false

def readInteger : Value → Option Int
  | .integer n => some n
  | _ => none

theorem deals_identifies : deals.Identifies dealRoots := by
  unfold FlatTable.Identifies
  decide

/-- The first of the deals with a budget of at least twenty, the highest rank first. -/
def firstByRank : Request :=
  { Request.standard with
    limit := 1
    filters := [⟨"budget", .gte, .single "20", rfl⟩]
    sorts := [⟨"rank", .desc⟩] }

theorem deals_sortsByRoot : deals.SortsByRoot dealRoots.ids dealEntity firstByRank := by
  unfold FlatTable.SortsByRoot FlatTable.SetByRoot
  decide

/-- The deals as a source for the pages of a request. -/
def dealSource (request : Request) : RowSource Id DealRow Int :=
  deals.source dealRoots (request.rootQuery dealRoots.view dealEntity) readInteger

theorem dealSource_answers (request : Request) (offset : Int) {plan : JoinPlan}
    (planned : JoinPlan.make dealRoots.view dealEntity { request with offset } = .ok plan) :
    deals.Answers dealRoots dealEntity plan (dealSource request) :=
  deals.source_answers dealColumns_plain (fun _ => rfl) request offset planned

end Sample

open Sample in
/-- The first deal by rank has both its programs, though only one of them has the budget asked for. -/
theorem RootView.findPage_slice_firstByRank :
    deals.Identifies dealRoots ∧ deals.SortsByRoot dealRoots.ids dealEntity firstByRank
      ∧ ∃ plan, JoinPlan.make dealRoots.view dealEntity firstByRank = .ok plan
        ∧ deals.Answers dealRoots dealEntity plan (dealSource firstByRank)
        ∧ ∃ ordered rows page,
          deals.RootOrder dealRoots.ids (firstByRank.rootQuery dealRoots.view dealEntity) ordered
          ∧ dealRoots.findPage (dealSource firstByRank) dealEntity firstByRank = pure page
          ∧ page.total = ordered.length
          ∧ page.content = Fold.nestRoots dealRoots.ids dealRoots.assembler rows
          ∧ Fold.rootIds dealRoots.ids rows = ordered.take 1
          ∧ ∀ root ∈ ordered.take 1, Fold.SameDescendants dealRoots.ids rows deals.rows root := by
  obtain ⟨plan, planned⟩ : ∃ plan, JoinPlan.make dealRoots.view dealEntity firstByRank = .ok plan := ⟨_, rfl⟩
  have answers := dealSource_answers firstByRank 0 planned
  obtain ⟨ordered, rows, page, order, found, total, content, -, roots, -, descendants⟩ :=
    findPage_slice deals_identifies deals_sortsByRoot planned answers
  exact ⟨deals_identifies, deals_sortsByRoot, plan, planned, answers, ordered, rows, page, order, found, total,
    content, roots, descendants⟩

open Sample in
example : dealRoots.findPage (dealSource firstByRank) dealEntity firstByRank =
    pure (Page.new [(1, [(10, [100, 101]), (11, [])])] 2 firstByRank) := by rfl

end QueryFilter
