/-
The order of the roots on a page.

The ids of a page are listed by the groups of the matching rows, its rows are all rows of these roots, sorted once
more, and the fold takes the roots as they first occur among the rows. So a page has its roots in the order of their
least rows (`FlatTable.Leads`), whether these match or not, and keeps the order of the ids exactly when the ids are
in that order already (`RootView.keeps_order_iff`). They are when every root has one value in each column sorted
on, and on a first page when the rows of a root match together.
-/
import QueryFilter.Proofs.Joined.Partition

namespace QueryFilter

variable {ρ κ ν α β γ : Type} [DecidableEq κ] [LinearOrder ν]

namespace FlatTable

/-- A root leads another when it has a row that may be listed before all rows of the other. -/
def Leads (table : FlatTable ρ ν) (ids : RowIds ρ κ) (terms : List OrderTerm) (k k' : κ) : Prop :=
  ∃ r ∈ table.rows, ids.root r = k ∧ ∀ s ∈ table.rows, ids.root s = k' → table.Precedes terms r s

/-- The rows of a root match a query together or not at all. -/
def MatchesByRoot (table : FlatTable ρ ν) (ids : RowIds ρ κ) (query : RootQuery) : Prop :=
  ∀ r ∈ table.matching query, ∀ s ∈ table.rows, ids.root r = ids.root s → s ∈ table.matching query

variable {table : FlatTable ρ ν} {roots : RootView ρ κ α β γ} {query : RootQuery}

omit [DecidableEq κ] in
theorem Leads.antisymm (identified : table.Identifies roots) (byRoot : query.ByRoot roots.view) {k k' : κ}
    (left : table.Leads roots.ids query.orderBy k k') (right : table.Leads roots.ids query.orderBy k' k) :
    k = k' := by
  obtain ⟨r, mem, rfl, ahead⟩ := left
  obtain ⟨s, mem', rfl, behind⟩ := right
  have same := (ahead s mem' rfl).antisymm (behind r mem rfl)
  exact (identified r mem s mem').1 (same _ ((byRoot.ordered _).1 byRoot.root))

/-- All rows of some roots, in order, have the roots in the order of their least rows. -/
theorem rootIds_lead {ids : RowIds ρ κ} {terms : List OrderTerm} {rows : List ρ} {wanted : List κ}
    (all : rows.Perm (table.rowsOf ids wanted)) (sorted : rows.Pairwise (table.Precedes terms)) :
    (Fold.rootIds ids rows).Pairwise (table.Leads ids terms) := by
  have inRows {row : ρ} : row ∈ rows ↔ row ∈ table.rows ∧ ids.root row ∈ wanted := by
    rw [all.mem_iff, rowsOf, List.mem_filter, decide_eq_true_eq]
  rw [Fold.rootIds_eq]
  refine (pairwise_firstOccurrences_map ids.root sorted).imp_of_mem fun {k k'} _ mem' ⟨r, there, same, before⟩ => ?_
  obtain ⟨row, found, rfl⟩ := List.mem_map.1 (mem_firstOccurrences.1 mem')
  refine ⟨r, (inRows.1 there).1, same, fun s mem same' => before s (inRows.2 ⟨mem, ?_⟩) same'⟩
  rw [same']
  exact (inRows.1 found).2

/-- All rows of the roots in the window, in order, keep the roots as they first occur in the window exactly when
each leads those after it. -/
theorem rootIds_eq_iff (identified : table.Identifies roots) (byRoot : query.ByRoot roots.view) {rows : List ρ}
    (all : rows.Perm (table.rowsOf roots.ids (table.window query roots.ids)))
    (sorted : rows.Pairwise (table.Precedes query.orderBy)) :
    Fold.rootIds roots.ids rows = firstOccurrences (table.window query roots.ids) ↔
      (firstOccurrences (table.window query roots.ids)).Pairwise (table.Leads roots.ids query.orderBy) := by
  have leads := rootIds_lead all sorted
  constructor
  · intro same
    rwa [← same]
  · intro inOrder
    have perm := roots_perm roots.ids all fun root mem => exists_row_of_window mem
    exact perm.eq_of_pairwise (fun _ _ _ _ left right => left.antisymm identified byRoot right) leads inOrder

/-- When the rows of a root match together, the groups are those of all its rows, and the roots of the groups from
the first on lead one another. -/
theorem window_leads (identified : table.Identifies roots) (byRoot : query.ByRoot roots.view)
    (together : table.MatchesByRoot roots.ids query) (first : query.offset = 0) :
    (firstOccurrences (table.window query roots.ids)).Pairwise (table.Leads roots.ids query.orderBy) := by
  have start : table.window query roots.ids = ((table.groups query).map roots.ids.root).take query.limit.toNat := by
    rw [window, first]
    rfl
  have inGroups := pairwise_firstOccurrences_map roots.ids.root (table.groups_sorted query)
  rw [start]
  refine (inGroups.sublist (firstOccurrences_take _ _).sublist).imp_of_mem
    fun {k k'} _ mem' ⟨g, there, same, before⟩ => ?_
  refine ⟨g, mem_matching (matching_of_mem_groups there), same, fun s mem same' => ?_⟩
  -- The row is in a group of its root, since another row of the root is in one.
  obtain ⟨g', found, rfl⟩ := List.mem_map.1 (List.mem_of_mem_take (mem_firstOccurrences.1 mem'))
  have matched := together g' (matching_of_mem_groups found) s mem same'.symm
  obtain ⟨group, listed, sameKey⟩ := exists_group matched
  have sameRoot := root_eq_of_groupKey identified byRoot (mem_matching (matching_of_mem_groups listed)) mem sameKey
  refine (before group listed (sameRoot.trans same')).congr (fun _ _ => rfl) fun column ordered => ?_
  exact value_eq_of_groupKey sameKey column ((byRoot.ordered column).2 ordered)

end FlatTable

/-- **When a page keeps the order of the id query.** A page is folded from the rows answered for the ids listed, which
are all their rows, matching or not, in the order of the lookup. So its roots are those of the ids, in the order of
their least rows, and they stand as the ids first occur exactly when every id listed leads those after it. It does when
the sort goes by the roots, and on a first page when the filter does. -/
theorem RootView.keeps_order_iff {m : Type → Type} [Monad m] [LawfulMonad m] {table : FlatTable ρ ν}
    {roots : RootView ρ κ α β γ} {entity : Entity} {request : Request} {plan : JoinPlan}
    {source : RowSource m ρ κ} (identified : table.Identifies roots)
    (planned : JoinPlan.make roots.view entity request = .ok plan)
    (answers : table.Answers roots entity plan source) :
    ∃ listed rows page, source.rootIds plan.rootIds = pure listed
      ∧ source.rows (plan.rows ((firstOccurrences listed).map roots.bindId)) = pure rows
      ∧ roots.findPage source entity request = pure page
      ∧ page.total = (table.matchingRoots (request.rootQuery roots.view entity) roots.ids).length
      ∧ page.content = Fold.nestRoots roots.ids roots.assembler rows
      ∧ page = Page.new page.content page.total request
      ∧ rows.Perm (table.rowsOf roots.ids listed)
      ∧ rows.Pairwise (table.Precedes (roots.view.orderTerms entity request))
      ∧ (Fold.rootIds roots.ids rows).Perm (firstOccurrences listed)
      ∧ (Fold.rootIds roots.ids rows).Pairwise (table.Leads roots.ids (roots.view.orderTerms entity request))
      ∧ (Fold.rootIds roots.ids rows = firstOccurrences listed ↔
        (firstOccurrences listed).Pairwise (table.Leads roots.ids (roots.view.orderTerms entity request)))
      ∧ (table.SortsByRoot roots.ids entity request
          ∨ table.MatchesByRoot roots.ids (request.rootQuery roots.view entity) ∧ request.offset = 0 →
        Fold.rootIds roots.ids rows = firstOccurrences listed) := by
  obtain ⟨rows, answered, all, sorted, found⟩ := findPage_of_answers identified planned answers
  have grouped := request.rootQuery_byRoot roots.view entity
  have kept := FlatTable.rootIds_eq_iff identified grouped all sorted
  refine ⟨_, rows, _, answers.listed planned, answered, found, rfl, rfl, rfl, all, sorted,
    FlatTable.roots_perm roots.ids all fun _ => FlatTable.exists_row_of_window, FlatTable.rootIds_lead all sorted,
    kept, ?_⟩
  rintro (byRoot | ⟨together, first⟩)
  · have fixed := FlatTable.setByRoot_of_sortsByRoot identified byRoot
    have distinct := (FlatTable.nodup_groups_root fixed).sublist
      ((List.take_sublist request.limit.toNat _).trans (List.drop_sublist request.offset.toNat _))
    rw [FlatTable.roots_eq_window identified grouped fixed all sorted]
    exact (firstOccurrences_eq_self distinct).symm
  · exact kept.2 (FlatTable.window_leads identified grouped together first)

namespace Sample

/-- The deals with the budgets of the first one around that of the second. -/
def spreadDeals : FlatTable DealRow Int :=
  { deals with rows := [⟨1, 7, 10, 10, none⟩, ⟨1, 7, 11, 40, none⟩, ⟨2, 5, 20, 30, none⟩] }

theorem spreadDeals_identifies : spreadDeals.Identifies dealRoots := by
  unfold FlatTable.Identifies
  decide

def spreadSource (request : Request) : RowSource Id DealRow Int :=
  spreadDeals.source dealRoots (request.rootQuery dealRoots.view dealEntity) readInteger

theorem spreadSource_answers {request : Request} {plan : JoinPlan}
    (planned : JoinPlan.make dealRoots.view dealEntity request = .ok plan) :
    spreadDeals.Answers dealRoots dealEntity plan (spreadSource request) :=
  spreadDeals.source_answers dealColumns_plain (fun _ => rfl) request request.offset planned

/-- Three groups of deals, sorted by a budget of a program. -/
def threeByBudget : Request :=
  { byBudget with limit := 3 }

theorem spreadDeals_matchesByRoot :
    spreadDeals.MatchesByRoot dealRoots.ids (threeByBudget.rootQuery dealRoots.view dealEntity) := by
  unfold FlatTable.MatchesByRoot
  decide

end Sample

open Sample in
/-- Without a filter the first deal is listed around the second, and shown once, before it. -/
theorem RootView.keeps_order_threeByBudget :
    spreadDeals.Identifies dealRoots
      ∧ ∃ plan, JoinPlan.make dealRoots.view dealEntity threeByBudget = .ok plan
        ∧ spreadDeals.Answers dealRoots dealEntity plan (spreadSource threeByBudget)
        ∧ (spreadSource threeByBudget).rootIds plan.rootIds = pure [1, 2, 1]
        ∧ ∃ rows page, dealRoots.findPage (spreadSource threeByBudget) dealEntity threeByBudget = pure page
          ∧ page.total = 2
          ∧ page.content = Fold.nestRoots dealRoots.ids dealRoots.assembler rows
          ∧ Fold.rootIds dealRoots.ids rows = [1, 2] := by
  obtain ⟨plan, planned⟩ : ∃ plan, JoinPlan.make dealRoots.view dealEntity threeByBudget = .ok plan := ⟨_, rfl⟩
  have answers := spreadSource_answers planned
  obtain ⟨listed, rows, page, ids, -, found, total, content, -, -, -, -, -, -, kept⟩ :=
    keeps_order_iff spreadDeals_identifies planned answers
  have window : (spreadSource threeByBudget).rootIds plan.rootIds = pure [1, 2, 1] := answers.listed planned
  obtain rfl : listed = [1, 2, 1] := Except.ok.inj (ids.symm.trans window)
  refine ⟨spreadDeals_identifies, plan, planned, answers, window, rows, page, found, total, content, ?_⟩
  exact kept (.inr ⟨spreadDeals_matchesByRoot, rfl⟩)

namespace Sample

/-- Two deals with a program of at least twenty, sorted by a budget of a program. -/
def ampleByBudget : Request :=
  { byBudget with filters := [⟨"budget", .gte, .single "20", by decide⟩] }

end Sample

open Sample in
/-- The second deal is listed first, for its matching row; but the other program of the first deal has the least
budget of all, so the page shows the first deal first. -/
theorem RootView.page_reorders_deals :
    spreadDeals.Identifies dealRoots
      ∧ ∃ plan, JoinPlan.make dealRoots.view dealEntity ampleByBudget = .ok plan
        ∧ spreadDeals.Answers dealRoots dealEntity plan (spreadSource ampleByBudget)
        ∧ (spreadSource ampleByBudget).rootIds plan.rootIds = pure [2, 1]
        ∧ ∃ page, dealRoots.findPage (spreadSource ampleByBudget) dealEntity ampleByBudget = pure page
          ∧ page.content = [(1, [(10, []), (11, [])]), (2, [(20, [])])]
          ∧ page.content.map (·.1) ≠ firstOccurrences [2, 1] := by
  obtain ⟨plan, planned⟩ : ∃ plan, JoinPlan.make dealRoots.view dealEntity ampleByBudget = .ok plan := ⟨_, rfl⟩
  have answers := spreadSource_answers planned
  exact ⟨spreadDeals_identifies, plan, planned, answers, answers.listed planned,
    Page.new [(1, [(10, []), (11, [])]), (2, [(20, [])])] 2 ampleByBudget, rfl, rfl, by decide⟩

end QueryFilter
