/-
Going through all pages.

From the first row on, windows are asked for one after another as long as the page has a next one (`Request.Walk`).
A step goes on to the page of the next number, and is made while rows are left (`Request.hasNext_atPage`). So there is
just one walk from the first row, and it ends at the page the last row is on (`Request.walk_atPage_iff`); its windows
take the rows apart, and its pages are numbered in turn (`Request.walk_tours`).
-/
import Mathlib.Data.Set.Basic
import QueryFilter.Number.Whole
import QueryFilter.Proofs.Paging.Window

namespace QueryFilter

/-- The page is the one of a number among so many pages, and its flags say whether it is the first and the last. -/
structure Page.IsNth {α : Type} (page : Page α) (i pages : Nat) : Prop where
  number : page.number = i
  count : max 1 page.totalPages = pages
  first : page.isFirst = true ↔ i = 0
  previous : page.hasPrevious = true ↔ i ≠ 0
  last : page.isLast = true ↔ i + 1 = pages
  next : page.hasNext = true ↔ i + 1 ≠ pages

namespace Request

/-- The request for the window after this one. -/
def next (request : Request) : Request :=
  { request with offset := request.offset + request.limit }

/-- The places of the window, with rows or without. -/
def window (request : Request) : Set Int :=
  {row | request.offset ≤ row ∧ row < request.offset + request.limit}

/-- The places that have rows, when there are so many. -/
def filled (total : Int) : Set Int :=
  {row | 0 ≤ row ∧ row < total}

section

variable {α : Type} (content : Request → List α) (total : Int)

/-- The page made for a request, with the content its window has. -/
def shown (request : Request) : Page α :=
  .new (content request) total request

/-- The requests that are made from one on, for one window after another as long as there is a next page. -/
inductive Walk : Request → List Request → Prop where
  | last {request : Request} (done : (shown content total request).hasNext = false) : Walk request [request]
  | next {request : Request} {later : List Request} (more : (shown content total request).hasNext = true)
    (walk : Walk request.next later) : Walk request (request :: later)

/-- The windows of the requests take the rows of a total apart, and their pages are numbered in turn. -/
structure Tours (visited : List Request) : Prop where
  nonempty : visited ≠ []
  numbered : ∀ (i : Nat) (request : Request), visited[i]? = some request →
    (shown content total request).IsNth i visited.length
  disjoint : visited.Pairwise fun request request' => ∀ row ∈ request.window, row ∉ request'.window
  covers : ∀ row ∈ filled total, ∃ request ∈ visited, row ∈ request.window
  full : ∀ request ∈ visited.dropLast, request.window ⊆ filled total
  visible : 0 < total → ∀ request ∈ visited.getLast?, (request.window ∩ filled total).Nonempty

variable {content total} {request : Request} {visited : List Request}

theorem walk_iff_of_last (done : (shown content total request).hasNext = false) :
    Walk content total request visited ↔ visited = [request] := by
  constructor
  · intro walk
    cases walk with
    | last => rfl
    | next more => simp [more] at done
  · intro alone
    subst alone
    exact .last done

theorem walk_iff_of_next (more : (shown content total request).hasNext = true) :
    Walk content total request visited ↔
      ∃ later, visited = request :: later ∧ Walk content total request.next later := by
  constructor
  · intro walk
    cases walk with
    | last done => simp [more] at done
    | next _ walk => exact ⟨_, rfl, walk⟩
  · intro ⟨later, split, walk⟩
    subst split
    exact .next more walk

end

/-! ## Pages by their number -/

section

variable {α : Type} (content : Request → List α) {total : Int} {request : Request}

@[simp] theorem limit_atPage (request : Request) (i : Nat) : (request.atPage i).limit = request.limit := rfl

@[simp] theorem offset_atPage (request : Request) (i : Nat) : (request.atPage i).offset = i * request.limit := rfl

theorem atPage_zero (start : request.offset = 0) : request.atPage 0 = request := by
  obtain ⟨limit, offset, filterText, sortText, filters, sorts⟩ := request
  simp_all [atPage]

theorem next_atPage (request : Request) (i : Nat) : (request.atPage i).next = request.atPage (i + 1) := by
  simp [next, atPage, Int.add_mul]

theorem offset_atPage_nonneg (positive : 1 ≤ request.limit) (i : Nat) : 0 ≤ (request.atPage i).offset :=
  Int.mul_nonneg (Int.natCast_nonneg i) (by omega)

/-- The page after that of a number begins where that page ends. -/
theorem succ_mul_limit (request : Request) (i : Nat) :
    ((i + 1 : Nat) : Int) * request.limit = i * request.limit + request.limit := by
  rw [Nat.cast_succ, Int.add_mul, Int.one_mul]

theorem number_shown (positive : 1 ≤ request.limit) (i : Nat) :
    (shown content total (request.atPage i)).number = i := by
  have positive' : 1 ≤ (request.atPage i).limit := positive
  rw [shown, Page.number_new, page_eq positive' (offset_atPage_nonneg positive i), offset_atPage, limit_atPage,
    Int.mul_ediv_cancel _ (by omega)]

/-- The page the last row is on, or the first one when there are no rows. -/
def lastPage (total : Int) (request : Request) : Nat :=
  ((total - 1) / request.limit).toNat

/-- The pages up to the last one are the first and those that begin at a row. -/
theorem le_lastPage_iff (total : Int) (positive : 1 ≤ request.limit) (i : Nat) :
    i ≤ lastPage total request ↔ i = 0 ∨ i * request.limit < total := by
  have begins := Int.le_ediv_iff_mul_le (a := i) (b := total - 1) (show 0 < request.limit by omega)
  rw [lastPage]
  omega

theorem lt_totalPages_atPage_iff (positive : 1 ≤ request.limit) (nonneg : 0 ≤ total) (i : Nat) (j : Int) :
    j < (shown content total (request.atPage i)).totalPages ↔ j * request.limit < total :=
  Page.lt_totalPages_iff _ (show 1 ≤ (request.atPage i).limit from positive) nonneg j

theorem totalPages_atPage (positive : 1 ≤ request.limit) (nonneg : 0 ≤ total) (i : Nat) :
    max 1 (shown content total (request.atPage i)).totalPages = (lastPage total request + 1 : Nat) := by
  have pages := lt_totalPages_atPage_iff content positive nonneg i
  have begins := le_lastPage_iff total positive
  -- The last page is there, and the one after it is not.
  have last := (begins (lastPage total request)).1 (Nat.le_refl _)
  have past := (begins (lastPage total request + 1)).not.1 (by omega)
  have here := pages (lastPage total request)
  have beyond := pages (lastPage total request + 1 : Nat)
  have any := pages 0
  rw [Int.zero_mul] at any
  omega

/-- There is a page after that of a number when it is not the last. -/
theorem hasNext_atPage (positive : 1 ≤ request.limit) (nonneg : 0 ≤ total) (i : Nat) :
    (shown content total (request.atPage i)).hasNext = true ↔ i < lastPage total request := by
  have after := lt_totalPages_atPage_iff content positive nonneg i (i + 1 : Nat)
  have begins := le_lastPage_iff total positive (i + 1)
  rw [Page.hasNext, decide_eq_true_eq, number_shown content positive]
  omega

theorem isNth_atPage (positive : 1 ≤ request.limit) (nonneg : 0 ≤ total) {i : Nat}
    (bound : i ≤ lastPage total request) :
    (shown content total (request.atPage i)).IsNth i (lastPage total request + 1) := by
  have number : (shown content total (request.atPage i)).number = i := number_shown content positive i
  have previous : (shown content total (request.atPage i)).hasPrevious = true ↔ i ≠ 0 := by
    rw [Page.hasPrevious, decide_eq_true_eq, number]
    omega
  have next := hasNext_atPage content positive nonneg i
  refine ⟨number, totalPages_atPage content positive nonneg i, ?_, previous, ?_, ?_⟩
  · rw [Page.isFirst_iff _ (by omega), previous, not_not]
  · rw [Page.isLast_iff, next]
    omega
  · rw [next]
    omega

/-- From a page on there is one walk, and it goes to the last page. -/
theorem walk_atPage_iff (positive : 1 ≤ request.limit) (nonneg : 0 ≤ total) {i left : Nat} {visited : List Request}
    (rest : i + left = lastPage total request) :
    Walk content total (request.atPage i) visited ↔ visited = (List.range' i (left + 1)).map request.atPage := by
  induction left generalizing i visited with
  | zero =>
    have done : (shown content total (request.atPage i)).hasNext = false := by
      rw [← Bool.not_eq_true, hasNext_atPage content positive nonneg]
      omega
    exact walk_iff_of_last done
  | succ left ih =>
    have more : (shown content total (request.atPage i)).hasNext = true := by
      rw [hasNext_atPage content positive nonneg]
      omega
    rw [walk_iff_of_next more, next_atPage, List.range'_succ, List.map_cons]
    simp only [ih (show i + 1 + left = lastPage total request by omega)]
    constructor
    · intro ⟨later, split, goes⟩
      rw [split, goes]
    · intro split
      exact ⟨_, split, rfl⟩

/-! ## The whole walk -/

/-- Windows of pages of different numbers have no row in common. -/
theorem not_mem_window_of_lt (positive : 1 ≤ request.limit) {i j : Nat} (before : i < j) :
    ∀ row ∈ (request.atPage i).window, row ∉ (request.atPage j).window := by
  intro row here there
  have past : ((i + 1 : Nat) : Int) * request.limit ≤ j * request.limit :=
    Int.mul_le_mul_of_nonneg_right (by omega) (by omega)
  have upTo : row < i * request.limit + request.limit := here.2
  have from' : j * request.limit ≤ row := there.1
  rw [succ_mul_limit] at past
  omega

theorem exists_atPage (positive : 1 ≤ request.limit) {row : Int} (here : row ∈ filled total) :
    ∃ i, i ≤ lastPage total request ∧ row ∈ (request.atPage i).window := by
  obtain ⟨nonneg, bound⟩ := here
  obtain ⟨i, number⟩ := Int.eq_ofNat_of_zero_le (show 0 ≤ row / request.limit from Int.ediv_nonneg nonneg (by omega))
  have below := Int.ediv_mul_le row (show request.limit ≠ 0 by omega)
  have above := Int.lt_ediv_add_one_mul_self row (show 0 < request.limit by omega)
  rw [number, Int.add_mul, Int.one_mul] at above
  rw [number] at below
  refine ⟨i, (le_lastPage_iff total positive i).2 (.inr (by omega)), below, above⟩

theorem window_subset (positive : 1 ≤ request.limit) {i : Nat} (before : i < lastPage total request) :
    (request.atPage i).window ⊆ filled total := by
  intro row here
  have start := offset_atPage_nonneg positive i
  have begins := ((le_lastPage_iff total positive (i + 1)).1 before).resolve_left (Nat.succ_ne_zero i)
  have from' : i * request.limit ≤ row := here.1
  have upTo : row < i * request.limit + request.limit := here.2
  rw [succ_mul_limit] at begins
  rw [offset_atPage] at start
  exact ⟨by omega, by omega⟩

/-- When there are rows, the last page begins at one. -/
theorem lastPage_mul_lt (positive : 1 ≤ request.limit) (rows : 0 < total) :
    lastPage total request * request.limit < total := by
  rcases (le_lastPage_iff total positive _).1 (Nat.le_refl (lastPage total request)) with first | begins
  · rwa [first, Int.natCast_zero, Int.zero_mul]
  · exact begins

/-- No number of a walk is out of range when the sum is not that the number of pages is computed from. -/
theorem atPage_fits (positive : 1 ≤ request.limit) (fits : total + request.limit ≤ Whole.greatest) {i : Nat}
    (bound : i ≤ lastPage total request) :
    i * request.limit ≤ Whole.greatest ∧ (i : Int) + 1 ≤ Whole.greatest := by
  rcases (le_lastPage_iff total positive i).1 bound with first | begins
  · simp [first, Whole.greatest]
  · have within : (i : Int) * 1 ≤ i * request.limit :=
      Int.mul_le_mul_of_nonneg_left positive (Int.natCast_nonneg i)
    omega

/-- The walk from the first page goes through the pages by their number. -/
theorem walk_iff (start : request.offset = 0) (positive : 1 ≤ request.limit) (nonneg : 0 ≤ total)
    {visited : List Request} : Walk content total request visited ↔
      visited = (List.range (lastPage total request + 1)).map request.atPage := by
  have walks : Walk content total (request.atPage 0) visited ↔ _ :=
    walk_atPage_iff content positive nonneg (Nat.zero_add (lastPage total request))
  rwa [atPage_zero start, ← List.range_eq_range'] at walks

theorem tours_atPage (positive : 1 ≤ request.limit) (nonneg : 0 ≤ total) :
    Tours content total ((List.range (lastPage total request + 1)).map request.atPage) where
  nonempty := by simp
  numbered i visit found := by
    rw [List.getElem?_map, Option.map_eq_some_iff] at found
    obtain ⟨j, there, rfl⟩ := found
    obtain ⟨bound, rfl⟩ := List.getElem?_eq_some_iff.1 there
    rw [List.length_map, List.length_range]
    simp only [List.length_range, List.getElem_range] at bound ⊢
    exact isNth_atPage content positive nonneg (by omega)
  disjoint := by
    rw [List.pairwise_map]
    exact List.pairwise_lt_range.imp (not_mem_window_of_lt positive)
  covers row filled := by
    obtain ⟨i, last, here⟩ := exists_atPage positive filled
    exact ⟨_, List.mem_map_of_mem (List.mem_range.2 (by omega)), here⟩
  full visit mem := by
    rw [List.range_succ, List.map_append, List.map_singleton, List.dropLast_concat, List.mem_map] at mem
    obtain ⟨i, before, rfl⟩ := mem
    exact window_subset positive (List.mem_range.1 before)
  visible rows visit mem := by
    rw [List.range_succ, List.map_append, List.map_singleton, List.getLast?_concat, Option.mem_some_iff] at mem
    subst mem
    have begins := lastPage_mul_lt positive rows
    refine ⟨lastPage total request * request.limit, ⟨Int.le_refl _, ?_⟩, ?_, begins⟩
    · rw [offset_atPage, limit_atPage]
      omega
    · exact offset_atPage_nonneg positive _

/-- **Going through all pages ends and shows every row once.** From the first row on there is one walk. Its pages are
numbered in turn and know which of them is the first and which the last, and there is one for each page of the total,
or a single one without rows. Their windows have no row in common and together have all rows; only the last may reach
beyond the rows, and it has one if there are any. When the sum is in range that the number of pages is computed from,
so are all numbers on the way. -/
theorem walk_tours (start : request.offset = 0) (positive : 1 ≤ request.limit) (nonneg : 0 ≤ total) :
    ∃ visited, (∀ visited', Walk content total request visited' ↔ visited' = visited)
      ∧ Tours content total visited
      ∧ (total + request.limit ≤ Whole.greatest → ∀ visit ∈ visited,
        visit.offset ≤ Whole.greatest ∧ (shown content total visit).number + 1 ≤ Whole.greatest) := by
  refine ⟨_, fun _ => walk_iff content start positive nonneg, tours_atPage content positive nonneg, ?_⟩
  intro fits visit mem
  obtain ⟨i, here, rfl⟩ := List.mem_map.1 mem
  have bound : i ≤ lastPage total request := Nat.lt_succ_iff.1 (List.mem_range.1 here)
  rw [number_shown content positive, offset_atPage]
  exact atPage_fits positive fits bound

end

end Request

namespace Sample

/-- Ten rows from the first on. -/
def firstTen : Request :=
  .new .standard (some 10) none

/-- The numbers of the rows in a window. -/
def rowNumbers (request : Request) : List Int :=
  (List.range request.limit.toNat).map fun (i : Nat) => request.offset + i

end Sample

open Sample in
/-- Twenty rows are two pages of ten, with none after them. -/
theorem Request.walk_tours_twenty :
    firstTen.offset = 0 ∧ 1 ≤ firstTen.limit ∧ (0 : Int) ≤ 20 ∧ (20 : Int) + firstTen.limit ≤ Whole.greatest
      ∧ Walk rowNumbers 20 firstTen [firstTen, firstTen.next]
      ∧ Tours rowNumbers 20 [firstTen, firstTen.next]
      ∧ firstTen.next.offset ≤ Whole.greatest := by
  have start : firstTen.offset = 0 := by decide
  have positive : 1 ≤ firstTen.limit := by decide
  have nonneg : (0 : Int) ≤ 20 := by decide
  have fits : (20 : Int) + firstTen.limit ≤ Whole.greatest := by decide
  have walk : Walk rowNumbers 20 firstTen [firstTen, firstTen.next] := .next (by decide) (.last (by decide))
  obtain ⟨visited, only, tours, inRange⟩ := walk_tours rowNumbers start positive nonneg
  have same := (only _).1 walk
  rw [← same] at tours inRange
  exact ⟨start, positive, nonneg, fits, walk, tours, (inRange fits _ (by simp)).1⟩

end QueryFilter
