/-
Pages and the windows they are made for.

A request asks for a window of rows, and its page is the one the window begins on when the rows are cut into pages of
its size (`Request.wholePage`). The flags of a page say what stands before and after that whole page
(`Page.describes_wholePage`). They say it of the window as well when the window begins where its page does; another
window reaches beyond its page, and rows that stand before it may be on its page (`Page.flags_describe_iff`).
-/
import Mathlib.Algebra.Order.Ring.Int
import QueryFilter.Paging.Page

namespace QueryFilter

namespace Request

/-- The request for a page by its number. -/
def atPage (request : Request) (i : Nat) : Request :=
  { request with offset := i * request.limit }

/-- The request for the whole page that the window begins on. -/
def wholePage (request : Request) : Request :=
  { request with offset := request.offset / request.limit * request.limit }

variable {request : Request}

@[simp] theorem offset_wholePage : request.wholePage.offset = request.offset / request.limit * request.limit := rfl

@[simp] theorem limit_wholePage : request.wholePage.limit = request.limit := rfl

theorem page_eq (positive : 1 ≤ request.limit) (start : 0 ≤ request.offset) :
    request.page = request.offset / request.limit := by
  rw [page, if_pos (by omega), Int.tdiv_eq_ediv_of_nonneg start]

/-- A window begins on its page. -/
theorem wholePage_bounds (positive : 1 ≤ request.limit) :
    request.wholePage.offset ≤ request.offset ∧ request.offset < request.wholePage.offset + request.limit := by
  have below := Int.ediv_mul_le request.offset (show request.limit ≠ 0 by omega)
  have above := Int.lt_ediv_add_one_mul_self request.offset (show 0 < request.limit by omega)
  rw [Int.add_mul, Int.one_mul] at above
  exact ⟨below, above⟩

theorem wholePage_eq_self (whole : request.limit ∣ request.offset) : request.wholePage = request := by
  rw [wholePage, Int.ediv_mul_cancel whole]

/-- A page stands before another when a window on it begins a whole page after the first row. -/
theorem wholePage_pos_iff (positive : 1 ≤ request.limit) :
    0 < request.wholePage.offset ↔ request.limit ≤ request.offset := by
  have past := Int.le_ediv_iff_mul_le (a := 1) (b := request.offset) (show 0 < request.limit by omega)
  rw [Int.one_mul] at past
  rw [← past, offset_wholePage]
  exact mul_pos_iff_of_pos_right (by omega)

end Request

namespace Page

variable {α : Type}

/-- The flags of a page say whether rows stand before a window and whether rows stand after it. -/
structure Describes (page : Page α) (request : Request) : Prop where
  previous : page.hasPrevious = true ↔ 0 < request.offset
  first : page.isFirst = true ↔ ¬ 0 < request.offset
  next : page.hasNext = true ↔ request.offset + request.limit < page.total
  last : page.isLast = true ↔ ¬ request.offset + request.limit < page.total

variable (content : List α) {total : Int} {request : Request}

@[simp] theorem number_new : (new content total request).number = request.page := rfl

@[simp] theorem size_new : (new content total request).size = request.limit := rfl

@[simp] theorem total_new : (new content total request).total = total := rfl

/-- There are more pages than a number when the page of that number begins before the end. -/
theorem lt_totalPages_iff (positive : 1 ≤ request.limit) (nonneg : 0 ≤ total) (i : Int) :
    i < (new content total request).totalPages ↔ i * request.limit < total := by
  have full := Int.le_ediv_iff_mul_le (a := i + 1) (b := total + request.limit - 1)
    (show 0 < request.limit by omega)
  rw [Int.add_mul, Int.one_mul] at full
  have sized : ¬ (new content total request).size ≤ 0 := by
    rw [size_new]
    omega
  rw [totalPages, if_neg sized, size_new, total_new, Int.tdiv_eq_ediv_of_nonneg (by omega)]
  omega

theorem isLast_iff (page : Page α) : page.isLast = true ↔ ¬ page.hasNext = true := by
  simp [hasNext_eq_not_isLast]

theorem isFirst_iff (page : Page α) (natural : 0 ≤ page.number) :
    page.isFirst = true ↔ ¬ page.hasPrevious = true := by
  simp only [isFirst, hasPrevious, decide_eq_true_eq]
  omega

/-- The flags of a page describe the whole page its window begins on. -/
theorem describes_wholePage (positive : 1 ≤ request.limit) (start : 0 ≤ request.offset) (nonneg : 0 ≤ total) :
    (new content total request).Describes request.wholePage := by
  have number := Request.page_eq positive start
  have natural : 0 ≤ request.offset / request.limit := Int.ediv_nonneg start (by omega)
  have previous : (new content total request).hasPrevious = true ↔ 0 < request.wholePage.offset := by
    simp only [hasPrevious, number_new, number, decide_eq_true_eq, Request.offset_wholePage]
    exact (mul_pos_iff_of_pos_right (by omega)).symm
  have next : (new content total request).hasNext = true ↔
      request.wholePage.offset + request.wholePage.limit < total := by
    have after := lt_totalPages_iff content positive nonneg (request.offset / request.limit + 1)
    rw [Int.add_mul, Int.one_mul] at after
    simpa only [hasNext, number_new, number, decide_eq_true_eq, Request.offset_wholePage, Request.limit_wholePage]
      using after
  refine ⟨previous, ?_, next, ?_⟩
  · rw [isFirst_iff _ (by rwa [number_new, number]), previous]
  · rw [isLast_iff, next, total_new]

/-- Flags that describe one window describe another of the same rows exactly when rows stand before both or neither,
and after both or neither. -/
theorem Describes.iff_of {page : Page α} {request request' : Request} (describes : page.Describes request) :
    page.Describes request' ↔ (0 < request.offset ↔ 0 < request'.offset)
      ∧ (request.offset + request.limit < page.total ↔ request'.offset + request'.limit < page.total) := by
  constructor
  · intro describes'
    exact ⟨describes.previous.symm.trans describes'.previous, describes.next.symm.trans describes'.next⟩
  · intro ⟨before, after⟩
    exact ⟨describes.previous.trans before, describes.first.trans (not_congr before), describes.next.trans after,
      describes.last.trans (not_congr after)⟩

/-- **What the flags of a page describe.** They describe the whole page its window begins on: there is a previous page
when a whole page stands before the window, and a next page when rows stand after the end of the page. So they
describe the window itself exactly when it begins at the first row or a whole page after it, and rows stand after it
if they do after its page; and always when it begins where its page does. A window they place first begins on the first
page, and one they place last has no row after it. -/
theorem flags_describe_iff (positive : 1 ≤ request.limit) (start : 0 ≤ request.offset) (nonneg : 0 ≤ total) :
    (new content total request).Describes request.wholePage
      ∧ (0 < request.wholePage.offset ↔ request.limit ≤ request.offset)
      ∧ ((new content total request).Describes request ↔
        (request.offset = 0 ∨ request.limit ≤ request.offset)
          ∧ (request.wholePage.offset + request.limit < total → request.offset + request.limit < total))
      ∧ (request.limit ∣ request.offset → (new content total request).Describes request)
      ∧ ((new content total request).hasPrevious = true → 0 < request.offset)
      ∧ (request.offset + request.limit < total → (new content total request).hasNext = true) := by
  have page := describes_wholePage content positive start nonneg
  have before := Request.wholePage_pos_iff positive
  have bounds := Request.wholePage_bounds positive
  refine ⟨page, before, ?_, ?_, ?_, ?_⟩
  · rw [page.iff_of, before, total_new, Request.limit_wholePage]
    omega
  · intro whole
    rwa [Request.wholePage_eq_self whole] at page
  · intro previous
    have pos := page.previous.1 previous
    omega
  · intro after
    refine page.next.2 ?_
    rw [Request.limit_wholePage, total_new]
    omega

end Page

namespace Sample

/-- Ten rows from the twenty-sixth on, in the middle of the third page. -/
def fromTwentySixth : Request :=
  .new .standard (some 10) (some 25)

/-- Ten rows from the sixth on, in the middle of the first page. -/
def fromSixth : Request :=
  .new .standard (some 10) (some 5)

end Sample

open Sample in
/-- Among 36 rows there are pages before and after the third, and rows before and after the window from its middle. -/
theorem Page.flags_describe_iff_thirdPage :
    1 ≤ fromTwentySixth.limit ∧ 0 ≤ fromTwentySixth.offset ∧ (0 : Int) ≤ 36
      ∧ fromTwentySixth.wholePage.offset = 20
      ∧ (new (List.range 10) 36 fromTwentySixth).Describes fromTwentySixth := by
  have positive : 1 ≤ fromTwentySixth.limit := by decide
  have start : 0 ≤ fromTwentySixth.offset := by decide
  have nonneg : (0 : Int) ≤ 36 := by decide
  obtain ⟨-, -, describes, -, -, -⟩ := flags_describe_iff (List.range 10) positive start nonneg
  exact ⟨positive, start, nonneg, by decide, describes.2 (by decide)⟩

open Sample in
/-- Five of twelve rows stand before the window from the sixth on and none after it, but its page is the first one and
not the last. -/
theorem Page.flags_miss_window :
    1 ≤ fromSixth.limit ∧ 0 ≤ fromSixth.offset
      ∧ ¬ ((new (List.range 7) 12 fromSixth).hasPrevious = true ↔ 0 < fromSixth.offset)
      ∧ ¬ ((new (List.range 7) 12 fromSixth).hasNext = true ↔ fromSixth.offset + fromSixth.limit < 12)
      ∧ ¬ (new (List.range 7) 12 fromSixth).Describes fromSixth := by
  have missed : ¬ ((new (List.range 7) 12 fromSixth).hasPrevious = true ↔ 0 < fromSixth.offset) := by decide
  exact ⟨by decide, by decide, missed, by decide, fun describes => missed describes.previous⟩

end QueryFilter
