/-
The bounds of a page.

A request without a limit, or with one that is not positive, gets the default; a limit above the maximum is
lowered to it. Main statement: limits that are built allow at least one row and have a default within the
maximum.
-/

namespace QueryFilter

structure PageLimits where
  default : Int
  maximum : Int
  deriving DecidableEq, Repr

namespace PageLimits

/-- The limits used when none are given. -/
def standard : PageLimits := ⟨20, 100⟩

/-- The limits of a wanted default and a wanted maximum, each the standard one if not given. The maximum is
at least one and the default lies between one and the maximum. -/
def build (default maximum : Option Int) : PageLimits :=
  let top := max (maximum.getD standard.maximum) 1
  ⟨min (max (default.getD standard.default) 1) top, top⟩

/-- The number of rows a request gets. -/
def clampLimit (limits : PageLimits) : Option Int → Int
  | some limit => if 0 < limit then min limit limits.maximum else limits.default
  | none => limits.default

/-- The number of rows a request skips, never negative. -/
def clampOffset (_limits : PageLimits) (offset : Option Int) : Int :=
  max (offset.getD 0) 0

theorem build_bounds (default maximum : Option Int) :
    1 ≤ (build default maximum).default ∧
      (build default maximum).default ≤ (build default maximum).maximum := by
  simp only [build]
  omega

end PageLimits

end QueryFilter
