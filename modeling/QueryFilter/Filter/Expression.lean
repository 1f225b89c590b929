/-
Filter text as a whole.

Reading never stops at a bad segment: `collect` gives the criteria of the good segments and the faults of
the bad ones, both in order. `read` accepts a text that has no bad segment, so blank text is the empty
list of criteria.
-/
import QueryFilter.Failure
import QueryFilter.Filter.Segment

namespace QueryFilter.FilterText

/-- A segment that is no criterion, and why. -/
structure BadSegment where
  segment : String
  fault : FilterFault
  deriving DecidableEq, Repr

def BadSegment.message (bad : BadSegment) : String :=
  "Invalid filter '" ++ bad.segment ++ "': " ++ bad.fault.message

/-- The heading of the failure that lists malformed filter segments. -/
def malformedHeading : String :=
  "Filter parsing failed"

/-- The criteria and the bad segments among some segments, each kind in order. -/
def collectSegments : List (List Char) → List Criterion × List BadSegment
  | [] => ([], [])
  | segment :: segments =>
    let (criteria, bad) := collectSegments segments
    match FilterSegment.read segment with
    | .ok criterion => (criterion :: criteria, bad)
    | .error fault => (criteria, ⟨String.ofList segment, fault⟩ :: bad)

/-- The criteria and the bad segments of filter text. -/
def collect (text : String) : List Criterion × List BadSegment :=
  collectSegments (FilterSegment.ofText text.toList)

/-- The criteria of filter text, refused when a segment is bad. -/
def read (text : String) : Except Failure (List Criterion) :=
  let (criteria, bad) := collect text
  if bad.isEmpty then .ok criteria
  else .error (.malformed malformedHeading (bad.map BadSegment.message))

/-- Criteria as filter text. -/
def render (criteria : List Criterion) : String :=
  ",".intercalate (criteria.map Criterion.render)

end QueryFilter.FilterText
