/-
Sort text as a whole.

Sort text is a list of `field` or `field:direction` segments with commas between them; a direction left out
is ascending. As with filter text, `collect` gives the keys of the good segments and the faults of the bad
ones, and `read` accepts a text without a bad segment.
-/
import QueryFilter.Failure
import QueryFilter.Sort.Key
import QueryFilter.Text.Split

namespace QueryFilter

/-- Why a sort segment is no key. -/
inductive SortFault where
  | noField
  | unknownDirection (code : String)
  deriving DecidableEq, Repr

def SortFault.message : SortFault → String
  | noField => "Field name cannot be empty"
  | unknownDirection code => "Unknown sort direction '" ++ code ++ "' (expected asc or desc)"

namespace SortText

/-- The segments of a text, trimmed, the blank ones left out. -/
def segments (text : List Char) : List (List Char) :=
  ((Text.splitOn ',' text).map Text.trim).filter fun segment => !segment.isEmpty

/-- The key a segment writes. -/
def readSegment (segment : List Char) : Except SortFault SortKey :=
  let (field, direction) := Text.cut ':' segment
  let code := Text.trim (direction.getD [])
  if Text.isBlank field then .error .noField
  else if code.isEmpty then .ok ⟨String.ofList (Text.trim field), .asc⟩
  else
    match Direction.ofCode? (String.ofList code) with
    | none => .error (.unknownDirection (String.ofList code))
    | some direction => .ok ⟨String.ofList (Text.trim field), direction⟩

/-- A segment that is no key, and why. -/
structure BadSegment where
  segment : String
  fault : SortFault
  deriving DecidableEq, Repr

def BadSegment.message (bad : BadSegment) : String :=
  "Invalid sort '" ++ bad.segment ++ "': " ++ bad.fault.message

/-- The heading of the failure that lists malformed sort segments. -/
def malformedHeading : String :=
  "Sort parsing failed"

/-- The keys and the bad segments among some segments, each kind in order. -/
def collectSegments : List (List Char) → List SortKey × List BadSegment
  | [] => ([], [])
  | segment :: segments =>
    let (keys, bad) := collectSegments segments
    match readSegment segment with
    | .ok key => (key :: keys, bad)
    | .error fault => (keys, ⟨String.ofList segment, fault⟩ :: bad)

/-- The keys and the bad segments of sort text. -/
def collect (text : String) : List SortKey × List BadSegment :=
  collectSegments (segments text.toList)

/-- The keys of sort text, refused when a segment is bad. -/
def read (text : String) : Except Failure (List SortKey) :=
  let (keys, bad) := collect text
  if bad.isEmpty then .ok keys
  else .error (.malformed malformedHeading (bad.map BadSegment.message))

/-- Keys as sort text. -/
def render (keys : List SortKey) : String :=
  ",".intercalate (keys.map SortKey.render)

end SortText

end QueryFilter
