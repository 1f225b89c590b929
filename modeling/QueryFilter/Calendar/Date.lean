/-
Dates of the proleptic Gregorian calendar.

A date is valid by construction. Years run from -262143 to 262142. A date is read as year, month and day
with hyphens between; white space may stand before each number, and only a year with a sign may have more
than four digits.
-/
import QueryFilter.Text.Digits
import QueryFilter.Text.Space

namespace QueryFilter

namespace Calendar

def leastYear : Int := -262143

def greatestYear : Int := 262142

/-- Every fourth year is a leap year, but of the centuries only every fourth. -/
def isLeap (year : Int) : Bool :=
  year % 4 == 0 && (year % 100 != 0 || year % 400 == 0)

/-- The number of days in a month, zero for a number that is no month. -/
def daysIn (year : Int) : Nat → Nat
  | 2 => if isLeap year then 29 else 28
  | 4 | 6 | 9 | 11 => 30
  | 1 | 3 | 5 | 7 | 8 | 10 | 12 => 31
  | _ => 0

/-- Whether a year, a month and a day make a date. -/
def IsDate (year : Int) (month day : Nat) : Prop :=
  leastYear ≤ year ∧ year ≤ greatestYear ∧ 1 ≤ day ∧ day ≤ daysIn year month

instance (year : Int) (month day : Nat) : Decidable (IsDate year month day) :=
  inferInstanceAs (Decidable (_ ∧ _))

end Calendar

structure Date where
  year : Int
  month : Nat
  day : Nat
  valid : Calendar.IsDate year month day
  deriving DecidableEq, Repr

namespace Date

open Calendar

/-- The date of a year, a month and a day, if there is one. -/
def of? (year : Int) (month day : Nat) : Option Date :=
  if valid : IsDate year month day then some ⟨year, month, day, valid⟩ else none

/-- The day after, unless the calendar ends. -/
def next? (date : Date) : Option Date :=
  if date.day < daysIn date.year date.month then of? date.year date.month (date.day + 1)
  else if date.month < 12 then of? date.year (date.month + 1) 1
  else of? (date.year + 1) 1 1

/-- The day before, unless the calendar ends. -/
def previous? (date : Date) : Option Date :=
  if 1 < date.day then of? date.year date.month (date.day - 1)
  else if 1 < date.month then of? date.year (date.month - 1) (daysIn date.year (date.month - 1))
  else of? (date.year - 1) 12 31

/-- The year as text: four digits at least, and a sign outside the years 0 to 9999. -/
def renderYear (year : Int) : String :=
  if year < 0 then "-" ++ Text.padded 4 year.natAbs
  else if 9999 < year then "+" ++ Text.padded 4 year.natAbs
  else Text.padded 4 year.natAbs

def render (date : Date) : String :=
  renderYear date.year ++ "-" ++ Text.padded 2 date.month ++ "-" ++ Text.padded 2 date.day

/-- The year in front of a text: up to four digits, or any number of them after a sign. -/
def takeYear? (text : List Char) : Option (Int × List Char) :=
  match Text.trimStart text with
  | '-' :: rest => (Text.takeNumber? rest.length rest).map fun (n, rest) => (-(n : Int), rest)
  | '+' :: rest => (Text.takeNumber? rest.length rest).map fun (n, rest) => ((n : Int), rest)
  | rest => (Text.takeNumber? 4 rest).map fun (n, rest) => ((n : Int), rest)

/-- A number of one or two digits in front of a text, with white space before it. -/
def takePart? (text : List Char) : Option (Nat × List Char) :=
  Text.takeNumber? 2 (Text.trimStart text)

/-- The date in front of a text. -/
def take? (text : List Char) : Option (Date × List Char) := do
  let (year, rest) ← takeYear? text
  let rest ← Text.expect? '-' rest
  let (month, rest) ← takePart? rest
  let rest ← Text.expect? '-' rest
  let (day, rest) ← takePart? rest
  let date ← of? year month day
  return (date, rest)

/-- The date a text writes. -/
def ofPlain? (text : List Char) : Option Date :=
  match take? text with
  | some (date, []) => some date
  | _ => none

theorem of?_self (date : Date) : of? date.year date.month date.day = some date := by
  simp [of?, date.valid]

theorem of?_eq_some_iff {year : Int} {month day : Nat} {date : Date} :
    of? year month day = some date ↔ date.year = year ∧ date.month = month ∧ date.day = day := by
  unfold of?
  split
  · constructor
    · intro h; cases h; exact ⟨rfl, rfl, rfl⟩
    · rintro ⟨rfl, rfl, rfl⟩; rfl
  · rename_i invalid
    constructor
    · intro h; cases h
    · rintro ⟨rfl, rfl, rfl⟩; exact absurd date.valid invalid

end Date

end QueryFilter
