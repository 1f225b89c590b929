/-
Points in time, to the nanosecond, in coordinated universal time.

A timestamp is read in the profile of RFC 3339, whose offset from universal time is taken off; without an
offset, or as a bare date, it is universal time already. A minute may have a sixtieth second, which stays
one under every offset, because offsets are whole minutes.
-/
import QueryFilter.Calendar.Date

namespace QueryFilter

namespace Calendar

/-- Whether four numbers make a time of day; second sixty is the leap second. -/
def IsTime (hour minute second nanosecond : Nat) : Prop :=
  hour < 24 ∧ minute < 60 ∧ second ≤ 60 ∧ nanosecond < 1000000000

instance (hour minute second nanosecond : Nat) : Decidable (IsTime hour minute second nanosecond) :=
  inferInstanceAs (Decidable (_ ∧ _))

end Calendar

structure Timestamp where
  date : Date
  hour : Nat
  minute : Nat
  second : Nat
  nanosecond : Nat
  valid : Calendar.IsTime hour minute second nanosecond
  deriving DecidableEq, Repr

namespace Timestamp

open Calendar

/-- The timestamp of a date and a time of day, if the numbers make a time of day. -/
def of? (date : Date) (hour minute second nanosecond : Nat) : Option Timestamp :=
  if valid : IsTime hour minute second nanosecond then
    some ⟨date, hour, minute, second, nanosecond, valid⟩
  else none

/-- The timestamp a number of minutes earlier, fewer than a day's, unless the calendar ends. -/
def earlier? (t : Timestamp) (minutes : Int) : Option Timestamp := do
  let total : Int := t.hour * 60 + t.minute - minutes
  let date ← if total < 0 then t.date.previous? else if 1440 ≤ total then t.date.next? else some t.date
  let minuteOfDay := (total % 1440).toNat
  of? date (minuteOfDay / 60) (minuteOfDay % 60) t.second t.nanosecond

/-- The fraction of a second as text: nothing when it is zero, else the fewest of three, six and nine
digits that are exact. -/
def renderFraction (nanosecond : Nat) : String :=
  if nanosecond = 0 then ""
  else if nanosecond % 1000000 = 0 then "." ++ Text.padded 3 (nanosecond / 1000000)
  else if nanosecond % 1000 = 0 then "." ++ Text.padded 6 (nanosecond / 1000)
  else "." ++ Text.padded 9 nanosecond

def render (t : Timestamp) : String :=
  t.date.render ++ "T" ++ Text.padded 2 t.hour ++ ":" ++ Text.padded 2 t.minute ++ ":"
    ++ Text.padded 2 t.second ++ renderFraction t.nanosecond ++ "Z"

/-- The fraction of a second in front of a text, in nanoseconds: digits beyond the ninth are passed over. -/
def takeFraction? : List Char → Option (Nat × List Char)
  | '.' :: rest =>
    let digits := rest.takeWhile Text.isDigit
    if digits.isEmpty then none
    else
      let kept := digits.take 9
      some (Text.digitsValue kept * Nat.pow 10 (9 - kept.length), rest.drop digits.length)
  | rest => some (0, rest)

/-- The hours and minutes of an offset of less than a day, in minutes. -/
def readOffsetMinutes? (text : List Char) : Option Nat := do
  let (hours, rest) ← Text.takeExactly? 2 text
  let rest ← Text.expect? ':' rest
  let (minutes, rest) ← Text.takeExactly? 2 rest
  if rest.isEmpty ∧ hours < 24 ∧ minutes < 60 then some (hours * 60 + minutes) else none

/-- The offset from universal time, in minutes, that ends a timestamp. Its minus may be the minus sign
proper as well as the hyphen. -/
def readOffset? : List Char → Option Int
  | ['Z'] | ['z'] => some 0
  | '+' :: rest => (readOffsetMinutes? rest).map fun n => (n : Int)
  | '-' :: rest | '\u2212' :: rest => (readOffsetMinutes? rest).map fun n => -(n : Int)
  | _ => none

/-- The local time and the offset of a text in the profile of RFC 3339: every number has all its digits,
and the date and the time have a letter T or a blank between. -/
def readInternet? (text : List Char) : Option (Timestamp × Int) := do
  let (year, rest) ← Text.takeExactly? 4 text
  let rest ← Text.expect? '-' rest
  let (month, rest) ← Text.takeExactly? 2 rest
  let rest ← Text.expect? '-' rest
  let (day, rest) ← Text.takeExactly? 2 rest
  let rest ← (Text.expect? 'T' rest).or ((Text.expect? 't' rest).or (Text.expect? ' ' rest))
  let (hour, rest) ← Text.takeExactly? 2 rest
  let rest ← Text.expect? ':' rest
  let (minute, rest) ← Text.takeExactly? 2 rest
  let rest ← Text.expect? ':' rest
  let (second, rest) ← Text.takeExactly? 2 rest
  let (nanosecond, rest) ← takeFraction? rest
  let offset ← readOffset? rest
  let date ← Date.of? year month day
  let t ← of? date hour minute second nanosecond
  return (t, offset)

/-- The timestamp of a text in the profile of RFC 3339, in universal time. -/
def ofInternet? (text : List Char) : Option Timestamp :=
  (readInternet? text).bind fun (t, offset) => t.earlier? offset

/-- The timestamp of a text without an offset, taken as universal time. -/
def ofLocal? (text : List Char) : Option Timestamp := do
  let (date, rest) ← Date.take? text
  let rest ← Text.expect? 'T' rest
  let (hour, rest) ← Date.takePart? rest
  let rest ← Text.expect? ':' rest
  let (minute, rest) ← Date.takePart? rest
  let rest ← Text.expect? ':' rest
  let (second, rest) ← Date.takePart? rest
  if rest.isEmpty then of? date hour minute second 0 else none

/-- The first moment of a date. -/
def ofDate (date : Date) : Timestamp :=
  ⟨date, 0, 0, 0, 0, by decide⟩

/-- The timestamp a text writes, with white space around it or none. -/
def ofText? (text : List Char) : Option Timestamp :=
  let trimmed := Text.trim text
  (ofInternet? trimmed).or ((ofLocal? trimmed).or ((Date.ofPlain? trimmed).map ofDate))

end Timestamp

/-- The date a text writes, with white space around it or none; of a timestamp in the profile of RFC 3339
it is the local date. -/
def Date.ofText? (text : List Char) : Option Date :=
  let trimmed := Text.trim text
  (Date.ofPlain? trimmed).or ((Timestamp.readInternet? trimmed).map fun (t, _) => t.date)

end QueryFilter
