/-
Decimal numbers with a 96-bit coefficient and up to 28 places.

Text is read digit by digit. Digits after the point that no longer fit are dropped, the first of them
deciding whether the last kept one goes up; digits before the point must fit. Underscores may stand
between and after digits. A text that does not read this way may have an exponent, which moves the point.
Trailing zeros are kept. Zero has no sign when it is read, but a negative number keeps its sign when an
exponent makes it too small for its places. `render` writes the sign and every place that is kept.
-/
import QueryFilter.Text.Digits

namespace QueryFilter

/-- Coefficients have 96 bits. -/
def Decimal.coefficientBound : Nat := 0x1000000000000000000000000

/-- The most places after the point. -/
def Decimal.maxScale : Nat := 28

/-- The number ± coefficient / 10 ^ scale. -/
structure Decimal where
  negative : Bool
  coefficient : Nat
  scale : Nat
  coefficient_lt : coefficient < Decimal.coefficientBound
  scale_le : scale ≤ Decimal.maxScale
  deriving DecidableEq, Repr

namespace Decimal

/-- The decimal of a sign, a coefficient and a scale that fit. -/
def signed? (negative : Bool) (coefficient scale : Nat) : Option Decimal :=
  if fits : coefficient < coefficientBound ∧ scale ≤ maxScale then
    some ⟨negative, coefficient, scale, fits.1, fits.2⟩
  else none

/-- The decimal of a coefficient and a scale that fit; zero is not negative. -/
def make? (negative : Bool) (coefficient scale : Nat) : Option Decimal :=
  signed? (negative && coefficient != 0) coefficient scale

/-- What has been read of a decimal: whether a digit and whether the point has been seen, the digits so far
and the number of them after the point. -/
structure Progress where
  digitSeen : Bool
  pointSeen : Bool
  coefficient : Nat
  scale : Nat
  deriving DecidableEq, Repr

/-- The coefficient and the scale after one more digit. -/
def Progress.push (p : Progress) (digit : Char) : Progress :=
  { p with
    digitSeen := true
    coefficient := p.coefficient * 10 + Text.digitValue digit
    scale := if p.pointSeen then p.scale + 1 else p.scale }

/-- The coefficient one unit up; a coefficient that leaves its range by this loses its last digit. -/
def roundUp? (coefficient scale : Nat) : Option (Nat × Nat) :=
  if coefficient + 1 < coefficientBound then some (coefficient + 1, scale)
  else if scale = 0 then none
  else some ((coefficient + 5) / 10, scale - 1)

/-- A coefficient below this bound takes one more digit in any case while it is held in 64 bits. -/
def shortBound : Nat := 0x1999999999999999 - 0xff

/-- Whether the last digit of a coefficient was read while all before it were held in 64 bits. -/
def isShort (coefficient : Nat) : Bool :=
  coefficient / 10 < shortBound

/-- The dropped characters from the one that decides the rounding. Underscores before it are passed over,
but right after the last place of a short coefficient an underscore counts as a zero. -/
def deciding (p : Progress) (rest : List Char) : List Char :=
  if isShort p.coefficient then rest else rest.dropWhile (· == '_')

/-- The coefficient and scale once the rest of the text is dropped: the rest may hold digits and underscores
only, and a deciding digit of five or more rounds up. -/
def dropRest? (p : Progress) (rest : List Char) : Option (Nat × Nat) :=
  if rest.all fun c => Text.isDigit c || c == '_' then
    match deciding p rest with
    | c :: _ => if '5' ≤ c ∧ c ≤ '9' then roundUp? p.coefficient p.scale else some (p.coefficient, p.scale)
    | [] => some (p.coefficient, p.scale)
  else none

/-- The coefficient and scale of the digits of a text, after some have been read. -/
def readDigits? (p : Progress) : List Char → Option (Nat × Nat)
  | [] => if p.digitSeen then some (p.coefficient, p.scale) else none
  | c :: rest =>
    if p.pointSeen && maxScale ≤ p.scale then dropRest? p (c :: rest)
    else if Text.isDigit c then
      if (p.push c).coefficient < coefficientBound then readDigits? (p.push c) rest
      else if p.pointSeen then dropRest? p (c :: rest)
      else none
    else if c = '.' && !p.pointSeen then readDigits? { p with pointSeen := true } rest
    else if c = '_' && p.digitSeen then readDigits? p rest
    else none

/-- The decimal a text without an exponent writes. -/
def ofPlain? (text : List Char) : Option Decimal :=
  let (negative, digits) := Text.takeSign text
  (readDigits? ⟨false, false, 0, 0⟩ digits).bind fun (coefficient, scale) =>
    make? negative coefficient scale

/-- The coefficient without its last digits, the last one dropped rounding a half up. -/
def dropDigits (coefficient count : Nat) : Nat :=
  match count with
  | 0 => coefficient
  | count + 1 => (coefficient / Nat.pow 10 count + 5) / 10

/-- The decimal divided by a power of ten: places are added, and digits beyond the last place dropped. The
sign stays, even when no digit but zero is left. -/
def shiftDown? (d : Decimal) (exponent : Nat) : Option Decimal :=
  if maxScale < exponent then none
  else
    let excess := d.scale + exponent - maxScale
    signed? d.negative (dropDigits d.coefficient excess) (d.scale + exponent - excess)

/-- The decimal times a power of ten: places are taken away, and a number without places is a whole
number. -/
def shiftUp? (d : Decimal) (exponent : Nat) : Option Decimal :=
  if exponent ≤ d.scale then make? d.negative d.coefficient (d.scale - exponent)
  else if maxScale < exponent then none
  else make? d.negative (d.coefficient * Nat.pow 10 (exponent - d.scale)) 0

/-- A natural number of 32 bits, which may have one plus sign. -/
def readUnsigned? (text : List Char) : Option Nat :=
  let digits := match text with
    | '+' :: rest => rest
    | _ => text
  if digits.isEmpty || !digits.all Text.isDigit then none
  else
    let n := Text.digitsValue digits
    if n < 0x100000000 then some n else none

/-- The decimal a text with an exponent writes. -/
def ofScientific? (text : List Char) : Option Decimal :=
  let base := text.takeWhile fun c => c != 'e' && c != 'E'
  match text.dropWhile fun c => c != 'e' && c != 'E' with
  | [] => none
  | _ :: exponent =>
    (ofPlain? base).bind fun d =>
      match exponent with
      | '-' :: digits => (readUnsigned? digits).bind (shiftDown? d)
      | _ => (readUnsigned? exponent).bind (shiftUp? d)

/-- The decimal a text writes. -/
def ofText? (text : List Char) : Option Decimal :=
  (ofPlain? text).or (ofScientific? text)

/-- The decimal as text, with as many places as its scale. -/
def render (d : Decimal) : String :=
  let digits := (Text.padded (d.scale + 1) d.coefficient).toList
  let whole := digits.take (digits.length - d.scale)
  let fraction := digits.drop (digits.length - d.scale)
  let sign := if d.negative then "-" else ""
  if fraction.isEmpty then sign ++ String.ofList whole
  else sign ++ String.ofList whole ++ "." ++ String.ofList fraction

/-- What is made has the given coefficient and scale, and both fit. -/
theorem make?_eq_some {negative : Bool} {coefficient scale : Nat} {d : Decimal}
    (h : make? negative coefficient scale = some d) :
    d.coefficient = coefficient ∧ d.scale = scale ∧ d.negative = (negative && coefficient != 0) := by
  unfold make? signed? at h
  split at h
  · cases h; exact ⟨rfl, rfl, rfl⟩
  · cases h

end Decimal

end QueryFilter
