/-
Decimal numerals with a point and an exponent.

A numeral has an optional sign, digits with at most one point among them, and an optional exponent. There is
a digit before or after the point, and a digit in every exponent. It stands for a number of the form
± coefficient · 10 ^ exponent, kept exactly.
-/
import QueryFilter.Text.Digits

namespace QueryFilter

structure Numeral where
  negative : Bool
  coefficient : Nat
  exponent : Int
  deriving DecidableEq, Repr

namespace Numeral

/-- The exponent at the end of a numeral, zero when there is none. -/
def readExponent? : List Char → Option Int
  | [] => some 0
  | c :: rest =>
    if c = 'e' ∨ c = 'E' then
      let (negative, digits) := Text.takeSign rest
      if digits.isEmpty || !digits.all Text.isDigit then none
      else
        let magnitude : Int := Text.digitsValue digits
        some (if negative then -magnitude else magnitude)
    else none

/-- The digits after the point, if there is a point, and the text after them. -/
def takeFraction : List Char → List Char × List Char
  | '.' :: rest => (rest.takeWhile Text.isDigit, rest.dropWhile Text.isDigit)
  | cs => ([], cs)

/-- The numeral a text writes. -/
def ofText? (text : List Char) : Option Numeral :=
  let (negative, unsigned) := Text.takeSign text
  let whole := unsigned.takeWhile Text.isDigit
  let (fraction, rest) := takeFraction (unsigned.dropWhile Text.isDigit)
  if whole.isEmpty && fraction.isEmpty then none
  else
    (readExponent? rest).map fun exponent =>
      ⟨negative, Text.digitsValue (whole ++ fraction), exponent - fraction.length⟩

end Numeral

end QueryFilter
