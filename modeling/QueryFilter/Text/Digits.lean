/-
ASCII digits: reading runs of them and the number a run stands for.

Main statement: a run read on the left of another weighs ten for each digit on its right.
-/
namespace QueryFilter.Text

/-- The digits are `0` to `9` alone; digits of other scripts are not read. -/
def isDigit (c : Char) : Bool :=
  '0' ≤ c && c ≤ '9'

/-- What one digit stands for. -/
def digitValue (c : Char) : Nat :=
  c.toNat - '0'.toNat

/-- The number a run of digits stands for, the empty run standing for zero. -/
def digitsValue (cs : List Char) : Nat :=
  cs.foldl (fun n c => n * 10 + digitValue c) 0

/-- The number in front of the text: at least one digit and at most `most` of them, with the text after. -/
def takeNumber? (most : Nat) (cs : List Char) : Option (Nat × List Char) :=
  let digits := (cs.take most).takeWhile isDigit
  if digits.isEmpty then none else some (digitsValue digits, cs.drop digits.length)

/-- The number of exactly `count` digits in front of the text, with the text after. -/
def takeExactly? (count : Nat) (cs : List Char) : Option (Nat × List Char) :=
  let digits := (cs.take count).takeWhile isDigit
  if digits.length = count then some (digitsValue digits, cs.drop count) else none

/-- The text after one expected character. -/
def expect? (c : Char) : List Char → Option (List Char)
  | [] => none
  | d :: rest => if d = c then some rest else none

/-- The sign in front of the text, `true` for a minus, and the text after it. -/
def takeSign : List Char → Bool × List Char
  | '-' :: rest => (true, rest)
  | '+' :: rest => (false, rest)
  | cs => (false, cs)

/-- The decimal digits of a number, with zeros in front up to a width. -/
def padded (width n : Nat) : String :=
  let digits := Nat.toDigits 10 n
  String.ofList (List.replicate (width - digits.length) '0' ++ digits)

theorem foldl_digits (cs : List Char) (n : Nat) :
    cs.foldl (fun n c => n * 10 + digitValue c) n = n * Nat.pow 10 cs.length + digitsValue cs := by
  unfold digitsValue
  induction cs generalizing n with
  | nil => simp
  | cons c rest ih =>
    have weight : Nat.pow 10 (rest.length + 1) = 10 * Nat.pow 10 rest.length := Nat.mul_comm _ _
    rw [List.foldl_cons, List.foldl_cons, ih, ih (0 * 10 + digitValue c), List.length_cons, weight]
    rw [Nat.add_mul, Nat.mul_assoc, Nat.zero_mul, Nat.zero_add]
    omega

theorem digitsValue_append (xs ys : List Char) :
    digitsValue (xs ++ ys) = digitsValue xs * Nat.pow 10 ys.length + digitsValue ys := by
  rw [digitsValue, List.foldl_append, foldl_digits]
  rfl

end QueryFilter.Text
