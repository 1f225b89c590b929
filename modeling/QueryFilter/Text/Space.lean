/-
White space and trimming.

Text is taken apart as a list of characters, so every function here is a recursion on that list.
`trim` removes the white space at both ends; what is left is empty exactly when the text is blank.
-/
namespace QueryFilter.Text

/-- White space is the Unicode property `White_Space`: twenty-five characters, the byte order mark and
the zero width space not among them. -/
def isSpace (c : Char) : Bool :=
  let n := c.toNat
  n == 0x20 || (0x09 ≤ n && n ≤ 0x0d) || n == 0x85 || n == 0xa0 || n == 0x1680
    || (0x2000 ≤ n && n ≤ 0x200a) || n == 0x2028 || n == 0x2029 || n == 0x202f || n == 0x205f
    || n == 0x3000

/-- The text without its leading white space. -/
def trimStart (cs : List Char) : List Char :=
  cs.dropWhile isSpace

/-- The text without its trailing white space. -/
def trimEnd (cs : List Char) : List Char :=
  (cs.reverse.dropWhile isSpace).reverse

/-- The text without the white space around it. -/
def trim (cs : List Char) : List Char :=
  trimEnd (trimStart cs)

/-- Blank text has nothing but white space. -/
def isBlank (cs : List Char) : Bool :=
  cs.all isSpace

/-- The string without the white space around it. -/
def strip (s : String) : String :=
  String.ofList (trim s.toList)

/-- A blank string has nothing but white space. -/
def blank (s : String) : Bool :=
  isBlank s.toList

theorem toList_strip (s : String) : (strip s).toList = trim s.toList := by
  simp [strip]

end QueryFilter.Text
