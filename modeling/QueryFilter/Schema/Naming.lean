/-
Default names of tables and columns.

A name is written in snake case: words are told apart at blanks, hyphens and underscores, where a capital
follows a lowercase letter or a digit, and before the last capital of a run of them. A table is named with
the English plural.
-/
import QueryFilter.Text.Digits
import QueryFilter.Text.Letter
import QueryFilter.Text.Space

namespace QueryFilter.Naming

/-- The characters that separate words and stand for nothing else. -/
def isSeparator (c : Char) : Bool :=
  c == ' ' || c == '-' || c == '_'

/-- An underscore at the end of what is written, unless nothing or an underscore is there. What is written
is listed from its end. -/
def separate : List Char → List Char
  | [] => []
  | c :: written => if c = '_' then c :: written else '_' :: c :: written

/-- Whether a capital between two neighbours begins a word. -/
def beginsWord (previous next : Option Char) : Bool :=
  match previous with
  | none => false
  | some p => Text.isLower p || Text.isDigit p || (Text.isUpper p && next.any Text.isLower)

/-- What is written after one more character, listed from its end. -/
def writeChar (written : List Char) (previous : Option Char) (c : Char) (next : Option Char) :
    List Char :=
  if isSeparator c then separate written
  else if Text.isUpper c then
    (Text.lower c).reverse ++ (if beginsWord previous next then separate written else written)
  else c :: written

/-- What is written after a text, listed from its end. -/
def writeAll (written : List Char) (previous : Option Char) : List Char → List Char
  | [] => written
  | c :: rest => writeAll (writeChar written previous c rest.head?) (some c) rest

/-- The name in snake case, as characters. -/
def snakeChars (name : List Char) : List Char :=
  ((writeAll [] none (Text.trim name)).dropWhile (· == '_')).reverse

/-- The name in snake case. -/
def snakeCase (name : String) : String :=
  String.ofList (snakeChars name.toList)

def isVowel (c : Char) : Bool :=
  c == 'a' || c == 'e' || c == 'i' || c == 'o' || c == 'u'

/-- The English plural of a word listed from its end. -/
def pluralReversed : List Char → List Char
  | 'y' :: c :: rest => if isVowel c then 's' :: 'y' :: c :: rest else 's' :: 'e' :: 'i' :: c :: rest
  | 'h' :: c :: rest =>
    if c = 'c' ∨ c = 's' then 's' :: 'e' :: 'h' :: c :: rest else 's' :: 'h' :: c :: rest
  | c :: rest => if c = 's' ∨ c = 'x' ∨ c = 'z' then 's' :: 'e' :: c :: rest else 's' :: c :: rest
  | [] => ['s']

/-- The English plural of a word. -/
def plural (word : String) : String :=
  String.ofList (pluralReversed word.toList.reverse).reverse

end QueryFilter.Naming
