/-
Identifiers in SQL text.

A bare identifier is a lowercase letter or an underscore, followed by lowercase letters, digits and
underscores. Any text is an identifier once quoted: a quote inside it is written twice. Main statement:
reading a quoted identifier back gives the text it was made from.
-/
import QueryFilter.Text.Digits

namespace QueryFilter.Identifier

/-- The characters with every quote written twice. -/
def doubleQuotes : List Char → List Char
  | [] => []
  | c :: rest => if c = '"' then '"' :: '"' :: doubleQuotes rest else c :: doubleQuotes rest

/-- The characters with every pair of quotes written once; a single quote stands for nothing. -/
def halveQuotes? : List Char → Option (List Char)
  | [] => some []
  | '"' :: '"' :: rest => (halveQuotes? rest).map ('"' :: ·)
  | c :: rest => if c = '"' then none else (halveQuotes? rest).map (c :: ·)

/-- The identifier in quotes. -/
def quote (name : String) : String :=
  "\"" ++ String.ofList (doubleQuotes name.toList) ++ "\""

def isStart (c : Char) : Bool :=
  ('a' ≤ c && c ≤ 'z') || c == '_'

def isPart (c : Char) : Bool :=
  isStart c || Text.isDigit c

/-- Whether a text is a bare identifier. -/
def isBare : List Char → Bool
  | [] => false
  | c :: rest => isStart c && rest.all isPart

/-- What keeps a text from being a bare identifier, if anything does. -/
def complaint? (name : String) : Option String :=
  if name.toList.isEmpty then some "Identifier cannot be empty"
  else if isBare name.toList then none
  else
    some ("Identifier '" ++ name ++ "' is invalid. Must start with a lowercase letter or underscore and "
      ++ "contain only lowercase letters, numbers, and underscores.")

theorem halveQuotes?_doubleQuotes (cs : List Char) : halveQuotes? (doubleQuotes cs) = some cs := by
  induction cs with
  | nil => rfl
  | cons c rest ih =>
    by_cases quoted : c = '"'
    · subst quoted
      simp [doubleQuotes, halveQuotes?, ih]
    · simp [doubleQuotes, halveQuotes?, quoted, ih]

theorem complaint?_eq_none_iff {name : String} : complaint? name = none ↔ isBare name.toList = true := by
  unfold complaint?
  split
  · rename_i empty
    simp [List.isEmpty_iff.1 empty, isBare]
  · split <;> simp_all

end QueryFilter.Identifier
