/-
The counting form of a query.

A query that selects a list from something is counted by putting `COUNT(*)` in place of the list; a query
that selects distinct rows, or does not begin in this form, is counted as a subquery. Keywords are read
whatever their case, and white space is that of Unicode.

The select list begins as late as possible after `SELECT` and ends at the first `FROM` that has white space
on both sides, wherever that stands: parentheses and quotes in the list are not looked at.
-/
import QueryFilter.Text.Space
import QueryFilter.Text.WordChar

namespace QueryFilter.CountQuery

/-- A letter regardless of case. The long s is an s as well. -/
def foldCase (c : Char) : Char :=
  if c = 'ſ' then 's' else if 'A' ≤ c ∧ c ≤ 'Z' then Char.ofNat (c.toNat + 32) else c

/-- The text after a keyword, which is given in lowercase. -/
def afterKeyword? : List Char → List Char → Option (List Char)
  | [], text => some text
  | _ :: _, [] => none
  | k :: keyword, c :: text => if foldCase c = k then afterKeyword? keyword text else none

/-- The text after white space, of which there must be some. -/
def afterSpace? : List Char → Option (List Char)
  | [] => none
  | c :: rest => if Text.isSpace c then some (Text.trimStart rest) else none

def selectWord : List Char := ['s', 'e', 'l', 'e', 'c', 't']

def distinctWord : List Char := ['d', 'i', 's', 't', 'i', 'n', 'c', 't']

def fromWord : List Char := ['f', 'r', 'o', 'm']

/-- The text after the `SELECT` a query begins with. -/
def afterSelect? (sql : List Char) : Option (List Char) :=
  afterKeyword? selectWord (Text.trimStart sql)

/-- Whether no word goes on at the start of a text. -/
def wordEnds : List Char → Bool
  | [] => true
  | c :: _ => !Text.isWordChar c

/-- Whether a query selects distinct rows. -/
def selectsDistinct (sql : List Char) : Bool :=
  match ((afterSelect? sql).bind afterSpace?).bind (afterKeyword? distinctWord) with
  | some rest => wordEnds rest
  | none => false

/-- The text after a `FROM` that comes next and one white space character after it. -/
def afterFromHere? (text : List Char) : Option (List Char) :=
  match afterKeyword? fromWord text with
  | some (c :: rest) => if Text.isSpace c then some rest else none
  | _ => none

/-- The text after the first `FROM` between white space; `spaced` says whether white space stands just
before the text. -/
def afterFrom? (spaced : Bool) : List Char → Option (List Char)
  | [] => none
  | c :: rest =>
    match if spaced then afterFromHere? (c :: rest) else none with
    | some target => some target
    | none => afterFrom? (Text.isSpace c) rest

/-- The text after the select list and its `FROM`, given the text after `SELECT` and one white space
character. White space belongs to the list only if the list cannot begin after it. -/
def afterList? : List Char → Option (List Char)
  | [] => none
  | c :: rest =>
    if Text.isSpace c then
      match afterList? rest with
      | some target => some target
      | none => afterFrom? false rest
    else afterFrom? false rest

/-- What a query selects from, with all that follows, if it begins with a select list. -/
def target? (sql : List Char) : Option (List Char) :=
  match afterSelect? sql with
  | some (c :: rest) => if Text.isSpace c then afterList? rest else none
  | _ => none

/-- The query counted as a subquery. -/
def wrap (sql : String) : String :=
  "SELECT COUNT(*) FROM (" ++ Text.strip sql ++ ") AS filtered"

/-- The query that counts the rows of a query. -/
def ofQuery (sql : String) : String :=
  if selectsDistinct sql.toList then wrap sql
  else
    match target? sql.toList with
    | some target => "SELECT COUNT(*) FROM " ++ String.ofList target
    | none => wrap sql

end QueryFilter.CountQuery
