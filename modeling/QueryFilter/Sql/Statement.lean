/-
Statements with named placeholders, and their positional form.

A placeholder is a colon and a name. `positional` gives every placeholder slots of its own, numbered from
left to right, and lists the values of the slots; a list takes one slot for each element and an empty list
is written `NULL`. Text in quotes and double colons are left alone. The text is read once, one character at
a time, by a scanner whose state is what has been written and what the last characters began.
-/
import QueryFilter.Failure
import QueryFilter.Sql.Parameters

namespace QueryFilter

/-- SQL text and the values of the names in it. -/
structure Statement where
  sql : String
  parameters : Parameters
  deriving Repr

/-- SQL text with numbered slots, and the values of the slots in order. -/
structure Positional where
  sql : String
  values : List Value
  deriving Repr

namespace Positional

def empty : Positional := ⟨"", []⟩

/-- The statement with more text. -/
def write (p : Positional) (text : String) : Positional :=
  { p with sql := p.sql ++ text }

/-- The statement with one more character. -/
def writeChar (p : Positional) (c : Char) : Positional :=
  { p with sql := p.sql.push c }

/-- The statement with one more slot, for a value that is no list. -/
def addSlot (p : Positional) (value : Value) : Positional :=
  ⟨p.sql ++ "$" ++ Nat.repr (p.values.length + 1), p.values ++ [value]⟩

mutual

/-- The statement with the slots of a value. -/
def place (p : Positional) : Value → Positional
  | .list [] => p.write "NULL"
  | .list (item :: items) => placeRest (place p item) items
  | value => p.addSlot value

/-- The statement with the slots of the further elements of a list, each after a comma. -/
def placeRest (p : Positional) : List Value → Positional
  | [] => p
  | item :: items => placeRest (place (p.write ", ") item) items

end

end Positional

namespace Placeholder

/-- The characters a name can start with. -/
def isStart (c : Char) : Bool :=
  ('a' ≤ c && c ≤ 'z') || ('A' ≤ c && c ≤ 'Z') || c == '_'

/-- The characters a name can go on with. -/
def isPart (c : Char) : Bool :=
  isStart c || Text.isDigit c

/-- What the last characters began: nothing, a quoted text up to the given quote, something after a colon, or
a name, whose characters are listed from the last to the first. -/
inductive Mode where
  | plain
  | quoted (quote : Char)
  | colon
  | name (reversed : List Char)
  deriving DecidableEq, Repr

/-- The scanner's state: what has been written and what the last characters began. -/
structure State where
  written : Positional
  mode : Mode

def start : State := ⟨.empty, .plain⟩

/-- The state after a character that continues nothing. -/
def readPlain (written : Positional) (c : Char) : State :=
  if c = '\'' ∨ c = '"' then ⟨written.writeChar c, .quoted c⟩
  else if c = ':' then ⟨written, .colon⟩
  else ⟨written.writeChar c, .plain⟩

/-- What has been written once a name has ended, if the name is bound. -/
def resolve (parameters : Parameters) (written : Positional) (reversed : List Char) :
    Except Failure Positional :=
  let name := String.ofList reversed.reverse
  match parameters.get? name with
  | some value => .ok (written.place value)
  | none => .error (.unboundParameter name)

/-- The state after one more character. -/
def step (parameters : Parameters) (state : State) (c : Char) : Except Failure State :=
  match state.mode with
  | .plain => .ok (readPlain state.written c)
  | .quoted quote => .ok ⟨state.written.writeChar c, if c = quote then .plain else .quoted quote⟩
  | .colon =>
    if c = ':' then .ok ⟨state.written.write "::", .plain⟩
    else if isStart c then .ok ⟨state.written, .name [c]⟩
    else .ok (readPlain (state.written.writeChar ':') c)
  | .name reversed =>
    if isPart c then .ok ⟨state.written, .name (c :: reversed)⟩
    else
      match resolve parameters state.written reversed with
      | .ok written => .ok (readPlain written c)
      | .error failure => .error failure

/-- What has been written at the end of the text. -/
def finish (parameters : Parameters) (state : State) : Except Failure Positional :=
  match state.mode with
  | .plain | .quoted _ => .ok state.written
  | .colon => .ok (state.written.writeChar ':')
  | .name reversed => resolve parameters state.written reversed

/-- The state after a text. -/
def scan (parameters : Parameters) (state : State) : List Char → Except Failure State
  | [] => .ok state
  | c :: rest =>
    match step parameters state c with
    | .ok next => scan parameters next rest
    | .error failure => .error failure

theorem scan_append (parameters : Parameters) (state : State) (xs ys : List Char) :
    scan parameters state (xs ++ ys) =
      match scan parameters state xs with
      | .ok next => scan parameters next ys
      | .error failure => .error failure := by
  induction xs generalizing state with
  | nil => rfl
  | cons c rest ih =>
    simp only [List.cons_append, scan]
    cases step parameters state c with
    | ok next => exact ih next
    | error failure => rfl

end Placeholder

/-- The statement with numbered slots in place of its placeholders. -/
def Statement.positional (statement : Statement) : Except Failure Positional :=
  match Placeholder.scan statement.parameters Placeholder.start statement.sql.toList with
  | .ok state => Placeholder.finish statement.parameters state
  | .error failure => .error failure

end QueryFilter
