/-
Statements in pieces.

A statement is written from pieces: texts of its own, and placeholders with the values of their slots. When
the pieces are sound for the parameters, the scanner reads the statement piece by piece: each text stays and
each placeholder becomes its slots (`Piece.positional_eq`).

`Sound` says what the scanner needs to see where a piece ends: a text leaves nothing open, and no name goes
on after a placeholder.
-/
import QueryFilter.Proofs.Sql.Neutral
import QueryFilter.Proofs.Sql.Slots

namespace QueryFilter

namespace Placeholder

/-- A text a placeholder can have for its name. -/
def IsName (name : String) : Prop :=
  ∃ first rest, name.toList = first :: rest ∧ isStart first = true ∧ rest.all isPart = true

/-- Whether no name goes on at the start of a text. -/
def nameEnds : List Char → Bool
  | [] => true
  | c :: _ => !isPart c

theorem nameEnds_append {xs ys : List Char} (left : nameEnds xs = true)
    (right : xs = [] → nameEnds ys = true) : nameEnds (xs ++ ys) = true := by
  cases xs with
  | nil => exact right rfl
  | cons c rest => exact left

theorem colon_ne_of_isStart {c : Char} (start : isStart c = true) : c ≠ ':' := by
  rintro rfl
  cases start

theorem scan_parts (parameters : Parameters) (written : Positional) (reversed : List Char)
    {parts : List Char} (all : parts.all isPart = true) :
    scan parameters ⟨written, .name reversed⟩ parts =
      .ok ⟨written, .name (parts.reverse ++ reversed)⟩ := by
  induction parts generalizing reversed with
  | nil => rfl
  | cons c rest ih =>
    obtain ⟨part, others⟩ := Bool.and_eq_true_iff.1 all
    simp only [scan, step, part, if_true]
    rw [ih (c :: reversed) others]
    simp

/-- A placeholder is read as a name. -/
theorem scan_placeholder (parameters : Parameters) (written : Positional) {name : String}
    (isName : IsName name) :
    scan parameters ⟨written, .plain⟩ (":" ++ name).toList = .ok ⟨written, .name name.toList.reverse⟩ := by
  obtain ⟨first, rest, spelled, start, parts⟩ := isName
  rw [String.toList_append, spelled]
  change scan parameters ⟨written, .colon⟩ (first :: rest) = _
  simp only [scan, step, if_neg (colon_ne_of_isStart start), start, if_true]
  rw [scan_parts parameters written [first] parts, List.reverse_cons]

/-- Where no name goes on, a bound name gives way to the slots of its value. -/
theorem complete_name {parameters : Parameters} {name : String} {value : Value}
    (bound : parameters.get? name = some value) (written : Positional) {rest : List Char}
    (ends : nameEnds rest = true) :
    complete parameters ⟨written, .name name.toList.reverse⟩ rest =
      complete parameters ⟨written.place value, .plain⟩ rest := by
  have resolved : resolve parameters written name.toList.reverse = .ok (written.place value) := by
    simp [resolve, bound]
  cases rest with
  | nil => simp only [complete, scan, finish, resolved]
  | cons c rest =>
    have other : isPart c = false := by simpa [nameEnds] using ends
    simp only [complete, scan, step, other, Bool.false_eq_true, if_false, resolved]

theorem scan_inert (parameters : Parameters) (written : Positional) {text : String} (inert : Inert text) :
    scan parameters ⟨written, .plain⟩ text.toList = .ok ⟨written.write text, .plain⟩ := by
  have outside : (Mode.plain.after text.toList).isName = false := by
    rw [show Mode.plain.after text.toList = .plain from inert]
    rfl
  obtain ⟨copy, copied, scanned⟩ := scan_eq outside
  rw [show Mode.plain.after text.toList = .plain from inert] at copied scanned
  have whole : copy = text.toList := by simpa [Mode.held] using copied
  rw [scanned, whole, String.ofList_toList]

end Placeholder

/-- A piece of a statement: a text of its own, or a placeholder and the values of its slots. -/
inductive Piece where
  | text (text : String)
  | placeholder (name : String) (values : List Value)
  deriving Repr

namespace Piece

/-- The piece with its placeholder by name. -/
def named : Piece → String
  | text fixed => fixed
  | placeholder name _ => ":" ++ name

/-- The values of the piece's slots. -/
def values : Piece → List Value
  | text _ => []
  | placeholder _ values => values

/-- So many slots with a comma between neighbours, numbered on from a number. -/
def slotList (before count : Nat) : String :=
  ", ".intercalate ((List.range' (before + 1) count).map fun k => "$" ++ Nat.repr k)

/-- The piece with numbered slots for its placeholder. -/
def numbered (before : Nat) : Piece → String
  | text fixed => fixed
  | placeholder _ values => slotList before values.length

/-- The text of pieces, placeholders by name. -/
def namedText (pieces : List Piece) : String :=
  String.join (pieces.map named)

/-- The text of pieces with slots for placeholders, numbered on from a number from left to right. -/
def numberedText (before : Nat) : List Piece → String
  | [] => ""
  | piece :: pieces => piece.numbered before ++ numberedText (before + piece.values.length) pieces

/-- The names and the values of the placeholders, in order. -/
def placeholders : List Piece → List (String × List Value)
  | [] => []
  | text _ :: pieces => placeholders pieces
  | placeholder name values :: pieces => (name, values) :: placeholders pieces

theorem namedText_append (xs ys : List Piece) : namedText (xs ++ ys) = namedText xs ++ namedText ys := by
  simp [namedText, String.join_append]

theorem namedText_cons (piece : Piece) (pieces : List Piece) :
    namedText (piece :: pieces) = piece.named ++ namedText pieces := by
  simp [namedText]

theorem placeholders_append (xs ys : List Piece) :
    placeholders (xs ++ ys) = placeholders xs ++ placeholders ys := by
  induction xs with
  | nil => rfl
  | cons piece pieces ih => cases piece <;> simp [placeholders, ih]

theorem flatMap_values (pieces : List Piece) :
    pieces.flatMap values = (placeholders pieces).flatMap (·.2) := by
  induction pieces with
  | nil => rfl
  | cons piece pieces ih => cases piece <;> simp [placeholders, values, ih]

end Piece

namespace Value

/-- The values take the slots of a value one by one, without a gap. -/
structure Fills (values : List Value) (value : Value) : Prop where
  slots : value.slots = values
  outline : value.outline = List.replicate values.length true

theorem outlineTexts_replicate (before count : Nat) :
    outlineTexts before (List.replicate count true) =
      (List.range' (before + 1) count).map fun k => "$" ++ Nat.repr k := by
  induction count generalizing before with
  | zero => rfl
  | succ count ih => simp only [List.replicate_succ, outlineTexts, ih, List.range'_succ, List.map_cons]

/-- What has no gap is not empty. -/
theorem Fills.ne_nil {values : List Value} {value : Value} (fills : Fills values value) : values ≠ [] := by
  rintro rfl
  exact value.outline_ne_nil fills.outline

/-- A value without gaps becomes a list of consecutive slots. -/
theorem Fills.place_eq {values : List Value} {value : Value} (fills : Fills values value) (p : Positional) :
    p.place value = ⟨p.sql ++ Piece.slotList p.values.length values.length, p.values ++ values⟩ := by
  rw [Positional.place_eq, fills.slots]
  unfold slotText Piece.slotList
  rw [fills.outline, outlineTexts_replicate]

end Value

namespace Piece

open Placeholder

/-- Pieces that can be told apart in the text they make, each placeholder bound to its values. -/
def Sound (parameters : Parameters) : List Piece → Prop
  | [] => True
  | text fixed :: pieces => Inert fixed ∧ Sound parameters pieces
  | placeholder name values :: pieces =>
    IsName name ∧ (∃ value, parameters.get? name = some value ∧ Value.Fills values value)
      ∧ nameEnds (namedText pieces).toList = true ∧ Sound parameters pieces

variable {parameters : Parameters}

theorem Sound.append {xs ys : List Piece} (left : Sound parameters xs) (right : Sound parameters ys)
    (ends : nameEnds (namedText ys).toList = true) : Sound parameters (xs ++ ys) := by
  induction xs with
  | nil => exact right
  | cons piece pieces ih =>
    cases piece with
    | text fixed => exact ⟨left.1, ih left.2⟩
    | placeholder name values =>
      obtain ⟨isName, bound, fresh, others⟩ := left
      have freshAfter : nameEnds (namedText (pieces ++ ys)).toList = true := by
        rw [namedText_append, String.toList_append]
        exact nameEnds_append fresh fun _ => ends
      exact ⟨isName, bound, freshAfter, ih others⟩

theorem Sound.neutral {pieces : List Piece} (sound : Sound parameters pieces) {t : String}
    (mem : text t ∈ pieces) : Neutral t := by
  induction pieces with
  | nil => cases mem
  | cons piece pieces ih =>
    rcases List.mem_cons.1 mem with rfl | later
    · exact sound.1.neutral
    · cases piece with
      | text fixed => exact ih sound.2 later
      | placeholder name values => exact ih sound.2.2.2 later

theorem Sound.bound {pieces : List Piece} (sound : Sound parameters pieces) {name : String}
    {values : List Value} (mem : placeholder name values ∈ pieces) :
    ∃ value, parameters.get? name = some value ∧ Value.Fills values value := by
  induction pieces with
  | nil => cases mem
  | cons piece pieces ih =>
    rcases List.mem_cons.1 mem with rfl | later
    · exact sound.2.1
    · cases piece with
      | text fixed => exact ih sound.2 later
      | placeholder name values => exact ih sound.2.2.2 later

theorem Sound.intercalate (separator : String) (inert : Inert separator)
    (ends : nameEnds separator.toList = true) (nonempty : separator.toList ≠ []) {groups : List (List Piece)}
    (sound : ∀ group ∈ groups, Sound parameters group) :
    Sound parameters ([text separator].intercalate groups) := by
  induction groups with
  | nil => exact trivial
  | cons group groups ih =>
    cases groups with
    | nil => simpa using sound
    | cons next others =>
      rw [List.intercalate_cons_cons, List.append_assoc]
      have rest := ih fun group mem => sound group (List.mem_cons_of_mem _ mem)
      refine (sound group List.mem_cons_self).append ⟨inert, rest⟩ ?_
      rw [List.singleton_append, namedText_cons, String.toList_append]
      exact nameEnds_append ends fun blank => absurd blank nonempty

theorem namedText_intercalate (separator : String) (groups : List (List Piece)) :
    namedText ([text separator].intercalate groups) = separator.intercalate (groups.map namedText) := by
  induction groups with
  | nil => rfl
  | cons group groups ih =>
    cases groups with
    | nil => simp
    | cons next others =>
      rw [List.intercalate_cons_cons, namedText_append, namedText_append, ih]
      simp [namedText, named]

theorem placeholders_intercalate (separator : String) (groups : List (List Piece)) :
    placeholders ([text separator].intercalate groups) = groups.flatMap placeholders := by
  induction groups with
  | nil => rfl
  | cons group groups ih =>
    cases groups with
    | nil => simp
    | cons next others =>
      rw [List.intercalate_cons_cons, placeholders_append, placeholders_append, ih]
      simp [placeholders]

/-- The pieces of a clause after a keyword and before others, or the others alone when it has no text. -/
def clause (keyword : String) (pieces rest : List Piece) : List Piece :=
  if namedText pieces = "" then rest else text (keyword ++ " ") :: (pieces ++ text " " :: rest)

theorem Sound.clause (keyword : String) (inert : Inert (keyword ++ " ")) {pieces rest : List Piece}
    (sound : Sound parameters pieces) (others : Sound parameters rest) :
    Sound parameters (clause keyword pieces rest) := by
  unfold Piece.clause
  split
  · exact others
  · have opened : nameEnds (namedText (text " " :: rest)).toList = true := by
      rw [namedText_cons, String.toList_append]
      rfl
    have spaced : Sound parameters (text " " :: rest) := ⟨by decide, others⟩
    exact ⟨inert, sound.append spaced opened⟩

/-- Pieces without text have no placeholders. -/
theorem placeholders_of_namedText {pieces : List Piece} (blank : namedText pieces = "") :
    placeholders pieces = [] := by
  induction pieces with
  | nil => rfl
  | cons piece pieces ih =>
    rw [namedText_cons, String.append_eq_empty_iff] at blank
    cases piece with
    | text fixed => exact ih blank.2
    | placeholder name values => simp [named] at blank

theorem placeholders_clause (keyword : String) (pieces rest : List Piece) :
    placeholders (clause keyword pieces rest) = placeholders pieces ++ placeholders rest := by
  unfold clause
  split
  · rename_i blank
    rw [placeholders_of_namedText blank, List.nil_append]
  · simp [placeholders, placeholders_append]

/-- The rest of a statement is read piece by piece. -/
theorem complete_eq {pieces : List Piece} (sound : Sound parameters pieces) (written : Positional) :
    complete parameters ⟨written, .plain⟩ (namedText pieces).toList =
      .ok ⟨written.sql ++ numberedText written.values.length pieces,
        written.values ++ pieces.flatMap values⟩ := by
  induction pieces generalizing written with
  | nil => simp [complete, scan, finish, namedText, numberedText]
  | cons piece pieces ih =>
    rw [namedText_cons, String.toList_append]
    cases piece with
    | text fixed =>
      obtain ⟨inert, others⟩ := sound
      rw [named, complete_append (scan_inert parameters written inert), ih others]
      simp [Positional.write, numberedText, numbered, values, String.append_assoc]
    | placeholder name values =>
      obtain ⟨isName, ⟨value, bound, fills⟩, ends, others⟩ := sound
      rw [named, complete_append (scan_placeholder parameters written isName),
        complete_name bound written ends, fills.place_eq, ih others]
      simp [numberedText, numbered, Piece.values, String.append_assoc]

/-- Sound pieces become their texts and slots, with the values in order. -/
theorem positional_eq {pieces : List Piece} (sound : Sound parameters pieces) :
    Statement.positional ⟨namedText pieces, parameters⟩ =
      .ok ⟨numberedText 0 pieces, pieces.flatMap values⟩ := by
  change complete parameters ⟨.empty, .plain⟩ (namedText pieces).toList = _
  rw [complete_eq sound]
  simp [Positional.empty]

end Piece

end QueryFilter
