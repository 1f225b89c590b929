/-
The slots of a value.

`Positional.place` writes a value slot by slot. What it lists are the scalars in the value, from left to
right; what it writes depends on the numbers of the slots and on where lists in the value are empty, and
on nothing else about the value (`Positional.place_eq`).
-/
import QueryFilter.Sql.Statement

namespace QueryFilter

namespace Value

mutual

/-- The scalars in a value, from left to right, and a gap for each empty list. -/
def entries : Value → List (Option Value)
  | .list [] => [none]
  | .list (item :: items) => entries item ++ entriesOf items
  | value => [some value]

/-- The scalars and gaps in the elements of a list. -/
def entriesOf : List Value → List (Option Value)
  | [] => []
  | item :: items => entries item ++ entriesOf items

end

/-- The values that are bound to the slots of a value. -/
def slots (value : Value) : List Value :=
  value.entries.filterMap id

/-- Where a value has scalars and where it has gaps. -/
def outline (value : Value) : List Bool :=
  value.entries.map Option.isSome

/-- The texts of scalars and gaps, the slots numbered on from a number. -/
def outlineTexts : Nat → List Bool → List String
  | _, [] => []
  | before, true :: outline => ("$" ++ Nat.repr (before + 1)) :: outlineTexts (before + 1) outline
  | before, false :: outline => "NULL" :: outlineTexts before outline

/-- The text of a value's slots, numbered on from a number. -/
def slotText (before : Nat) (value : Value) : String :=
  ", ".intercalate (outlineTexts before value.outline)

theorem length_slots (value : Value) : value.slots.length = value.outline.count true := by
  unfold slots outline
  induction value.entries with
  | nil => rfl
  | cons entry entries ih =>
    rw [List.map_cons, List.count_cons, ← ih]
    cases entry with
    | none => rfl
    | some scalar => rfl

theorem outlineTexts_append (before : Nat) (xs ys : List Bool) :
    outlineTexts before (xs ++ ys) =
      outlineTexts before xs ++ outlineTexts (before + xs.count true) ys := by
  induction xs generalizing before with
  | nil => rfl
  | cons x xs ih =>
    cases x with
    | true =>
      have regroup : before + 1 + xs.count true = before + (true :: xs).count true := by
        simp only [List.count_cons_self]; omega
      simp only [List.cons_append, outlineTexts, ih, regroup]
    | false => simp [outlineTexts, ih]

theorem entries_ne_nil (value : Value) : value.entries ≠ [] := by
  cases value with
  | list items =>
    cases items with
    | nil => simp [entries]
    | cons item items =>
      rw [entries]
      exact fun h => entries_ne_nil item (List.append_eq_nil_iff.1 h).1
  | _ => simp [entries]

theorem outline_ne_nil (value : Value) : value.outline ≠ [] := by
  simpa [outline] using value.entries_ne_nil

theorem outlineTexts_ne_nil {outline : List Bool} (h : outline ≠ []) (before : Nat) :
    outlineTexts before outline ≠ [] := by
  match outline with
  | [] => exact absurd rfl h
  | true :: _ => simp [outlineTexts]
  | false :: _ => simp [outlineTexts]

end Value

namespace Positional

/-- A separator between neighbours is one before every text but the first. -/
theorem intercalate_cons_eq_join (separator x : String) (xs : List String) :
    separator.intercalate (x :: xs) = x ++ String.join (xs.map (separator ++ ·)) := by
  induction xs generalizing x with
  | nil => simp
  | cons y ys ih => simp [ih, String.append_assoc]

theorem join_map_separator (separator : String) {xs : List String} (h : xs ≠ []) :
    String.join (xs.map (separator ++ ·)) = separator ++ separator.intercalate xs := by
  cases xs with
  | nil => exact absurd rfl h
  | cons x xs => simp [intercalate_cons_eq_join, String.append_assoc]

theorem intercalate_append_join (separator : String) {xs : List String} (h : xs ≠ []) (ys : List String) :
    separator.intercalate (xs ++ ys) =
      separator.intercalate xs ++ String.join (ys.map (separator ++ ·)) := by
  cases xs with
  | nil => exact absurd rfl h
  | cons x xs => simp [intercalate_cons_eq_join, String.append_assoc]

/-- The text of the elements after the first, each with a comma before its slots. -/
def restText (before : Nat) (items : List Value) : String :=
  String.join ((Value.outlineTexts before ((Value.entriesOf items).map Option.isSome)).map (", " ++ ·))

theorem place_scalar {p : Positional} {value : Value} (scalar : value.entries = [some value])
    (placed : p.place value = p.addSlot value) :
    p.place value = ⟨p.sql ++ value.slotText p.values.length, p.values ++ value.slots⟩ := by
  rw [placed]
  simp [addSlot, Value.slotText, Value.slots, Value.outline, scalar, Value.outlineTexts,
    String.append_assoc]

mutual

/-- What placing a value writes and lists. -/
theorem place_eq (p : Positional) (value : Value) :
    p.place value = ⟨p.sql ++ value.slotText p.values.length, p.values ++ value.slots⟩ := by
  match value with
  | .list [] =>
    simp [place, write, Value.slotText, Value.slots, Value.outline, Value.entries, Value.outlineTexts]
  | .list (item :: items) =>
    have first := place_eq p item
    have others := placeRest_eq (p.place item) items
    have total : (p.values ++ item.slots).length = p.values.length + item.outline.count true := by
      rw [List.length_append, Value.length_slots]
    have texts : (Value.list (item :: items)).slotText p.values.length =
        item.slotText p.values.length ++
          restText (p.values.length + item.outline.count true) items := by
      have nonempty := Value.outlineTexts_ne_nil item.outline_ne_nil p.values.length
      unfold Value.slotText Value.outline restText
      rw [Value.entries, List.map_append, Value.outlineTexts_append]
      exact intercalate_append_join ", " nonempty _
    rw [place, others, first, total, texts]
    simp [Value.slots, Value.entries, String.append_assoc]
  | .null => exact place_scalar (by simp [Value.entries]) (by simp [place])
  | .text _ => exact place_scalar (by simp [Value.entries]) (by simp [place])
  | .integer _ => exact place_scalar (by simp [Value.entries]) (by simp [place])
  | .float _ => exact place_scalar (by simp [Value.entries]) (by simp [place])
  | .decimal _ => exact place_scalar (by simp [Value.entries]) (by simp [place])
  | .boolean _ => exact place_scalar (by simp [Value.entries]) (by simp [place])
  | .date _ => exact place_scalar (by simp [Value.entries]) (by simp [place])
  | .timestamp _ => exact place_scalar (by simp [Value.entries]) (by simp [place])

/-- What placing the elements after the first writes and lists. -/
theorem placeRest_eq (p : Positional) (items : List Value) :
    p.placeRest items =
      ⟨p.sql ++ restText p.values.length items, p.values ++ (Value.entriesOf items).filterMap id⟩ := by
  match items with
  | [] => simp [placeRest, restText, Value.entriesOf, Value.outlineTexts]
  | item :: items =>
    have first := place_eq (p.write ", ") item
    have others := placeRest_eq ((p.write ", ").place item) items
    have total : (p.values ++ item.slots).length = p.values.length + item.outline.count true := by
      rw [List.length_append, Value.length_slots]
    have texts : restText p.values.length (item :: items) =
        ", " ++ item.slotText p.values.length ++
          restText (p.values.length + item.outline.count true) items := by
      have nonempty := Value.outlineTexts_ne_nil item.outline_ne_nil p.values.length
      unfold restText Value.slotText
      rw [Value.entriesOf, List.map_append, Value.outlineTexts_append, List.map_append,
        String.join_append, ← join_map_separator ", " nonempty]
      rfl
    rw [placeRest, others, first]
    simp only [write]
    rw [total, texts]
    simp [Value.slots, Value.entriesOf, String.append_assoc]

end

end Positional

end QueryFilter
