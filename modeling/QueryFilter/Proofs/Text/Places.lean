/-
Cutting a text at places.

`piecesFrom` is what a loop over a text gives that remembers where the last piece began: the pieces between the
places of some separators. Splitting a text is cutting it at the places where its separators stand
(`splitWhere_eq_piecesFrom`). Wherever a text is cut at one character, putting that character back between the
pieces gives the text again (`joinWith_piecesFrom`), and the pieces tell the places (`piecesFrom_injective`).
-/
import QueryFilter.Proofs.Text.Pieces

namespace QueryFilter.Text

/-- The pieces of a text from a place on, between the characters at some places behind it. -/
def piecesFrom (text : List Char) (start : Nat) : List Nat → List (List Char)
  | [] => [text.drop start]
  | place :: places => (text.drop start).take (place - start) :: piecesFrom text (place + 1) places

/-- The places of the separators of a text, from left to right. -/
def separatorPlaces (isSeparator : Char → List Char → Bool) : List Char → List Nat
  | [] => []
  | c :: rest =>
    let others := (separatorPlaces isSeparator rest).map (· + 1)
    if isSeparator c rest then 0 :: others else others

/-- Places of one character in a text, rising from a place on. -/
def RiseFrom (separator : Char) (text : List Char) : Nat → List Nat → Prop
  | _, [] => True
  | start, place :: places => start ≤ place ∧ text[place]? = some separator ∧ RiseFrom separator text (place + 1) places

theorem piecesFrom_ne_nil (text : List Char) (start : Nat) (places : List Nat) : piecesFrom text start places ≠ [] := by
  cases places <;> simp [piecesFrom]

/-! ## Splitting -/

theorem piecesFrom_cons_succ (c : Char) (text : List Char) (start : Nat) (places : List Nat) :
    piecesFrom (c :: text) (start + 1) (places.map (· + 1)) = piecesFrom text start places := by
  induction places generalizing start with
  | nil => rfl
  | cons place places ih =>
    rw [List.map_cons, piecesFrom, piecesFrom, ih, List.drop_succ_cons, Nat.add_sub_add_right]

/-- A character in front of a text goes in front of its first piece. -/
theorem piecesFrom_cons_zero (c : Char) (text : List Char) (places : List Nat) :
    piecesFrom (c :: text) 0 (places.map (· + 1)) = extendFirst c (piecesFrom text 0 places) := by
  cases places with
  | nil => rfl
  | cons place places =>
    rw [List.map_cons, piecesFrom, piecesFrom, piecesFrom_cons_succ]
    rfl

/-- A text is split at the places of its separators. -/
theorem splitWhere_eq_piecesFrom (isSeparator : Char → List Char → Bool) (text : List Char) :
    splitWhere isSeparator text = piecesFrom text 0 (separatorPlaces isSeparator text) := by
  induction text with
  | nil => rfl
  | cons c rest ih =>
    rw [splitWhere, separatorPlaces, ih]
    split
    · rw [piecesFrom, piecesFrom_cons_succ]
      rfl
    · rw [piecesFrom_cons_zero]

theorem mem_separatorPlaces_iff {isSeparator : Char → List Char → Bool} {text : List Char} {place : Nat} :
    place ∈ separatorPlaces isSeparator text ↔
      ∃ c, text[place]? = some c ∧ isSeparator c (text.drop (place + 1)) = true := by
  induction text generalizing place with
  | nil => simp [separatorPlaces]
  | cons c rest ih =>
    have others : place ∈ (separatorPlaces isSeparator rest).map (· + 1) ↔
        ∃ before, place = before + 1 ∧ ∃ d, rest[before]? = some d ∧ isSeparator d (rest.drop (before + 1)) = true := by
      simp only [List.mem_map, ih]
      exact exists_congr fun before => by rw [and_comm, eq_comm]
    rw [separatorPlaces]
    cases place with
    | zero => split <;> simp_all
    | succ before => split <;> simp_all

theorem pairwise_separatorPlaces (isSeparator : Char → List Char → Bool) (text : List Char) :
    (separatorPlaces isSeparator text).Pairwise (· < ·) := by
  induction text with
  | nil => exact .nil
  | cons c rest ih =>
    have others : ((separatorPlaces isSeparator rest).map (· + 1)).Pairwise (· < ·) :=
      ih.map _ fun _ _ less => Nat.succ_lt_succ less
    rw [separatorPlaces]
    split
    · refine List.pairwise_cons.2 ⟨fun place mem => ?_, others⟩
      obtain ⟨before, -, rfl⟩ := List.mem_map.1 mem
      exact Nat.succ_pos before
    · exact others

/-! ## Cutting anywhere -/

section

variable {separator : Char} {text : List Char}

theorem riseFrom_of_pairwise {places : List Nat} (rising : places.Pairwise (· < ·))
    (separators : ∀ place ∈ places, text[place]? = some separator) {start : Nat}
    (behind : ∀ place ∈ places, start ≤ place) : RiseFrom separator text start places := by
  induction places generalizing start with
  | nil => trivial
  | cons place places ih =>
    obtain ⟨above, others⟩ := List.pairwise_cons.1 rising
    exact ⟨behind place List.mem_cons_self, separators place List.mem_cons_self,
      ih others (fun later mem => separators later (List.mem_cons_of_mem _ mem)) above⟩

/-- The pieces with the separator in front of each. -/
theorem cons_joinWith {pieces : List (List Char)} (nonempty : pieces ≠ []) :
    separator :: joinWith separator pieces = pieces.flatMap (separator :: ·) := by
  match pieces with
  | [] => exact absurd rfl nonempty
  | [piece] => simp [joinWith]
  | piece :: next :: pieces =>
    rw [joinWith, cons_joinWith (List.cons_ne_nil next pieces)]
    rfl

/-- Cutting loses nothing, wherever the cuts are. -/
theorem joinWith_piecesFrom {start : Nat} {places : List Nat} (rise : RiseFrom separator text start places) :
    joinWith separator (piecesFrom text start places) = text.drop start := by
  induction places generalizing start with
  | nil => rfl
  | cons place places ih =>
    obtain ⟨behind, here, others⟩ := rise
    have nonempty := piecesFrom_ne_nil text (place + 1) places
    have after : text.drop place = separator :: text.drop (place + 1) := by
      obtain ⟨inside, found⟩ := List.getElem?_eq_some_iff.1 here
      rw [List.drop_eq_getElem_cons inside, found]
    have joined : joinWith separator (piecesFrom text start (place :: places)) =
        (text.drop start).take (place - start)
          ++ separator :: joinWith separator (piecesFrom text (place + 1) places) := by
      rw [piecesFrom]
      cases pieces : piecesFrom text (place + 1) places with
      | nil => exact absurd pieces nonempty
      | cons next pieces => rfl
    calc joinWith separator (piecesFrom text start (place :: places))
        _ = (text.drop start).take (place - start) ++ text.drop place := by rw [joined, ih others, after]
        _ = (text.drop start).take (place - start) ++ (text.drop start).drop (place - start) := by
          rw [List.drop_drop, Nat.add_sub_cancel' behind]
        _ = text.drop start := List.take_append_drop _ _

/-- The pieces of a text tell where it was cut. -/
theorem piecesFrom_injective {start : Nat} {places places' : List Nat} (rise : RiseFrom separator text start places)
    (rise' : RiseFrom separator text start places')
    (same : piecesFrom text start places = piecesFrom text start places') : places = places' := by
  induction places generalizing start places' with
  | nil =>
    cases places' with
    | nil => rfl
    | cons place places =>
      have none := (List.cons.inj same).2
      exact absurd none.symm (piecesFrom_ne_nil _ _ _)
  | cons place places ih =>
    cases places' with
    | nil => exact absurd (List.cons.inj same).2 (piecesFrom_ne_nil _ _ _)
    | cons place' places' =>
      obtain ⟨behind, here, others⟩ := rise
      obtain ⟨behind', here', others'⟩ := rise'
      obtain ⟨first, later⟩ := List.cons.inj same
      have inside := (List.getElem?_eq_some_iff.1 here).1
      have inside' := (List.getElem?_eq_some_iff.1 here').1
      have lengths := congrArg List.length first
      rw [List.length_take, List.length_take, List.length_drop] at lengths
      obtain rfl : place = place' := by omega
      rw [ih others others' later]

end

end QueryFilter.Text
