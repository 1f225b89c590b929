/-
Taking texts apart and putting them together.

A text is cut at the first separator (`cut_eq_none_iff`, `cut_eq_some_iff`). Pieces that are joined come apart
again where they were joined when no piece is cut inside (`splitWhere_append`); for a separator that always
separates this says that it is in none of the pieces (`splitOn_joinWith`).
-/
import QueryFilter.Text.Split

namespace QueryFilter.Text

variable {separator : Char}

theorem cut_eq_none_iff {cs before : List Char} :
    cut separator cs = (before, none) ↔ before = cs ∧ separator ∉ cs := by
  induction cs generalizing before with
  | nil => simp [cut, eq_comm]
  | cons c rest ih =>
    rw [cut]
    by_cases here : c = separator
    · simp [here]
    · rw [if_neg (by simpa using here)]
      cases tail : cut separator rest with
      | mk first after =>
        cases after with
        | none =>
          obtain ⟨rfl, absent⟩ := ih.1 tail
          simp [absent, Ne.symm here, eq_comm]
        | some after =>
          have found : separator ∈ rest := by
            by_cases mem : separator ∈ rest
            · exact mem
            · have whole := ih.2 ⟨rfl, mem⟩
              rw [tail] at whole
              cases whole
          simp [found]

theorem cut_eq_some_iff {cs before after : List Char} :
    cut separator cs = (before, some after) ↔ cs = before ++ separator :: after ∧ separator ∉ before := by
  induction cs generalizing before with
  | nil => simp [cut]
  | cons c rest ih =>
    rw [cut]
    by_cases here : c = separator
    · subst here
      rw [if_pos (beq_self_eq_true c)]
      cases before with
      | nil => simp [eq_comm]
      | cons d before =>
        simp only [Prod.mk.injEq, List.cons_append, List.cons.injEq, List.mem_cons, not_or]
        constructor
        · rintro ⟨⟨⟩, -⟩
        · rintro ⟨⟨rfl, -⟩, absurd, -⟩
          exact absurd.elim rfl
    · rw [if_neg (by simpa using here)]
      cases before with
      | nil => simp [here]
      | cons d before =>
        simp only [Prod.mk.injEq, List.cons_append, List.cons.injEq, List.mem_cons, not_or]
        constructor
        · rintro ⟨⟨rfl, first⟩, later⟩
          obtain ⟨whole, absent⟩ := ih.1 (Prod.ext first later)
          exact ⟨⟨rfl, whole⟩, Ne.symm here, absent⟩
        · rintro ⟨⟨rfl, whole⟩, -, absent⟩
          have tail := ih.2 ⟨whole, absent⟩
          exact ⟨⟨rfl, by rw [tail]⟩, by rw [tail]⟩

/-! ## Pieces -/

/-- No character of the piece separates when the given text follows it. -/
def Uncut (isSeparator : Char → List Char → Bool) (after : List Char) : List Char → Prop
  | [] => True
  | c :: rest => isSeparator c (rest ++ after) = false ∧ Uncut isSeparator after rest

theorem splitWhere_of_uncut {isSeparator : Char → List Char → Bool} {piece : List Char}
    (uncut : Uncut isSeparator [] piece) : splitWhere isSeparator piece = [piece] := by
  induction piece with
  | nil => rfl
  | cons c rest ih =>
    obtain ⟨here, later⟩ := uncut
    rw [List.append_nil] at here
    rw [splitWhere, here, ih later]
    rfl

/-- A piece that is not cut inside goes in front of the first piece of the text that follows it. -/
theorem splitWhere_append_of_uncut {isSeparator : Char → List Char → Bool} {piece rest first : List Char}
    {others : List (List Char)} (uncut : Uncut isSeparator rest piece)
    (pieces : splitWhere isSeparator rest = first :: others) :
    splitWhere isSeparator (piece ++ rest) = (piece ++ first) :: others := by
  induction piece with
  | nil => exact pieces
  | cons c piece ih =>
    obtain ⟨here, later⟩ := uncut
    rw [List.cons_append, splitWhere, here, ih later]
    rfl

/-- A piece that is not cut inside comes apart from the text that a separator sets off from it. -/
theorem splitWhere_append {isSeparator : Char → List Char → Bool} {piece rest : List Char}
    (uncut : Uncut isSeparator (separator :: rest) piece) (separates : isSeparator separator rest = true) :
    splitWhere isSeparator (piece ++ separator :: rest) = piece :: splitWhere isSeparator rest := by
  induction piece with
  | nil => simp [splitWhere, separates]
  | cons c piece ih =>
    obtain ⟨here, later⟩ := uncut
    rw [List.cons_append, splitWhere, here, ih later]
    rfl

theorem uncut_of_not_mem {piece : List Char} (absent : separator ∉ piece) (after : List Char) :
    Uncut (fun c _ => c == separator) after piece := by
  induction piece with
  | nil => trivial
  | cons c rest ih =>
    rw [List.mem_cons, not_or] at absent
    exact ⟨by simpa using Ne.symm absent.1, ih absent.2⟩

/-- Pieces without the separator come apart where they were joined. -/
theorem splitOn_joinWith {pieces : List (List Char)} (nonempty : pieces ≠ [])
    (absent : ∀ piece ∈ pieces, separator ∉ piece) : splitOn separator (joinWith separator pieces) = pieces := by
  unfold splitOn
  match pieces with
  | [] => exact absurd rfl nonempty
  | [piece] => exact splitWhere_of_uncut (uncut_of_not_mem (absent piece List.mem_cons_self) [])
  | piece :: next :: pieces =>
    have first := uncut_of_not_mem (absent piece List.mem_cons_self)
    have others := splitOn_joinWith (List.cons_ne_nil next pieces) fun piece mem =>
      absent piece (List.mem_cons_of_mem _ mem)
    unfold splitOn at others
    rw [joinWith, splitWhere_append (first _) (beq_self_eq_true separator), others]

theorem not_mem_of_mem_splitOn {cs piece : List Char} (mem : piece ∈ splitOn separator cs) :
    separator ∉ piece := by
  unfold splitOn at mem
  induction cs generalizing piece with
  | nil =>
    rcases List.mem_singleton.1 mem with rfl
    exact List.not_mem_nil
  | cons c rest ih =>
    rw [splitWhere] at mem
    split at mem
    · rcases List.mem_cons.1 mem with rfl | later
      · exact List.not_mem_nil
      · exact ih later
    · rename_i other
      cases pieces : splitWhere (fun c _ => c == separator) rest with
      | nil => exact absurd pieces (splitWhere_ne_nil _ _)
      | cons first others =>
        rw [pieces, extendFirst] at mem
        rcases List.mem_cons.1 mem with rfl | later
        · have absent := ih (pieces ▸ List.mem_cons_self)
          rw [List.mem_cons, not_or]
          exact ⟨fun same => other (by simp [same]), absent⟩
        · exact ih (pieces ▸ List.mem_cons_of_mem _ later)

theorem joinWith_splitOn (cs : List Char) : joinWith separator (splitOn separator cs) = cs :=
  joinWith_splitWhere (fun _ _ same => by simpa using same) cs

theorem joinWith_eq_intercalate (pieces : List (List Char)) :
    joinWith separator pieces = [separator].intercalate pieces := by
  match pieces with
  | [] => rfl
  | [_] => simp [joinWith, List.intercalate]
  | piece :: next :: pieces =>
    rw [joinWith, joinWith_eq_intercalate (next :: pieces)]
    simp [List.intercalate]

theorem mem_of_mem_joinWith {c : Char} {pieces : List (List Char)} (mem : c ∈ joinWith separator pieces) :
    c = separator ∨ ∃ piece ∈ pieces, c ∈ piece := by
  match pieces with
  | [] => cases mem
  | [piece] => exact .inr ⟨piece, List.mem_cons_self, mem⟩
  | piece :: next :: pieces =>
    rw [joinWith, List.mem_append, List.mem_cons] at mem
    rcases mem with here | rfl | later
    · exact .inr ⟨piece, List.mem_cons_self, here⟩
    · exact .inl rfl
    · rcases mem_of_mem_joinWith later with same | ⟨found, there, here⟩
      · exact .inl same
      · exact .inr ⟨found, List.mem_cons_of_mem _ there, here⟩

/-- Joined pieces lose what each of them loses, when the separator is kept. -/
theorem filter_joinWith {p : Char → Bool} (kept : p separator = true) (pieces : List (List Char)) :
    (joinWith separator pieces).filter p = joinWith separator (pieces.map (·.filter p)) := by
  match pieces with
  | [] => rfl
  | [_] => rfl
  | piece :: next :: pieces =>
    have others := filter_joinWith kept (next :: pieces)
    rw [joinWith, List.filter_append, List.filter_cons_of_pos kept, others]
    rfl

/-- Strings joined by a string of one character are their characters joined by it. -/
theorem toList_intercalate_singleton (separator : Char) (texts : List String) :
    ((String.singleton separator).intercalate texts).toList = joinWith separator (texts.map String.toList) := by
  rw [joinWith_eq_intercalate, String.toList_intercalate, String.toList_singleton]

end QueryFilter.Text
