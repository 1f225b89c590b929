/-
Texts without white space around them.

A tidy text has a first and a last character, and neither is white space. Trimming leaves a tidy text as it is
(`Tidy.trim_eq`) and makes one of every text that is not blank (`tidy_trim`); it takes nothing away but white
space (`filter_trim`).
-/
import Mathlib.Data.List.TakeWhile
import QueryFilter.Text.Space

namespace QueryFilter.Text

/-- The first and the last character of the text are not white space. -/
structure Tidy (cs : List Char) : Prop where
  first : ∃ c, cs.head? = some c ∧ isSpace c = false
  last : ∃ c, cs.getLast? = some c ∧ isSpace c = false

theorem dropWhile_of_head? {p : Char → Bool} {c : Char} {cs : List Char} (first : cs.head? = some c)
    (stays : p c = false) : cs.dropWhile p = cs := by
  cases cs with
  | nil => rfl
  | cons d rest =>
    cases first
    rw [List.dropWhile_cons, if_neg (by simp [stays])]

theorem trimStart_of_head? {c : Char} {cs : List Char} (first : cs.head? = some c)
    (text : isSpace c = false) : trimStart cs = cs :=
  dropWhile_of_head? first text

theorem trimEnd_of_getLast? {c : Char} {cs : List Char} (last : cs.getLast? = some c)
    (text : isSpace c = false) : trimEnd cs = cs := by
  have first : cs.reverse.head? = some c := by rw [List.head?_reverse, last]
  rw [trimEnd, dropWhile_of_head? first text, List.reverse_reverse]

namespace Tidy

variable {cs : List Char}

theorem ne_nil (tidy : Tidy cs) : cs ≠ [] := by
  rintro rfl
  obtain ⟨c, first, -⟩ := tidy.first
  cases first

theorem trim_eq (tidy : Tidy cs) : trim cs = cs := by
  obtain ⟨c, first, text⟩ := tidy.first
  obtain ⟨d, last, text'⟩ := tidy.last
  rw [trim, trimStart_of_head? first text, trimEnd_of_getLast? last text']

theorem not_blank (tidy : Tidy cs) : isBlank cs = false := by
  obtain ⟨c, first, text⟩ := tidy.first
  refine List.all_eq_false.2 ⟨c, List.mem_of_head? first, ?_⟩
  simp [text]

/-- Whatever stands between tidy texts, the whole is tidy. -/
theorem surround {cs' : List Char} (tidy : Tidy cs) (between : List Char) (tidy' : Tidy cs') :
    Tidy (cs ++ between ++ cs') where
  first := by
    obtain ⟨c, first, text⟩ := tidy.first
    exact ⟨c, by rw [List.append_assoc, List.head?_append, first, Option.some_or], text⟩
  last := by
    obtain ⟨c, last, text⟩ := tidy'.last
    exact ⟨c, by rw [List.getLast?_append, last, Option.some_or], text⟩

theorem singleton {c : Char} (text : isSpace c = false) : Tidy [c] :=
  ⟨⟨c, rfl, text⟩, ⟨c, rfl, text⟩⟩

end Tidy

/-! ## Trimming -/

theorem not_blank_of_mem {c : Char} {cs : List Char} (mem : c ∈ cs) (visible : isSpace c = false) :
    isBlank cs = false :=
  List.all_eq_false.2 ⟨c, mem, by simp [visible]⟩

theorem not_mem_of_blank {c : Char} {cs : List Char} (blank : isBlank cs = true) (visible : isSpace c = false) :
    c ∉ cs := by
  intro mem
  rw [not_blank_of_mem mem visible] at blank
  cases blank

theorem trimStart_eq_nil_iff {cs : List Char} : trimStart cs = [] ↔ isBlank cs = true := by
  simp [trimStart, isBlank]

theorem head?_trimStart {cs : List Char} (text : isBlank cs = false) :
    ∃ c, (trimStart cs).head? = some c ∧ isSpace c = false := by
  have found := List.head?_dropWhile_not isSpace cs
  cases first : (cs.dropWhile isSpace).head? with
  | some c =>
    rw [first] at found
    exact ⟨c, first, by simpa using found⟩
  | none =>
    have blank := trimStart_eq_nil_iff.1 (List.head?_eq_none_iff.1 first)
    rw [blank] at text
    cases text

theorem reverse_trimEnd (cs : List Char) : (trimEnd cs).reverse = trimStart cs.reverse := by
  rw [trimEnd, List.reverse_reverse, trimStart]

theorem exists_trimEnd_append (cs : List Char) : ∃ dropped, trimEnd cs ++ dropped = cs := by
  have fromEnd : trimStart cs.reverse <:+ cs.reverse := List.dropWhile_suffix _
  rw [← reverse_trimEnd, List.reverse_suffix] at fromEnd
  exact fromEnd

theorem tidy_trim {cs : List Char} (text : isBlank cs = false) : Tidy (trim cs) := by
  obtain ⟨c, first, visible⟩ := head?_trimStart text
  have visibleRest : isBlank (trimStart cs).reverse = false :=
    List.all_eq_false.2 ⟨c, List.mem_reverse.2 (List.mem_of_head? first), by simp [visible]⟩
  obtain ⟨d, last, visible'⟩ := head?_trimStart visibleRest
  rw [← reverse_trimEnd, List.head?_reverse] at last
  refine ⟨⟨c, ?_, visible⟩, ⟨d, last, visible'⟩⟩
  -- What is left begins where the text began, since it is not empty.
  obtain ⟨dropped, split⟩ := exists_trimEnd_append (trimStart cs)
  rw [trim]
  cases left : trimEnd (trimStart cs) with
  | nil =>
    rw [left] at last
    cases last
  | cons e rest =>
    rw [← split, left] at first
    exact first

/-! ### A text in front of another -/

theorem trimStart_append_of_visible {cs : List Char} (visible : isBlank cs = false) (after : List Char) :
    trimStart (cs ++ after) = trimStart cs ++ after := by
  have left : (cs.dropWhile isSpace).isEmpty = false := by
    rw [List.isEmpty_eq_false_iff]
    exact fun nothing => by simp [trimStart_eq_nil_iff.1 nothing] at visible
  rw [trimStart, List.dropWhile_append, left]
  rfl

theorem trimEnd_append_of_visible {cs : List Char} (visible : isBlank cs = false) (before : List Char) :
    trimEnd (before ++ cs) = before ++ trimEnd cs := by
  have reversed : isBlank cs.reverse = false := by rw [isBlank, List.all_reverse]; exact visible
  rw [← List.reverse_inj, reverse_trimEnd, List.reverse_append, trimStart_append_of_visible reversed,
    List.reverse_append, reverse_trimEnd]

/-- Of two texts that are not blank, trimming leaves the second one at the end of the whole. -/
theorem exists_trim_append {before cs : List Char} (visible : isBlank before = false)
    (visible' : isBlank cs = false) :
    ∃ gap, isBlank gap = true ∧ trim (before ++ cs) = trimStart before ++ gap ++ trim cs := by
  refine ⟨cs.takeWhile isSpace, List.all_takeWhile, ?_⟩
  have rest : isBlank (trimStart cs) = false := by
    obtain ⟨c, first, text⟩ := head?_trimStart visible'
    exact not_blank_of_mem (List.mem_of_head? first) text
  have whole : cs.takeWhile isSpace ++ trimStart cs = cs := List.takeWhile_append_dropWhile
  calc trim (before ++ cs)
      _ = trimEnd (trimStart before ++ cs) := by rw [trim, trimStart_append_of_visible visible]
      _ = trimEnd (trimStart before ++ cs.takeWhile isSpace ++ trimStart cs) := by
        rw [List.append_assoc, whole]
      _ = trimStart before ++ cs.takeWhile isSpace ++ trim cs := trimEnd_append_of_visible rest _

theorem trim_eq_nil_iff {cs : List Char} : trim cs = [] ↔ isBlank cs = true := by
  constructor
  · intro nothing
    cases blank : isBlank cs with
    | true => rfl
    | false => exact absurd nothing (tidy_trim blank).ne_nil
  · intro blank
    rw [trim, trimStart_eq_nil_iff.2 blank]
    rfl

theorem isEmpty_trim (cs : List Char) : (trim cs).isEmpty = isBlank cs := by
  rw [Bool.eq_iff_iff, List.isEmpty_iff, trim_eq_nil_iff]

theorem trim_trim (cs : List Char) : trim (trim cs) = trim cs := by
  cases blank : isBlank cs with
  | true => rw [trim_eq_nil_iff.2 blank]; rfl
  | false => rw [(tidy_trim blank).trim_eq]

/-- A text without white space is not trimmed. -/
theorem trim_eq_self_of_visible {cs : List Char} (visible : ∀ c ∈ cs, isSpace c = false) : trim cs = cs := by
  cases cs with
  | nil => rfl
  | cons c rest =>
    have first : ∃ d, (c :: rest).head? = some d ∧ isSpace d = false := ⟨c, rfl, visible c List.mem_cons_self⟩
    have last : ∃ d, (c :: rest).getLast? = some d ∧ isSpace d = false :=
      ⟨_, List.getLast?_eq_some_getLast (List.cons_ne_nil c rest), visible _ (List.getLast_mem _)⟩
    exact Tidy.trim_eq ⟨first, last⟩

theorem trim_sublist (cs : List Char) : (trim cs).Sublist cs := by
  obtain ⟨dropped, split⟩ := exists_trimEnd_append (trimStart cs)
  have kept : (trim cs).Sublist (trim cs ++ dropped) := List.sublist_append_left _ _
  rw [trim, split] at kept
  exact kept.trans (List.dropWhile_suffix _).sublist

/-- Dropping characters in front keeps all others. -/
theorem filter_dropWhile {p q : Char → Bool} (other : ∀ c, p c = true → q c = false) (cs : List Char) :
    (cs.dropWhile q).filter p = cs.filter p := by
  induction cs with
  | nil => rfl
  | cons c rest ih =>
    rw [List.dropWhile_cons]
    split
    · rename_i dropped
      have left : ¬ p c = true := fun kept => by simp [other c kept] at dropped
      rw [ih, List.filter_cons_of_neg left]
    · rfl

theorem filter_trimStart {p : Char → Bool} (visible : ∀ c, p c = true → isSpace c = false) (cs : List Char) :
    (trimStart cs).filter p = cs.filter p :=
  filter_dropWhile visible cs

theorem mem_trimStart {c : Char} {cs : List Char} (mem : c ∈ cs) (visible : isSpace c = false) :
    c ∈ trimStart cs := by
  have kept := filter_trimStart (p := (· == c)) (fun d same => by rwa [beq_iff_eq.1 same]) cs
  have inside : c ∈ cs.filter (· == c) := List.mem_filter.2 ⟨mem, beq_self_eq_true c⟩
  rw [← kept] at inside
  exact (List.mem_filter.1 inside).1

/-- Trimming leaves everything but white space. -/
theorem filter_trim {p : Char → Bool} (visible : ∀ c, p c = true → isSpace c = false) (cs : List Char) :
    (trim cs).filter p = cs.filter p := by
  have fromEnd := filter_trimStart visible (trimStart cs).reverse
  rw [← reverse_trimEnd, List.filter_reverse, List.filter_reverse] at fromEnd
  rw [trim, List.reverse_inj.1 fromEnd, filter_trimStart visible]

/-- Tidy pieces are all kept when pieces are trimmed and the blank ones left out. -/
theorem filter_map_trim_of_tidy {pieces : List (List Char)} (tidy : ∀ piece ∈ pieces, Tidy piece) :
    ((pieces.map trim).filter fun piece => !piece.isEmpty) = pieces := by
  rw [List.map_congr_left fun piece mem => (tidy piece mem).trim_eq, List.map_id']
  exact List.filter_eq_self.2 fun piece mem => by simpa using (tidy piece mem).ne_nil

end QueryFilter.Text
