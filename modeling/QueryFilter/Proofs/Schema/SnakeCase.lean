/-
Names in snake case.

A name is written character by character, and what is written never begins with an underscore or has two next to one
another (`Naming.Written`): a letter is written as it is or in lower case, and neither is an underscore. So in the end
underscores stand between other characters only, one at a time, and those characters are the ones of the name
(`Naming.filter_snakeChars`). A text of this form made of lowercase letters, digits and underscores is its own snake
case (`Naming.snakeChars_of_spaced`); such are the names made of ASCII letters, digits and separators once they are in
snake case (`Naming.snakeCase_spaced`).
-/
import Mathlib.Data.List.Chain
import QueryFilter.Proofs.Text.Tidy
import QueryFilter.Schema.Naming
import QueryFilter.Sql.Identifier

namespace QueryFilter

/-! ## Lower case -/

namespace Text

/-- A character as it is written in lower case, when it is upper case. -/
def lowered (c : Char) : List Char :=
  if isUpper c then lower c else [c]

/-- What holds of each ASCII character holds of a character with so small a number. -/
theorem of_ascii {p : Char → Prop} (all : ∀ n < 128, p (Char.ofNat n)) {c : Char} (small : c.toNat < 128) : p c := by
  have here := all c.toNat small
  rwa [Char.ofNat_toNat] at here

theorem ofNat_ne_underscore {n : Nat} (other : n ≠ 95) : Char.ofNat n ≠ '_' := by
  intro same
  by_cases valid : n.isValidChar
  · rw [Char.ofNat, dif_pos valid] at same
    exact other (congrArg Char.toNat same)
  · rw [Char.ofNat, dif_neg valid] at same
    exact absurd (congrArg Char.toNat same) (by decide)

/-- The lower case of no other character is an underscore. -/
theorem underscore_not_mem_lower {c : Char} (other : c ≠ '_') : '_' ∉ lower c := by
  by_cases small : c.toNat < 128
  · have ascii : ∀ n < 128, Char.ofNat n ≠ '_' → '_' ∉ lower (Char.ofNat n) := by decide +kernel
    exact of_ascii (p := fun c => c ≠ '_' → '_' ∉ lower c) ascii small other
  · rw [lower, if_neg small]
    split
    · decide
    · rw [List.mem_singleton]
      cases found : tableLower? c.toNat with
      | none => simpa using Ne.symm other
      | some m =>
        have large := tableLower?_ge found
        simpa using (ofNat_ne_underscore (show m ≠ 95 by omega)).symm

theorem underscore_not_mem_lowered {c : Char} (other : c ≠ '_') : '_' ∉ lowered c := by
  unfold lowered
  split
  · exact underscore_not_mem_lower other
  · simpa using Ne.symm other

end Text

namespace Naming

/-- Underscores stand between other characters, one at a time. -/
structure Spaced (cs : List Char) : Prop where
  first : cs.head? ≠ some '_'
  last : cs.getLast? ≠ some '_'
  apart : cs.IsChain fun c d => ¬ (c = '_' ∧ d = '_')

/-- What is written of a name at any time, listed from its end: it does not begin with an underscore, and has no two
next to one another. -/
structure Written (written : List Char) : Prop where
  first : written.getLast? ≠ some '_'
  apart : written.IsChain fun c d => ¬ (c = '_' ∧ d = '_')

/-! ## Writing -/

theorem ne_underscore_of_letter {c : Char} (letter : isSeparator c = false) : c ≠ '_' := by
  intro same
  simp [same, isSeparator] at letter

namespace Written

variable {written : List Char}

theorem nil : Written [] :=
  ⟨by simp, .nil⟩

theorem cons (inv : Written written) {c : Char} (other : c ≠ '_') : Written (c :: written) := by
  refine ⟨?_, List.isChain_cons.2 ⟨fun _ _ both => other both.1, inv.apart⟩⟩
  cases written with
  | nil => simpa using other
  | cons d rest => simpa using inv.first

theorem append (inv : Written written) {cs : List Char} (plain : '_' ∉ cs) : Written (cs ++ written) := by
  induction cs with
  | nil => exact inv
  | cons c cs ih =>
    rw [List.mem_cons, not_or] at plain
    exact (ih plain.2).cons (Ne.symm plain.1)

theorem separate (inv : Written written) : Written (separate written) := by
  cases written with
  | nil => exact inv
  | cons c rest =>
    rw [Naming.separate]
    split
    · exact inv
    · rename_i other
      exact ⟨by simpa using inv.first, List.isChain_cons_cons.2 ⟨fun both => other both.2, inv.apart⟩⟩

theorem writeChar (inv : Written written) (previous : Option Char) (c : Char) (next : Option Char) :
    Written (writeChar written previous c next) := by
  unfold Naming.writeChar
  split
  · exact inv.separate
  · rename_i letter
    have other := ne_underscore_of_letter (Bool.not_eq_true _ ▸ letter)
    split
    · have plain : '_' ∉ (Text.lower c).reverse := by simpa using Text.underscore_not_mem_lower other
      split
      · exact inv.separate.append plain
      · exact inv.append plain
    · exact inv.cons other

theorem writeAll (inv : Written written) (previous : Option Char) (text : List Char) :
    Written (writeAll written previous text) := by
  induction text generalizing written previous with
  | nil => exact inv
  | cons c rest ih => exact ih (inv.writeChar previous c rest.head?) (some c)

end Written

/-! ## The characters of a name -/

theorem filter_separate (written : List Char) :
    (separate written).filter (· ≠ '_') = written.filter (· ≠ '_') := by
  cases written with
  | nil => rfl
  | cons c rest =>
    rw [separate]
    split
    · rfl
    · simp

theorem filter_writeChar_of_separator {c : Char} (separator : isSeparator c = true) (written : List Char)
    (previous next : Option Char) :
    (writeChar written previous c next).filter (· ≠ '_') = written.filter (· ≠ '_') := by
  rw [writeChar, if_pos separator, filter_separate]

theorem filter_writeChar_of_letter {c : Char} (letter : isSeparator c = false) (written : List Char)
    (previous next : Option Char) :
    (writeChar written previous c next).filter (· ≠ '_') =
      (Text.lowered c).reverse ++ written.filter (· ≠ '_') := by
  have other := ne_underscore_of_letter letter
  have kept : (Text.lowered c).reverse.filter (· ≠ '_') = (Text.lowered c).reverse := by
    refine List.filter_eq_self.2 fun d mem => decide_eq_true ?_
    intro same
    exact Text.underscore_not_mem_lowered other (List.mem_reverse.1 (same ▸ mem))
  unfold Text.lowered at kept ⊢
  rw [writeChar, if_neg (by simp [letter])]
  split
  · rename_i capital
    rw [if_pos capital] at kept
    rw [List.filter_append, kept]
    split
    · rw [filter_separate]
    · rfl
  · simp [other]

/-- Apart from underscores, the characters of a text are written in lower case, without the separators. -/
theorem filter_writeAll (written : List Char) (previous : Option Char) (text : List Char) :
    (writeAll written previous text).filter (· ≠ '_') =
      ((text.filter fun c => !isSeparator c).flatMap Text.lowered).reverse ++ written.filter (· ≠ '_') := by
  induction text generalizing written previous with
  | nil => rfl
  | cons c rest ih =>
    rw [writeAll, ih]
    cases separator : isSeparator c with
    | true =>
      rw [filter_writeChar_of_separator separator, List.filter_cons_of_neg (by simp [separator])]
    | false =>
      rw [filter_writeChar_of_letter separator, List.filter_cons_of_pos (by simp [separator]), List.flatMap_cons,
        List.reverse_append, List.append_assoc]

/-- The characters of a name in snake case, apart from underscores, are those of the trimmed name in lower case,
without its separators. -/
theorem filter_snakeChars (name : List Char) :
    (snakeChars name).filter (· ≠ '_') =
      ((Text.trim name).filter fun c => !isSeparator c).flatMap Text.lowered := by
  have all := filter_writeAll [] none (Text.trim name)
  rw [List.filter_nil, List.append_nil] at all
  rw [snakeChars, List.filter_reverse, Text.filter_dropWhile (by simp), all, List.reverse_reverse]

theorem spaced_snakeChars (name : List Char) : Spaced (snakeChars name) := by
  have inv := Written.nil.writeAll none (Text.trim name)
  have left : (writeAll [] none (Text.trim name)).dropWhile (· == '_') <:+ writeAll [] none (Text.trim name) :=
    List.dropWhile_suffix _
  refine ⟨?_, ?_, ?_⟩
  · obtain ⟨dropped, split⟩ := left
    have first := inv.first
    rw [← split, List.getLast?_append] at first
    rw [snakeChars, List.head?_reverse]
    intro underscore
    simp [underscore] at first
  · rw [snakeChars, List.getLast?_reverse]
    have stops := List.head?_dropWhile_not (· == '_') (writeAll [] none (Text.trim name))
    intro underscore
    rw [underscore] at stops
    simp at stops
  · rw [snakeChars, List.isChain_reverse]
    exact (inv.apart.suffix left).imp fun c d both same => both same.symm

/-! ## Names that are in snake case -/

/-- The characters of a plain name: ASCII letters, digits and separators. -/
def isPlain (c : Char) : Bool :=
  ('a' ≤ c && c ≤ 'z') || ('A' ≤ c && c ≤ 'Z') || Text.isDigit c || isSeparator c

theorem toNat_lt_of_isPlain {c : Char} (plain : isPlain c = true) : c.toNat < 128 := by
  simp only [isPlain, isSeparator, Text.isDigit, Bool.or_eq_true, Bool.and_eq_true, decide_eq_true_eq, beq_iff_eq]
    at plain
  rcases plain with ((⟨-, upTo⟩ | ⟨-, upTo⟩) | ⟨-, upTo⟩) | ((same | same) | same)
  · exact Nat.lt_of_le_of_lt upTo (by decide)
  · exact Nat.lt_of_le_of_lt upTo (by decide)
  · exact Nat.lt_of_le_of_lt upTo (by decide)
  · subst same
    decide
  · subst same
    decide
  · subst same
    decide

theorem isPart_of_mem_lowered {c d : Char} (plain : isPlain c = true) (letter : isSeparator c = false)
    (mem : d ∈ Text.lowered c) : Identifier.isPart d = true := by
  have ascii : ∀ n < 128, isPlain (Char.ofNat n) = true → isSeparator (Char.ofNat n) = false →
      (Text.lowered (Char.ofNat n)).all Identifier.isPart = true := by decide +kernel
  have all := Text.of_ascii (p := fun c => isPlain c = true → isSeparator c = false →
    (Text.lowered c).all Identifier.isPart = true) ascii (toNat_lt_of_isPlain plain) plain letter
  exact List.all_eq_true.1 all d mem

/-- A part of an identifier is written as it is: it is neither upper case nor white space, and no separator but the
underscore. -/
theorem kept_of_isPart {c : Char} (part : Identifier.isPart c = true) :
    Text.isUpper c = false ∧ Text.isSpace c = false ∧ (isSeparator c = true → c = '_') := by
  have ascii : ∀ n < 128, Identifier.isPart (Char.ofNat n) = true → Text.isUpper (Char.ofNat n) = false
      ∧ Text.isSpace (Char.ofNat n) = false ∧ (isSeparator (Char.ofNat n) = true → Char.ofNat n = '_') := by
    decide +kernel
  have plain : isPlain c = true := by
    revert part
    simp only [Identifier.isPart, Identifier.isStart, isPlain, isSeparator, Bool.or_eq_true]
    intro part
    rcases part with (lower | underscore) | digit
    · exact .inl (.inl (.inl lower))
    · exact .inr (.inr underscore)
    · exact .inl (.inr digit)
  exact Text.of_ascii (p := fun c => Identifier.isPart c = true → Text.isUpper c = false ∧ Text.isSpace c = false
    ∧ (isSeparator c = true → c = '_')) ascii (toNat_lt_of_isPlain plain) part

/-- Of a text in which underscores stand between other characters, one at a time, the rest is written as it is. -/
theorem writeAll_of_spaced {written cs : List Char} (previous : Option Char)
    (parts : ∀ c ∈ cs, Identifier.isPart c = true) (spaced : Spaced (written.reverse ++ cs)) :
    writeAll written previous cs = cs.reverse ++ written := by
  induction cs generalizing written previous with
  | nil => rfl
  | cons c rest ih =>
    obtain ⟨upper, -, separator⟩ := kept_of_isPart (parts c List.mem_cons_self)
    have here : writeChar written previous c rest.head? = c :: written := by
      by_cases underscore : c = '_'
      · -- Something is written already, and it does not end with an underscore.
        subst underscore
        cases written with
        | nil => exact absurd rfl spaced.first
        | cons d written =>
          have apart := (List.isChain_append.1 spaced.apart).2.2 d (by simp) '_' (by simp)
          have other : d ≠ '_' := fun same => apart ⟨same, rfl⟩
          rw [writeChar, if_pos (by decide), separate, if_neg other]
      · have letter : ¬ isSeparator c = true := fun same => underscore (separator same)
        rw [writeChar, if_neg letter, if_neg (by simp [upper])]
    have again := ih (some c) (fun d mem => parts d (List.mem_cons_of_mem c mem))
      (show Spaced ((c :: written).reverse ++ rest) by simpa using spaced)
    rw [writeAll, here, again, List.reverse_cons, List.append_assoc, List.singleton_append]

/-- A text of lowercase letters and digits with underscores between them, one at a time, is its own snake case. -/
theorem snakeChars_of_spaced {cs : List Char} (parts : ∀ c ∈ cs, Identifier.isPart c = true) (spaced : Spaced cs) :
    snakeChars cs = cs := by
  have trimmed : Text.trim cs = cs := Text.trim_eq_self_of_visible fun c mem => (kept_of_isPart (parts c mem)).2.1
  have written := writeAll_of_spaced none parts (show Spaced ([].reverse ++ cs) from spaced)
  rw [List.append_nil] at written
  rw [snakeChars, trimmed, written]
  cases last : cs.reverse with
  | nil => rw [List.reverse_eq_nil_iff.1 last]; rfl
  | cons c rest =>
    have other : c ≠ '_' := by
      intro same
      have final := spaced.last
      rw [← List.head?_reverse, last, same] at final
      exact final rfl
    rw [List.dropWhile_cons, if_neg (by simpa using other), ← last, List.reverse_reverse]

theorem isPart_of_mem_snakeChars {name : List Char} (plain : ∀ c ∈ name, isPlain c = true) {c : Char}
    (mem : c ∈ snakeChars name) : Identifier.isPart c = true := by
  by_cases underscore : c = '_'
  · subst underscore
    decide
  · have kept : c ∈ (snakeChars name).filter (· ≠ '_') := List.mem_filter.2 ⟨mem, decide_eq_true underscore⟩
    rw [filter_snakeChars] at kept
    obtain ⟨d, there, here⟩ := List.mem_flatMap.1 kept
    obtain ⟨inside, letter⟩ := List.mem_filter.1 there
    exact isPart_of_mem_lowered (plain d ((Text.trim_sublist name).mem inside)) (by simpa using letter) here

/-- **Snake case only puts separators in and merges them.** Underscores stand between other characters of the name in
snake case, one at a time, and those characters are the ones of the trimmed name in lower case, all of them and in
order, without its separators. A plain name is written with the characters of identifiers alone, and once it is in
snake case it stays as it is. -/
theorem snakeCase_spaced (name : String) :
    Spaced (snakeCase name).toList
      ∧ (snakeCase name).toList.filter (· ≠ '_') =
        ((Text.trim name.toList).filter fun c => !isSeparator c).flatMap Text.lowered
      ∧ ((∀ c ∈ name.toList, isPlain c = true) →
        (∀ c ∈ (snakeCase name).toList, Identifier.isPart c = true) ∧ snakeCase (snakeCase name) = snakeCase name) := by
  have characters : (snakeCase name).toList = snakeChars name.toList := by rw [snakeCase, String.toList_ofList]
  have spaced := spaced_snakeChars name.toList
  rw [characters]
  refine ⟨spaced, filter_snakeChars name.toList, fun plain => ?_⟩
  have parts (c : Char) (mem : c ∈ snakeChars name.toList) : Identifier.isPart c = true :=
    isPart_of_mem_snakeChars plain mem
  refine ⟨parts, ?_⟩
  rw [snakeCase, characters, snakeChars_of_spaced parts spaced, snakeCase]

end Naming

namespace Sample

/-- Humps, an acronym, digits and runs of separators, at the ends as well. -/
def mixedName : String :=
  " _-XMLHttp - Request__v2Total 3D_ "

end Sample

open Sample in
theorem Naming.snakeCase_spaced_mixed :
    (∀ c ∈ mixedName.toList, isPlain c = true)
      ∧ snakeCase mixedName = "xml_http_request_v2_total_3_d"
      ∧ snakeCase (snakeCase mixedName) = snakeCase mixedName := by
  have plain : ∀ c ∈ mixedName.toList, isPlain c = true := List.all_eq_true.1 (by decide +kernel)
  exact ⟨plain, by decide +kernel, ((snakeCase_spaced mixedName).2.2 plain).2⟩

end QueryFilter
