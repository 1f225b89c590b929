/-
Where a query is cut for counting.

A query that selects a list is cut right after the `FROM` that ends its list, and what is appended to the query
stays behind the cut (`ListQuery.target?_append`): the list has no `FROM` of its own, and the scan never gets as
far as one in the appended text. A query that selects distinct rows is found to do so whatever is appended
(`DistinctQuery.selectsDistinct_append`), and appending makes no query of a text that does not begin with
`SELECT` (`afterSelect?_append_of_not_select`).

A keyword has no white space, so once white space has come it cannot begin in one text and end in the next
(`exists_of_append_eq`).
-/
import QueryFilter.Proofs.Text.Pieces
import QueryFilter.Proofs.Text.Tidy
import QueryFilter.Sql.Count

namespace QueryFilter.CountQuery

open Text (isSpace isBlank)

/-- A text is a keyword, each of its letters in any case; the long s is a case of s. -/
def IsKeyword (keyword text : List Char) : Prop :=
  text.map foldCase = keyword

instance (keyword text : List Char) : Decidable (IsKeyword keyword text) :=
  inferInstanceAs (Decidable (_ = _))

/-- A text begins with the letters of a keyword. -/
def BeginsWith (keyword text : List Char) : Prop :=
  ∃ word rest, text = word ++ rest ∧ IsKeyword keyword word

/-- A text begins with a keyword that no word character follows. -/
def BeginsWithWord (keyword text : List Char) : Prop :=
  ∃ word rest, text = word ++ rest ∧ IsKeyword keyword word ∧ wordEnds rest = true

/-- What stands between white space in a text. -/
def words (text : List Char) : List (List Char) :=
  Text.splitWhere (fun c _ => isSpace c) text

/-- White space, and some of it. -/
structure IsGap (text : List Char) : Prop where
  nonempty : text ≠ []
  blank : isBlank text = true

/-- The parts of a query that selects a list: the keyword `SELECT`, a gap, the list, another gap, the keyword
`FROM`, one white space character, and what is selected from. The list begins visibly, but not with the word
`DISTINCT`, and none of its words is `FROM`. -/
structure ListQuery where
  selectKeyword : List Char
  gap : List Char
  items : List Char
  gapAfter : List Char
  fromKeyword : List Char
  space : Char
  target : List Char
  isSelect : IsKeyword selectWord selectKeyword
  isGap : IsGap gap
  visible : ∃ c, items.head? = some c ∧ isSpace c = false
  notDistinct : ¬ BeginsWithWord distinctWord items
  noFrom : ∀ word ∈ words items, ¬ IsKeyword fromWord word
  isGapAfter : IsGap gapAfter
  isFrom : IsKeyword fromWord fromKeyword
  spaced : isSpace space = true

/-- The end of a list: white space, `FROM`, and what is selected from. -/
def ListQuery.ending (query : ListQuery) (target : List Char) : List Char :=
  query.gapAfter ++ (query.fromKeyword ++ query.space :: target)

def ListQuery.text (query : ListQuery) : List Char :=
  query.selectKeyword ++ query.gap ++ (query.items ++ query.ending query.target)

/-- The parts of a query that selects distinct rows: the keyword `SELECT`, a gap, the whole word `DISTINCT`, and
the rest. -/
structure DistinctQuery where
  selectKeyword : List Char
  gap : List Char
  distinctKeyword : List Char
  rest : List Char
  isSelect : IsKeyword selectWord selectKeyword
  isGap : IsGap gap
  isDistinct : IsKeyword distinctWord distinctKeyword
  ends : wordEnds rest = true

def DistinctQuery.text (query : DistinctQuery) : List Char :=
  query.selectKeyword ++ query.gap ++ (query.distinctKeyword ++ query.rest)

/-! ## Keywords -/

theorem foldCase_of_isSpace {c : Char} (space : isSpace c = true) : foldCase c = c := by
  unfold foldCase
  split
  · rename_i long
    subst long
    cases space
  · split
    · rename_i capital
      obtain ⟨low, high⟩ := capital
      have least : 65 ≤ c.toNat := low
      have greatest : c.toNat ≤ 90 := high
      simp only [isSpace, Bool.or_eq_true, Bool.and_eq_true, beq_iff_eq, decide_eq_true_eq] at space
      omega
    · rfl

/-- The keywords of a query have no white space in them. -/
theorem visible_keywords : ∀ keyword ∈ [selectWord, distinctWord, fromWord], ∀ k ∈ keyword, isSpace k = false := by
  have checked : ([selectWord, distinctWord, fromWord].all fun keyword => keyword.all fun k => !isSpace k) = true := by
    decide
  intro keyword known k mem
  simpa using List.all_eq_true.1 (List.all_eq_true.1 checked keyword known) k mem

theorem IsKeyword.visible {keyword word : List Char} (isKeyword : IsKeyword keyword word)
    (known : keyword ∈ [selectWord, distinctWord, fromWord]) : ∀ c ∈ word, isSpace c = false := by
  intro c mem
  cases space : isSpace c with
  | false => rfl
  | true =>
    have folded : foldCase c ∈ keyword := isKeyword ▸ List.mem_map_of_mem mem
    rw [foldCase_of_isSpace space] at folded
    rw [← space]
    exact visible_keywords keyword known c folded

theorem afterKeyword?_eq_some_iff {keyword text rest : List Char} :
    afterKeyword? keyword text = some rest ↔ ∃ word, text = word ++ rest ∧ IsKeyword keyword word := by
  unfold IsKeyword
  induction keyword generalizing text with
  | nil => simp [afterKeyword?]
  | cons k keyword ih =>
    cases text with
    | nil => simp [afterKeyword?, List.map_eq_cons_iff]
    | cons c text =>
      rw [afterKeyword?]
      split
      · rename_i folded
        rw [ih]
        constructor
        · rintro ⟨word, rfl, same⟩
          exact ⟨c :: word, rfl, by rw [List.map_cons, folded, same]⟩
        · rintro ⟨word, same, isKeyword⟩
          obtain ⟨d, word, rfl, -, others⟩ := List.map_eq_cons_iff.1 isKeyword
          rw [List.cons_append, List.cons.injEq] at same
          exact ⟨word, same.2, others⟩
      · rename_i other
        constructor
        · intro none
          cases none
        · rintro ⟨word, same, isKeyword⟩
          obtain ⟨d, word, rfl, first, -⟩ := List.map_eq_cons_iff.1 isKeyword
          rw [List.cons_append, List.cons.injEq] at same
          exact absurd (same.1 ▸ first) other

theorem afterKeyword?_append {keyword word : List Char} (isKeyword : IsKeyword keyword word) (rest : List Char) :
    afterKeyword? keyword (word ++ rest) = some rest :=
  afterKeyword?_eq_some_iff.2 ⟨word, rfl, isKeyword⟩

theorem beginsWithWord_iff {keyword text : List Char} :
    BeginsWithWord keyword text ↔ (afterKeyword? keyword text).any wordEnds = true := by
  rw [Option.any_eq_true]
  constructor
  · rintro ⟨word, rest, split, isKeyword, ends⟩
    exact ⟨rest, afterKeyword?_eq_some_iff.2 ⟨word, split, isKeyword⟩, ends⟩
  · rintro ⟨rest, found, ends⟩
    obtain ⟨word, split, isKeyword⟩ := afterKeyword?_eq_some_iff.1 found
    exact ⟨word, rest, split, isKeyword, ends⟩

instance (keyword text : List Char) : Decidable (BeginsWithWord keyword text) :=
  decidable_of_iff _ beginsWithWord_iff.symm

/-- A text that white space sets off from what stands before it, if there is any of it. -/
def Detached (text : List Char) : Prop :=
  ∀ c ∈ text.head?, isSpace c = true

theorem IsGap.detached {gap : List Char} (isGap : IsGap gap) (rest : List Char) : Detached (gap ++ rest) := by
  intro c first
  cases gap with
  | nil => exact absurd rfl isGap.nonempty
  | cons d gap =>
    cases first
    exact List.all_eq_true.1 isGap.blank c List.mem_cons_self

/-- A visible word at the start of two texts, the second of them detached, is at the start of the first. -/
theorem exists_of_append_eq {word rest text tail : List Char} (visible : ∀ c ∈ word, isSpace c = false)
    (detached : Detached tail) (same : word ++ rest = text ++ tail) :
    ∃ after, text = word ++ after ∧ rest = after ++ tail := by
  rcases List.append_eq_append_iff.1 same with ⟨after, left, right⟩ | ⟨beyond, left, right⟩
  · exact ⟨after, left, right⟩
  · cases beyond with
    | nil => exact ⟨[], by simpa using left.symm, by simpa using right.symm⟩
    | cons c beyond =>
      -- The word would reach into the second text and have its white space.
      have space := detached c (by rw [right]; rfl)
      have text := visible c (by rw [left]; simp)
      rw [space] at text
      cases text

/-- The white space characters, by number. -/
def spaces : List Nat :=
  [0x20, 0x09, 0x0a, 0x0b, 0x0c, 0x0d, 0x85, 0xa0, 0x1680, 0x2000, 0x2001, 0x2002, 0x2003, 0x2004, 0x2005, 0x2006,
    0x2007, 0x2008, 0x2009, 0x200a, 0x2028, 0x2029, 0x202f, 0x205f, 0x3000]

theorem isWordChar_of_isSpace {c : Char} (space : isSpace c = true) : Text.isWordChar c = false := by
  have known : ∀ n ∈ spaces, Text.isWordChar (Char.ofNat n) = false := by decide +kernel
  have listed : c.toNat ∈ spaces := by
    simp only [isSpace, Bool.or_eq_true, Bool.and_eq_true, beq_iff_eq, decide_eq_true_eq] at space
    simp only [spaces, List.mem_cons, List.not_mem_nil, or_false]
    omega
  rw [← Char.ofNat_toNat c]
  exact known c.toNat listed

theorem wordEnds_append_iff {rest tail : List Char} (detached : Detached tail) :
    wordEnds (rest ++ tail) = wordEnds rest := by
  cases rest with
  | cons c rest => rfl
  | nil =>
    cases tail with
    | nil => rfl
    | cons c tail => simp [wordEnds, isWordChar_of_isSpace (detached c rfl)]

/-! ## White space -/

theorem trimStart_append {gap text : List Char} (blank : isBlank gap = true) :
    Text.trimStart (gap ++ text) = Text.trimStart text := by
  unfold Text.trimStart
  rw [List.dropWhile_append_of_pos fun c mem => List.all_eq_true.1 blank c mem]

theorem afterSpace?_append {gap text : List Char} (isGap : IsGap gap)
    (visible : ∃ c, text.head? = some c ∧ isSpace c = false) : afterSpace? (gap ++ text) = some text := by
  obtain ⟨c, first, seen⟩ := visible
  cases gap with
  | nil => exact absurd rfl isGap.nonempty
  | cons d gap =>
    obtain ⟨here, later⟩ := Bool.and_eq_true_iff.1 (List.all_cons.symm.trans isGap.blank)
    rw [List.cons_append, afterSpace?, if_pos here, trimStart_append later, Text.trimStart_of_head? first seen]

theorem IsKeyword.head? {keyword word : List Char} (isKeyword : IsKeyword keyword word)
    (known : keyword ∈ [selectWord, distinctWord, fromWord]) (rest : List Char) :
    ∃ c, (word ++ rest).head? = some c ∧ isSpace c = false := by
  have visible := isKeyword.visible known
  cases word with
  | nil =>
    simp only [IsKeyword, List.map_nil] at isKeyword
    subst isKeyword
    exact absurd known (by decide)
  | cons c word => exact ⟨c, rfl, visible c List.mem_cons_self⟩

/-! ## Distinct rows -/

theorem selectsDistinct_of_select {selectKeyword gap text : List Char}
    (isSelect : IsKeyword selectWord selectKeyword) (isGap : IsGap gap)
    (visible : ∃ c, text.head? = some c ∧ isSpace c = false) :
    selectsDistinct (selectKeyword ++ (gap ++ text)) = true ↔ BeginsWithWord distinctWord text := by
  obtain ⟨c, first, seen⟩ := isSelect.head? (by simp) (gap ++ text)
  unfold selectsDistinct afterSelect?
  rw [Text.trimStart_of_head? first seen, afterKeyword?_append isSelect, Option.bind_some,
    afterSpace?_append isGap visible, Option.bind_some, beginsWithWord_iff]
  cases afterKeyword? distinctWord text <;> simp

/-- White space after a text does not make it begin with a word. -/
theorem beginsWithWord_append_iff {keyword text tail : List Char}
    (known : keyword ∈ [selectWord, distinctWord, fromWord]) (detached : Detached tail) :
    BeginsWithWord keyword (text ++ tail) ↔ BeginsWithWord keyword text := by
  constructor
  · rintro ⟨word, rest, split, isKeyword, ends⟩
    obtain ⟨after, left, rfl⟩ := exists_of_append_eq (isKeyword.visible known) detached split.symm
    exact ⟨word, after, left, isKeyword, (wordEnds_append_iff detached).symm.trans ends⟩
  · rintro ⟨word, rest, rfl, isKeyword, ends⟩
    exact ⟨word, rest ++ tail, List.append_assoc _ _ _, isKeyword, (wordEnds_append_iff detached).trans ends⟩

/-- A query that selects distinct rows is still found to when something detached follows. -/
theorem DistinctQuery.selectsDistinct_append (query : DistinctQuery) {tail : List Char} (detached : Detached tail) :
    selectsDistinct (query.text ++ tail) = true := by
  unfold text
  rw [List.append_assoc, List.append_assoc, List.append_assoc, selectsDistinct_of_select query.isSelect query.isGap
    (query.isDistinct.head? (by simp) _)]
  exact ⟨_, _, rfl, query.isDistinct, (wordEnds_append_iff detached).trans query.ends⟩

/-! ## The end of a list -/

theorem afterFromHere?_eq_some_iff {text target : List Char} :
    afterFromHere? text = some target ↔
      ∃ word c, text = word ++ c :: target ∧ IsKeyword fromWord word ∧ isSpace c = true := by
  unfold afterFromHere?
  cases found : afterKeyword? fromWord text with
  | none =>
    constructor
    · intro never
      cases never
    · rintro ⟨word, c, rfl, isFrom, -⟩
      rw [afterKeyword?_append isFrom] at found
      cases found
  | some rest =>
    obtain ⟨word, rfl, isFrom⟩ := afterKeyword?_eq_some_iff.1 found
    cases rest with
    | nil =>
      constructor
      · intro never
        cases never
      · rintro ⟨word', c, split, isFrom', -⟩
        rw [split, afterKeyword?_append isFrom'] at found
        cases found
    | cons d rest =>
      simp only [Option.ite_none_right_eq_some, Option.some.injEq]
      constructor
      · rintro ⟨space, rfl⟩
        exact ⟨word, d, rfl, isFrom, space⟩
      · rintro ⟨word', c, split, isFrom', space⟩
        rw [split, afterKeyword?_append isFrom'] at found
        cases found
        exact ⟨space, rfl⟩

theorem words_cons (c : Char) (text : List Char) :
    words (c :: text) = if isSpace c then [] :: words text else Text.extendFirst c (words text) :=
  rfl

theorem uncut_of_visible {word : List Char} (visible : ∀ c ∈ word, isSpace c = false) (after : List Char) :
    Text.Uncut (fun c _ => isSpace c) after word := by
  induction word with
  | nil => trivial
  | cons c word ih =>
    exact ⟨visible c List.mem_cons_self, ih fun d mem => visible d (List.mem_cons_of_mem _ mem)⟩

/-- A visible text that white space or nothing follows is the first word. -/
theorem head?_words {word rest : List Char} (visible : ∀ c ∈ word, isSpace c = false) (detached : Detached rest) :
    (words (word ++ rest)).head? = some word := by
  cases rest with
  | nil =>
    unfold words
    rw [List.append_nil, Text.splitWhere_of_uncut (uncut_of_visible visible [])]
    rfl
  | cons c rest =>
    have space := detached c rfl
    unfold words
    rw [Text.splitWhere_append (uncut_of_visible visible _) space]
    rfl

/-- No `FROM` begins with white space. -/
theorem afterFromHere?_of_isSpace {c : Char} (space : isSpace c = true) (rest : List Char) :
    afterFromHere? (c :: rest) = none := by
  cases found : afterFromHere? (c :: rest) with
  | none => rfl
  | some target =>
    obtain ⟨word, d, split, isFrom, -⟩ := afterFromHere?_eq_some_iff.1 found
    obtain ⟨e, first, seen⟩ := isFrom.head? (by simp) (d :: target)
    rw [← split] at first
    cases first
    rw [space] at seen
    cases seen

theorem afterFrom?_gap {gap : List Char} (isGap : IsGap gap) (spaced : Bool) (rest : List Char) :
    afterFrom? spaced (gap ++ rest) = afterFrom? true rest := by
  obtain ⟨nonempty, blank⟩ := isGap
  induction gap generalizing spaced with
  | nil => exact absurd rfl nonempty
  | cons c gap ih =>
    obtain ⟨here, later⟩ := Bool.and_eq_true_iff.1 (List.all_cons.symm.trans blank)
    rw [List.cons_append, afterFrom?, afterFromHere?_of_isSpace here, ite_self, here]
    cases gap with
    | nil => rfl
    | cons d gap => exact ih true (List.cons_ne_nil d gap) later

/-- The scan passes over a text without the word `FROM` and the white space after it. Whether white space stands
before the text decides whether its first word counts. -/
theorem afterFrom?_append {items gap : List Char} (isGap : IsGap gap) (rest : List Char) {spaced : Bool}
    (first : spaced = true → ∀ word ∈ (words items).head?, ¬ IsKeyword fromWord word)
    (others : ∀ word ∈ (words items).tail, ¬ IsKeyword fromWord word) :
    afterFrom? spaced (items ++ (gap ++ rest)) = afterFrom? true rest := by
  induction items generalizing spaced with
  | nil => exact afterFrom?_gap isGap spaced rest
  | cons c items ih =>
    have none : (if spaced then afterFromHere? (c :: (items ++ (gap ++ rest))) else none) = none := by
      cases spaced with
      | false => rfl
      | true =>
        rw [if_pos rfl]
        cases found : afterFromHere? (c :: (items ++ (gap ++ rest))) with
        | none => rfl
        | some target =>
          -- The keyword would be the first word of the text.
          obtain ⟨word, d, split, isFrom, space⟩ := afterFromHere?_eq_some_iff.1 found
          have visible := isFrom.visible (by simp)
          have same : word ++ d :: _ = (c :: items) ++ _ := split.symm
          obtain ⟨after, left, right⟩ := exists_of_append_eq visible (isGap.detached rest) same
          have detached : Detached after := by
            intro e mem
            cases after with
            | nil => cases mem
            | cons f after =>
              cases mem
              cases right
              exact space
          have head := head?_words visible detached
          rw [← left] at head
          exact absurd isFrom (first rfl word head)
    rw [List.cons_append, afterFrom?, none]
    rw [words_cons] at others
    refine ih ?_ ?_
    · intro space word mem
      rw [if_pos space, List.tail_cons] at others
      exact others word (List.mem_of_head? mem)
    · intro word mem
      split at others
      · exact others word (List.mem_of_mem_tail mem)
      · cases pieces : words items with
        | nil => exact absurd pieces (Text.splitWhere_ne_nil _ _)
        | cons piece pieces' =>
          rw [pieces] at others mem
          exact others word mem

/-! ## The select list -/

theorem afterList?_gap {gap text target : List Char} (blank : isBlank gap = true)
    (found : afterList? text = some target) : afterList? (gap ++ text) = some target := by
  induction gap with
  | nil => exact found
  | cons c gap ih =>
    obtain ⟨here, later⟩ := Bool.and_eq_true_iff.1 (List.all_cons.symm.trans blank)
    rw [List.cons_append, afterList?, if_pos here, ih later]

namespace ListQuery

variable (query : ListQuery)

theorem text_append (tail : List Char) :
    query.text ++ tail = query.selectKeyword ++ (query.gap ++ (query.items ++ query.ending (query.target ++ tail))) := by
  simp [text, ending]

theorem afterFrom?_eq (target : List Char) :
    afterFrom? true (query.fromKeyword ++ query.space :: target) = some target := by
  have found : afterFromHere? (query.fromKeyword ++ query.space :: target) = some target :=
    afterFromHere?_eq_some_iff.2 ⟨_, _, rfl, query.isFrom, query.spaced⟩
  generalize query.fromKeyword ++ query.space :: target = text at found
  cases text with
  | nil => cases found
  | cons c text => rw [afterFrom?, if_pos rfl, found]

/-- The list is read to its end. -/
theorem afterList?_items (target : List Char) : afterList? (query.items ++ query.ending target) = some target := by
  obtain ⟨c, first, seen⟩ := query.visible
  have noFrom := query.noFrom
  cases listed : query.items with
  | nil =>
    rw [listed] at first
    cases first
  | cons d items =>
    rw [listed] at first noFrom
    cases first
    have dark : ¬ isSpace c = true := by simp [seen]
    rw [List.cons_append, afterList?, if_neg dark]
    unfold ending
    rw [afterFrom?_append query.isGapAfter, query.afterFrom?_eq]
    · intro impossible
      cases impossible
    · -- Every word but the first of the list's remainder is a word of the list.
      intro word mem
      rw [words_cons, if_neg dark] at noFrom
      cases pieces : words items with
      | nil => exact absurd pieces (Text.splitWhere_ne_nil _ _)
      | cons piece pieces' =>
        rw [pieces] at noFrom mem
        exact noFrom word (List.mem_cons_of_mem _ mem)

/-- What is appended to a query that selects a list stays behind the cut. -/
theorem target?_append (tail : List Char) : target? (query.text ++ tail) = some (query.target ++ tail) := by
  have list := query.afterList?_items (query.target ++ tail)
  obtain ⟨nonempty, blank⟩ := query.isGap
  rw [query.text_append]
  generalize query.gap = gap at nonempty blank
  obtain ⟨c, first, seen⟩ := query.isSelect.head? (by simp)
    (gap ++ (query.items ++ query.ending (query.target ++ tail)))
  unfold target? afterSelect?
  rw [Text.trimStart_of_head? first seen, afterKeyword?_append query.isSelect]
  cases gap with
  | nil => exact absurd rfl nonempty
  | cons d gap =>
    obtain ⟨here, later⟩ := Bool.and_eq_true_iff.1 (List.all_cons.symm.trans blank)
    simp only [List.cons_append, if_pos here]
    exact afterList?_gap later list

theorem selectsDistinct_append (tail : List Char) : selectsDistinct (query.text ++ tail) = false := by
  have visible : ∃ c, (query.items ++ query.ending (query.target ++ tail)).head? = some c ∧ isSpace c = false := by
    obtain ⟨c, first, seen⟩ := query.visible
    exact ⟨c, by rw [List.head?_append, first, Option.some_or], seen⟩
  have detached : Detached (query.ending (query.target ++ tail)) := query.isGapAfter.detached _
  rw [query.text_append, Bool.eq_false_iff, ne_eq, selectsDistinct_of_select query.isSelect query.isGap visible,
    beginsWithWord_append_iff (by simp) detached]
  exact query.notDistinct

end ListQuery

/-! ## Other queries -/

/-- A text that does not begin with `SELECT` does not begin with it when something detached follows. -/
theorem afterSelect?_append_of_not_select {text tail : List Char} (visible : ∃ c, text.head? = some c ∧ isSpace c = false)
    (other : ¬ BeginsWith selectWord text) (detached : Detached tail) : afterSelect? (text ++ tail) = none := by
  obtain ⟨c, first, seen⟩ := visible
  have head : (text ++ tail).head? = some c := by rw [List.head?_append, first, Option.some_or]
  unfold afterSelect?
  rw [Text.trimStart_of_head? head seen]
  cases found : afterKeyword? selectWord (text ++ tail) with
  | none => rfl
  | some rest =>
    obtain ⟨word, split, isSelect⟩ := afterKeyword?_eq_some_iff.1 found
    obtain ⟨after, left, -⟩ := exists_of_append_eq (isSelect.visible (by simp)) detached split.symm
    exact absurd ⟨word, after, left, isSelect⟩ other

end QueryFilter.CountQuery
