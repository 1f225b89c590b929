/-
Lists with parentheses and quotes.

A select list may hold a `FROM` of its own, in a function call, a subquery or a literal. Such a list is closed: its
parentheses are balanced and its quotes closed, and no `FROM` between white space stands outside of them
(`ClosedQuery`). The scan for the end of a list does not look at what is open, so it ends a list at its first `FROM`
between white space. A query with a closed list is therefore cut at the end of the list, or counted as a whole,
exactly when no such `FROM` stands in the list; otherwise it is cut inside the list, where something is open
(`ClosedQuery.cut_at_end_iff`).

The words of a text are what white space sets off in it (`exists_of_mem_words`), so the list up to the white space
before its first `FROM` has no such word. The query is one that selects this shorter list, and it is cut as those
are (`ClosedQuery.exists_listQuery_of_first`).
-/
import Mathlib.Data.Nat.Find
import Mathlib.Tactic.MkIffOfInductiveProp
import QueryFilter.Proofs.Sql.Counted
import QueryFilter.Proofs.Sql.Neutral

namespace QueryFilter.CountQuery

open Text (isSpace isBlank)

/-! ## What is open -/

/-- What is open after a text: so many parentheses, and a quote if the text ends inside one. -/
structure Nesting where
  depth : Nat
  quote : Option Char
deriving DecidableEq

namespace Nesting

def outside : Nesting := ⟨0, none⟩

/-- What is open after one more character. Parentheses in quotes are text, and none closes that is not open. -/
def next (nesting : Nesting) (c : Char) : Option Nesting :=
  let quote := openQuote nesting.quote [c]
  if nesting.quote.isSome then some ⟨nesting.depth, quote⟩
  else if c = '(' then some ⟨nesting.depth + 1, quote⟩
  else if c = ')' then
    match nesting.depth with
    | 0 => none
    | depth + 1 => some ⟨depth, quote⟩
  else some ⟨nesting.depth, quote⟩

/-- What is open after a text. -/
def after (nesting : Nesting) (text : List Char) : Option Nesting :=
  text.foldlM next nesting

theorem after_append (nesting : Nesting) (text rest : List Char) :
    nesting.after (text ++ rest) = (nesting.after text).bind (·.after rest) :=
  List.foldlM_append

end Nesting

/-! ## What white space sets off -/

theorem detached_cons {c : Char} (space : isSpace c = true) (rest : List Char) : Detached (c :: rest) := by
  intro d first
  cases first
  exact space

theorem Detached.append {text tail : List Char} (detached : Detached text) (detached' : Detached tail) :
    Detached (text ++ tail) := by
  cases text with
  | nil => exact detached'
  | cons c text => exact detached

theorem Detached.exists_cons {text : List Char} (detached : Detached text) (nonempty : text ≠ []) :
    ∃ c rest, text = c :: rest ∧ isSpace c = true := by
  cases text with
  | nil => exact absurd rfl nonempty
  | cons c rest => exact ⟨c, rest, rfl, detached c rfl⟩

/-- What begins visibly does so before the white space behind it. -/
theorem exists_head?_of_append {text tail : List Char}
    (visible : ∃ c, (text ++ tail).head? = some c ∧ isSpace c = false) (detached : Detached tail) :
    ∃ c, text.head? = some c ∧ isSpace c = false := by
  obtain ⟨c, first, seen⟩ := visible
  cases text with
  | nil =>
    have space := detached c first
    rw [seen] at space
    cases space
  | cons d text => exact ⟨c, first, seen⟩

/-- A text that sets off what stands behind it: it ends in white space, if there is any of it. -/
def SetsOff (text : List Char) : Prop :=
  ∀ c ∈ text.getLast?, isSpace c = true

theorem setsOff_nil : SetsOff [] := by
  intro c last
  cases last

theorem SetsOff.cons {text : List Char} (setsOff : SetsOff text) (nonempty : text ≠ []) (c : Char) :
    SetsOff (c :: text) := by
  cases text with
  | nil => exact absurd rfl nonempty
  | cons d text =>
    intro e last
    rw [List.getLast?_cons_cons] at last
    exact setsOff e last

theorem exists_of_head?_words {text word : List Char} (first : (words text).head? = some word) :
    ∃ after, text = word ++ after ∧ Detached after := by
  induction text generalizing word with
  | nil =>
    cases first
    exact ⟨[], rfl, fun c mem => by cases mem⟩
  | cons c text ih =>
    rw [words_cons] at first
    split at first
    · rename_i space
      cases first
      exact ⟨c :: text, rfl, detached_cons space text⟩
    · cases pieces : words text with
      | nil => exact absurd pieces (Text.splitWhere_ne_nil _ _)
      | cons piece pieces' =>
        rw [pieces] at first ih
        cases first
        obtain ⟨after, rfl, detached⟩ := ih rfl
        exact ⟨after, rfl, detached⟩

theorem exists_of_mem_tail_words {text word : List Char} (mem : word ∈ (words text).tail) :
    ∃ before after, text = before ++ (word ++ after) ∧ before ≠ [] ∧ SetsOff before ∧ Detached after := by
  induction text with
  | nil => cases mem
  | cons c text ih =>
    -- A later word of the rest is one of the text.
    have later (mem : word ∈ (words text).tail) :
        ∃ before after, c :: text = before ++ (word ++ after) ∧ before ≠ [] ∧ SetsOff before ∧ Detached after := by
      obtain ⟨before, after, rfl, nonempty, setsOff, detached⟩ := ih mem
      exact ⟨c :: before, after, rfl, List.cons_ne_nil c before, setsOff.cons nonempty c, detached⟩
    rw [words_cons] at mem
    cases pieces : words text with
    | nil => exact absurd pieces (Text.splitWhere_ne_nil _ _)
    | cons piece pieces' =>
      rw [pieces] at mem later
      split at mem
      · rename_i space
        rcases List.mem_cons.1 mem with rfl | mem
        · obtain ⟨after, rfl, detached⟩ := exists_of_head?_words (congrArg List.head? pieces)
          refine ⟨[c], after, rfl, List.cons_ne_nil c [], fun d last => ?_, detached⟩
          cases last
          exact space
        · exact later mem
      · exact later mem

/-- Every word of a text stands in it, set off by white space where the text does not begin or end. -/
theorem exists_of_mem_words {text word : List Char} (mem : word ∈ words text) :
    ∃ before after, text = before ++ (word ++ after) ∧ SetsOff before ∧ Detached after := by
  cases pieces : words text with
  | nil => exact absurd pieces (Text.splitWhere_ne_nil _ _)
  | cons piece pieces' =>
    rw [pieces] at mem
    rcases List.mem_cons.1 mem with rfl | later
    · obtain ⟨after, split, detached⟩ := exists_of_head?_words (congrArg List.head? pieces)
      exact ⟨[], after, split, setsOff_nil, detached⟩
    · have mem : word ∈ (words text).tail := by rwa [pieces]
      obtain ⟨before, after, split, -, setsOff, detached⟩ := exists_of_mem_tail_words mem
      exact ⟨before, after, split, setsOff, detached⟩

/-! ## Places of `FROM` -/

/-- The word `FROM` stands at a place of a text: white space or the start of the text before it, white space or the
end of the text behind it. -/
@[mk_iff]
structure FromAt (text : List Char) (n : Nat) : Prop where
  isFrom : IsKeyword fromWord ((text.drop n).take fromWord.length)
  setsOff : SetsOff (text.take n)
  detached : Detached (text.drop (n + fromWord.length))

-- Decided as a test of the one character: a statement about all characters would be tried on every one.
instance (text : List Char) : Decidable (SetsOff text) :=
  decidable_of_iff (text.getLast?.all isSpace = true) (Option.all_eq_true _ _)

instance (text : List Char) : Decidable (Detached text) :=
  decidable_of_iff (text.head?.all isSpace = true) (Option.all_eq_true _ _)

instance (text : List Char) (n : Nat) : Decidable (FromAt text n) :=
  decidable_of_iff _ (fromAt_iff text n).symm

/-- A text taken apart at a place and behind as many characters as `FROM` has. -/
theorem parts_append (text : List Char) (n : Nat) :
    text.take n ++ ((text.drop n).take fromWord.length ++ text.drop (n + fromWord.length)) = text := by
  rw [← List.drop_drop, List.take_append_drop, List.take_append_drop]

namespace FromAt

theorem of_append {before word after : List Char} (isFrom : IsKeyword fromWord word) (setsOff : SetsOff before)
    (detached : Detached after) : FromAt (before ++ (word ++ after)) before.length := by
  have length : fromWord.length = word.length := by rw [← isFrom, List.length_map]
  refine ⟨?_, ?_, ?_⟩
  · rwa [List.drop_left, length, List.take_left]
  · rwa [List.take_left]
  · rwa [← List.drop_drop, List.drop_left, length, List.drop_left]

variable {text : List Char} {n : Nat}

theorem le_length (found : FromAt text n) : n + fromWord.length ≤ text.length := by
  have length := congrArg List.length found.isFrom
  rw [List.length_map, List.length_take, List.length_drop] at length
  have some : 0 < fromWord.length := by decide
  omega

theorem lt_length (found : FromAt text n) : n < text.length := by
  have within := found.le_length
  have some : 0 < fromWord.length := by decide
  omega

/-- What holds at every place of `FROM` can be checked up to the end of the text. -/
theorem forall_of_lt {P : Nat → Prop} (checked : ∀ n < text.length, FromAt text n → P n) :
    ∀ n, FromAt text n → P n :=
  fun n found => checked n found.lt_length found

theorem length_take (found : FromAt text n) : (text.take n).length = n :=
  List.length_take_of_le (Nat.le_of_add_right_le found.le_length)

/-- White space behind a text leaves the places in it what they are. -/
theorem append (found : FromAt text n) {tail : List Char} (detached : Detached tail) : FromAt (text ++ tail) n := by
  have whole := of_append found.isFrom found.setsOff (found.detached.append detached)
  rw [found.length_take, ← List.append_assoc, ← List.append_assoc, List.append_assoc (text.take n),
    parts_append] at whole
  exact whole

/-- Inside a text `FROM` comes right after a white space character. -/
theorem exists_split (found : FromAt text n) (inside : n ≠ 0) :
    ∃ before c word after, text = before ++ c :: (word ++ after) ∧ n = before.length + 1
      ∧ text.drop (n + fromWord.length) = after ∧ isSpace c = true ∧ IsKeyword fromWord word ∧ Detached after := by
  have length := found.length_take
  rcases List.eq_nil_or_concat (text.take n) with nothing | ⟨before, c, split⟩
  · rw [nothing] at length
    exact absurd length.symm inside
  · rw [List.concat_eq_append] at split
    have space : isSpace c = true := found.setsOff c (by rw [split, List.getLast?_concat]; rfl)
    rw [split, List.length_append] at length
    have whole := parts_append text n
    rw [split, List.append_assoc] at whole
    exact ⟨before, c, (text.drop n).take fromWord.length, text.drop (n + fromWord.length), whole.symm, length.symm, rfl,
      space, found.isFrom, found.detached⟩

end FromAt

/-- What stands before the first `FROM`, and before the white space in front of that, has no place of it. -/
theorem not_fromAt_before {before tail : List Char} (detached : Detached tail)
    (first : ∀ m ≤ before.length, ¬ FromAt (before ++ tail) m) : ∀ m, ¬ FromAt before m := by
  intro m found
  exact first m (Nat.le_of_lt found.lt_length) (found.append detached)

/-- A text without a place of `FROM` has no word `FROM`. -/
theorem not_isKeyword_of_mem_words {text : List Char} (absent : ∀ n, ¬ FromAt text n) :
    ∀ word ∈ words text, ¬ IsKeyword fromWord word := by
  intro word mem isFrom
  obtain ⟨before, after, rfl, setsOff, detached⟩ := exists_of_mem_words mem
  exact absent before.length (.of_append isFrom setsOff detached)

/-! ## The counting form -/

theorem afterSelect?_lead {lead : List Char} (isLead : isBlank lead = true) (text : List Char) :
    afterSelect? (lead ++ text) = afterSelect? text := by
  unfold afterSelect?
  rw [trimStart_append isLead]

/-- A query that selects a list is cut after it, whatever white space stands before the query. -/
theorem ListQuery.ofQuery_eq (parts : ListQuery) {lead : List Char} (isLead : isBlank lead = true) :
    ofQuery (String.ofList (lead ++ parts.text)) = "SELECT COUNT(*) FROM " ++ String.ofList parts.target := by
  have cut := parts.target?_append []
  have plain := parts.selectsDistinct_append []
  rw [List.append_nil] at cut plain
  unfold target? at cut
  unfold selectsDistinct at plain
  unfold ofQuery selectsDistinct target?
  rw [String.toList_ofList, afterSelect?_lead isLead, plain, cut, List.append_nil]
  rfl

/-- How many characters of a text are not white space. -/
def visibleLength (text : List Char) : Nat :=
  (text.filter fun c => !isSpace c).length

theorem visibleLength_append (text rest : List Char) :
    visibleLength (text ++ rest) = visibleLength text + visibleLength rest := by
  unfold visibleLength
  rw [List.filter_append, List.length_append]

theorem visibleLength_trim (text : List Char) : visibleLength (Text.trim text) = visibleLength text := by
  unfold visibleLength
  rw [Text.filter_trim fun c visible => by simpa using visible]

theorem visibleLength_le {text text' : List Char} (part : text.Sublist text') :
    visibleLength text ≤ visibleLength text' :=
  (part.filter _).length_le

/-- A subquery has more to see than any part of its query. -/
theorem wrap_ne {sql : String} {target : List Char} (part : target.Sublist sql.toList) :
    wrap sql ≠ "SELECT COUNT(*) FROM " ++ String.ofList target := by
  have opening : "SELECT COUNT(*) FROM (" = "SELECT COUNT(*) FROM " ++ "(" := by decide +kernel
  intro same
  unfold wrap at same
  rw [opening, String.append_assoc, String.append_assoc, String.append_right_inj] at same
  have length := congrArg (fun s => visibleLength s.toList) same
  rw [String.toList_append, String.toList_append, Text.toList_strip, @String.toList_ofList target,
    visibleLength_append, visibleLength_append, visibleLength_trim] at length
  have shorter := visibleLength_le part
  have parenthesis : visibleLength "(".toList = 1 := by decide
  omega

/-! ## Queries with a closed list -/

/-- The parts of a query that selects a closed list: white space, the keyword `SELECT`, a gap, the list, another gap,
the keyword `FROM`, one white space character, and what is selected from. The list begins visibly, but not with the
word `DISTINCT`. It closes what it opens, and something is open at every place where `FROM` stands in it. -/
structure ClosedQuery where
  lead : List Char
  selectKeyword : List Char
  gap : List Char
  items : List Char
  gapAfter : List Char
  fromKeyword : List Char
  space : Char
  target : List Char
  isLead : isBlank lead = true
  isSelect : IsKeyword selectWord selectKeyword
  isGap : IsGap gap
  visible : ∃ c, items.head? = some c ∧ isSpace c = false
  notDistinct : ¬ BeginsWithWord distinctWord items
  closed : Nesting.outside.after items = some .outside
  nested : ∀ n, FromAt items n → Nesting.outside.after (items.take n) ≠ some .outside
  isGapAfter : IsGap gapAfter
  isFrom : IsKeyword fromWord fromKeyword
  spaced : isSpace space = true

namespace ClosedQuery

variable (query : ClosedQuery)

/-- The end of the list: white space, `FROM`, and what is selected from. -/
def ending : List Char :=
  query.gapAfter ++ (query.fromKeyword ++ query.space :: query.target)

/-- The list to its end. -/
def listed : List Char :=
  query.items ++ query.ending

def text : List Char :=
  query.selectKeyword ++ query.gap ++ query.listed

def sql : String :=
  String.ofList (query.lead ++ query.text)

theorem ending_ne_nil : query.ending ≠ [] := by
  unfold ending
  simp

/-- A list in which `FROM` has no place ends where the query says. -/
theorem exists_listQuery_of_absent (absent : ∀ n, ¬ FromAt query.items n) :
    ∃ parts : ListQuery, parts.text = query.text ∧ parts.target = query.target :=
  ⟨{ query with noFrom := not_isKeyword_of_mem_words absent }, rfl, rfl⟩

/-- A list in which `FROM` has a place ends at the first one. -/
theorem exists_listQuery_of_first {n : Nat} (found : FromAt query.items n) (first : ∀ m < n, ¬ FromAt query.items m) :
    ∃ parts : ListQuery, parts.text = query.text ∧ parts.target = query.listed.drop (n + fromWord.length + 1) := by
  have inside : n ≠ 0 := by
    rintro rfl
    exact query.nested 0 found rfl
  have within := found.le_length
  obtain ⟨before, c, word, after, split, rfl, behind, space, isFrom, detached⟩ := found.exists_split inside
  have behindList : Detached (c :: (word ++ after)) := detached_cons space _
  have visible := query.visible
  have notDistinct := query.notDistinct
  rw [split] at visible notDistinct first
  rw [beginsWithWord_append_iff (by simp) behindList] at notDistinct
  have absent := not_fromAt_before behindList fun m le => first m (Nat.lt_succ_of_le le)
  -- White space is behind the keyword: the list goes on with it, or comes to its end.
  have later : Detached (after ++ query.ending) := detached.append (query.isGapAfter.detached _)
  obtain ⟨s, target, rest, spaced⟩ := later.exists_cons (List.append_ne_nil_of_right_ne_nil _ query.ending_ne_nil)
  refine ⟨{ query with
    items := before
    gapAfter := [c]
    fromKeyword := word
    space := s
    target := target
    visible := exists_head?_of_append visible behindList
    notDistinct := notDistinct
    noFrom := not_isKeyword_of_mem_words absent
    isGapAfter := ⟨List.cons_ne_nil c [], by simp [isBlank, space]⟩
    isFrom := isFrom
    spaced := spaced }, ?_, ?_⟩
  · simp only [ListQuery.text, ListQuery.ending, text, listed, split, ← rest, List.append_assoc, List.cons_append,
      List.nil_append]
  · rw [listed, ← List.drop_drop, List.drop_append_of_le_length within, behind, rest]
    rfl

theorem ofQuery_of_absent (absent : ∀ n, ¬ FromAt query.items n) :
    ofQuery query.sql = "SELECT COUNT(*) FROM " ++ String.ofList query.target := by
  obtain ⟨parts, text, target⟩ := query.exists_listQuery_of_absent absent
  unfold sql
  rw [← text, ← target, parts.ofQuery_eq query.isLead]

theorem ofQuery_of_first {n : Nat} (found : FromAt query.items n) (first : ∀ m < n, ¬ FromAt query.items m) :
    ofQuery query.sql = "SELECT COUNT(*) FROM " ++ String.ofList (query.listed.drop (n + fromWord.length + 1)) := by
  obtain ⟨parts, text, target⟩ := query.exists_listQuery_of_first found first
  unfold sql
  rw [← text, ← target, parts.ofQuery_eq query.isLead]

theorem drop_listed_sublist (n : Nat) : (query.listed.drop n).Sublist query.sql.toList := by
  unfold sql text
  rw [String.toList_ofList, ← List.append_assoc]
  exact (List.drop_sublist n query.listed).trans (List.sublist_append_right _ _)

/-- Behind a `FROM` of the list there is more than what is selected from. -/
theorem drop_listed_ne {n : Nat} (found : FromAt query.items n) :
    query.listed.drop (n + fromWord.length + 1) ≠ query.target := by
  intro same
  have length := congrArg List.length same
  have gap := List.length_pos_iff.2 query.isGapAfter.nonempty
  have within := found.le_length
  simp only [listed, ending, List.length_drop, List.length_append, List.length_cons] at length
  omega

/-- Something is open at every place in the list where `FROM` stands. -/
theorem exists_nesting {n : Nat} (found : FromAt query.items n) :
    ∃ nesting, Nesting.outside.after (query.items.take n) = some nesting ∧ nesting ≠ .outside := by
  have closed := query.closed
  rw [← List.take_append_drop n query.items, Nesting.after_append] at closed
  obtain ⟨nesting, opened, -⟩ := Option.bind_eq_some_iff.1 closed
  refine ⟨nesting, opened, ?_⟩
  rintro rfl
  exact query.nested n found opened

/-- **Counting a closed list.** A query is counted from what it selects its list from, or as a whole, exactly when
`FROM` has no place in the list. Otherwise it is cut at the first of them, where a parenthesis or a quote of the list
is open. -/
theorem cut_at_end_iff (query : ClosedQuery) :
    ((ofQuery query.sql = "SELECT COUNT(*) FROM " ++ String.ofList query.target ∨ ofQuery query.sql = wrap query.sql)
        ↔ ∀ n, ¬ FromAt query.items n)
      ∧ ∀ n, FromAt query.items n → (∀ m < n, ¬ FromAt query.items m) →
        (∃ nesting, Nesting.outside.after (query.items.take n) = some nesting ∧ nesting ≠ .outside)
          ∧ ofQuery query.sql
            = "SELECT COUNT(*) FROM " ++ String.ofList (query.listed.drop (n + fromWord.length + 1)) := by
  refine ⟨⟨fun right => ?_, fun absent => .inl (query.ofQuery_of_absent absent)⟩, fun n found first =>
    ⟨query.exists_nesting found, query.ofQuery_of_first found first⟩⟩
  by_contra placed
  push Not at placed
  -- The first of them would be where the query is cut.
  classical
  have found := Nat.find_spec placed
  have cut := query.ofQuery_of_first found fun m before => Nat.find_min placed before
  rcases right with atEnd | whole
  · rw [cut, String.append_right_inj] at atEnd
    exact query.drop_listed_ne found (String.ofList_injective atEnd)
  · exact wrap_ne (query.drop_listed_sublist _) (whole.symm.trans cut)

end ClosedQuery

end QueryFilter.CountQuery

namespace QueryFilter

namespace Sample

/-- A list that names the keyword in a literal and in an alias, but never with white space around it. -/
def notedOrders : CountQuery.ClosedQuery :=
  { ordersBase with
    lead := " ".toList
    items := "COALESCE(o.note, 'sent (from') AS \"note from\"".toList
    isLead := by decide
    visible := ⟨'C', rfl, by decide⟩
    notDistinct := by decide
    closed := by decide
    nested := CountQuery.FromAt.forall_of_lt (by decide +kernel) }

/-- A list that takes a year from a date. -/
def datedOrders : CountQuery.ClosedQuery :=
  { ordersBase with
    lead := []
    selectKeyword := "SELECT".toList
    gap := " ".toList
    items := "EXTRACT(YEAR FROM o.placed_at), o.id".toList
    gapAfter := " ".toList
    isLead := rfl
    isSelect := by decide
    isGap := ⟨by decide, by decide⟩
    visible := ⟨'E', rfl, by decide⟩
    notDistinct := by decide
    closed := by decide
    nested := CountQuery.FromAt.forall_of_lt (by decide +kernel)
    isGapAfter := ⟨by decide, by decide⟩ }

end Sample

namespace CountQuery.ClosedQuery

open Sample

theorem cut_at_end_iff_notedOrders :
    (∀ n, ¬ FromAt notedOrders.items n)
      ∧ (ofQuery notedOrders.sql = "SELECT COUNT(*) FROM orders o" ∨ ofQuery notedOrders.sql = wrap notedOrders.sql)
      ∧ ofQuery datedOrders.sql = "SELECT COUNT(*) FROM o.placed_at), o.id FROM orders o" := by
  have absent : ∀ n, ¬ FromAt notedOrders.items n := FromAt.forall_of_lt (by decide +kernel)
  have found : FromAt datedOrders.items 13 := by decide +kernel
  have first : ∀ m < 13, ¬ FromAt datedOrders.items m := by decide +kernel
  obtain ⟨-, cut⟩ := (cut_at_end_iff datedOrders).2 13 found first
  exact ⟨absent, (cut_at_end_iff notedOrders).1.2 absent, cut.trans (by decide +kernel)⟩

/-- The rows are counted from the date. -/
theorem cut_inside_list :
    ∃ query : ClosedQuery, query.sql = "SELECT EXTRACT(YEAR FROM o.placed_at), o.id FROM orders o"
      ∧ ofQuery query.sql = "SELECT COUNT(*) FROM o.placed_at), o.id FROM orders o"
      ∧ ofQuery query.sql ≠ "SELECT COUNT(*) FROM " ++ String.ofList query.target
      ∧ ofQuery query.sql ≠ wrap query.sql :=
  ⟨datedOrders, by decide +kernel, by decide +kernel, by decide +kernel, by decide +kernel⟩

end CountQuery.ClosedQuery

end QueryFilter
