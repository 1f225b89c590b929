/-
What LIKE finds for the pattern operators.

A pattern operator binds its value as it is, with wildcards around it, so LIKE reads the value as a pattern. A pattern
comes apart where a closed part of it ends (`Like.append_iff`); a value that leaves no backslash unpaired is therefore
found as whatever is like it, and one that does takes the wildcard after it for a percent sign
(`Operator.searches_pattern`). A value is found as it is written exactly when it has no special character.
-/
import QueryFilter.Proofs.Sql.FreshNames

namespace QueryFilter

/-! ## LIKE -/

/-- The characters that do not stand for themselves in a pattern. -/
def Like.special : List Char :=
  ['%', '_', '\\']

/-- A text is like a pattern: a percent sign stands for any sequence of characters, an underscore for any one
character, a backslash makes the next character stand for itself, and so does every other character. There is no rule
for a backslash with nothing after it. -/
inductive Like : List Char → List Char → Prop where
  | nil : Like [] []
  | sequence (skipped : List Char) {text pattern : List Char} (rest : Like text pattern) :
    Like (skipped ++ text) ('%' :: pattern)
  | one (c : Char) {text pattern : List Char} (rest : Like text pattern) : Like (c :: text) ('_' :: pattern)
  | escaped (c : Char) {text pattern : List Char} (rest : Like text pattern) :
    Like (c :: text) ('\\' :: c :: pattern)
  | itself {c : Char} (plain : c ∉ Like.special) {text pattern : List Char} (rest : Like text pattern) :
    Like (c :: text) (c :: pattern)

namespace Like

/-- A pattern in which every backslash has a character after it to make stand for itself. -/
inductive Closed : List Char → Prop where
  | nil : Closed []
  | escaped (c : Char) {pattern : List Char} (rest : Closed pattern) : Closed ('\\' :: c :: pattern)
  | cons {c : Char} (other : c ≠ '\\') {pattern : List Char} (rest : Closed pattern) : Closed (c :: pattern)

variable {text pattern front back before after : List Char} {c : Char}

theorem nil_iff : Like text [] ↔ text = [] := by
  constructor
  · rintro ⟨⟩
    rfl
  · rintro rfl
    exact .nil

theorem sequence_iff : Like text ('%' :: pattern) ↔ ∃ rest, rest <:+ text ∧ Like rest pattern := by
  constructor
  · intro like
    cases like with
    | sequence skipped rest => exact ⟨_, List.suffix_append _ _, rest⟩
    | itself plain => exact absurd (by decide) plain
  · rintro ⟨rest, ⟨skipped, rfl⟩, like⟩
    exact .sequence skipped like

theorem one_iff : Like text ('_' :: pattern) ↔ ∃ c rest, text = c :: rest ∧ Like rest pattern := by
  constructor
  · intro like
    cases like with
    | one c rest => exact ⟨c, _, rfl, rest⟩
    | itself plain => exact absurd (by decide) plain
  · rintro ⟨c, rest, rfl, like⟩
    exact .one c like

theorem escaped_iff : Like text ('\\' :: c :: pattern) ↔ ∃ rest, text = c :: rest ∧ Like rest pattern := by
  constructor
  · intro like
    cases like with
    | escaped _ rest => exact ⟨_, rfl, rest⟩
    | itself plain => exact absurd (by decide) plain
  · rintro ⟨rest, rfl, like⟩
    exact .escaped c like

theorem itself_iff (plain : c ∉ special) :
    Like text (c :: pattern) ↔ ∃ rest, text = c :: rest ∧ Like rest pattern := by
  constructor
  · intro like
    cases like with
    | itself _ rest => exact ⟨_, rfl, rest⟩
    | _ => exact absurd (by decide) plain
  · rintro ⟨rest, rfl, like⟩
    exact .itself plain like

theorem not_unpaired : ¬ Like text ['\\'] := by
  intro like
  cases like with
  | itself plain => exact absurd (by decide) plain

theorem any (text : List Char) : Like text ['%'] :=
  sequence_iff.2 ⟨[], List.nil_suffix, .nil⟩

theorem append (first : Like front before) (second : Like back after) : Like (front ++ back) (before ++ after) := by
  induction first with
  | nil => exact second
  | sequence skipped _ ih =>
    rw [List.append_assoc]
    exact .sequence skipped ih
  | one c _ ih => exact .one c ih
  | escaped c _ ih => exact .escaped c ih
  | itself plain _ ih => exact .itself plain ih

theorem wildcard_of_special (mem : c ∈ special) (other : c ≠ '\\') : c = '%' ∨ c = '_' := by
  simpa [special, other] using mem

/-- What is like a pattern comes apart where a closed part of the pattern ends. -/
theorem append_iff (closed : Closed before) :
    Like text (before ++ after) ↔ ∃ front back, text = front ++ back ∧ Like front before ∧ Like back after := by
  constructor
  · intro like
    -- A closed part takes no character of what comes after it, so each rule leaves a closed part before the rest.
    induction closed generalizing text with
    | nil => exact ⟨[], text, rfl, .nil, like⟩
    | escaped c _ ih =>
      obtain ⟨rest, rfl, later⟩ := escaped_iff.1 like
      obtain ⟨front, back, rfl, first, second⟩ := ih later
      exact ⟨c :: front, back, rfl, .escaped c first, second⟩
    | @cons c other _ _ ih =>
      by_cases mem : c ∈ special
      · rcases wildcard_of_special mem other with rfl | rfl
        · obtain ⟨rest, ⟨skipped, rfl⟩, later⟩ := sequence_iff.1 like
          obtain ⟨front, back, rfl, first, second⟩ := ih later
          exact ⟨skipped ++ front, back, (List.append_assoc _ _ _).symm, .sequence skipped first, second⟩
        · obtain ⟨d, rest, rfl, later⟩ := one_iff.1 like
          obtain ⟨front, back, rfl, first, second⟩ := ih later
          exact ⟨d :: front, back, rfl, .one d first, second⟩
      · obtain ⟨rest, rfl, later⟩ := (itself_iff mem).1 like
        obtain ⟨front, back, rfl, first, second⟩ := ih later
        exact ⟨c :: front, back, rfl, .itself mem first, second⟩
  · rintro ⟨front, back, rfl, first, second⟩
    exact first.append second

/-- Every pattern is closed, or so but for a backslash at its end. -/
theorem closed_or_unpaired :
    ∀ pattern : List Char, Closed pattern ∨ ∃ before, Closed before ∧ pattern = before ++ ['\\']
  | [] => .inl .nil
  | c :: rest => by
    by_cases backslash : c = '\\'
    · subst backslash
      match rest with
      | [] => exact .inr ⟨[], .nil, rfl⟩
      | d :: rest =>
        rcases closed_or_unpaired rest with closed | ⟨before, closed, rfl⟩
        · exact .inl (.escaped d closed)
        · exact .inr ⟨'\\' :: d :: before, .escaped d closed, rfl⟩
    · rcases closed_or_unpaired rest with closed | ⟨before, closed, rfl⟩
      · exact .inl (.cons backslash closed)
      · exact .inr ⟨c :: before, .cons backslash closed, rfl⟩

theorem closed_of_plain (plain : ∀ c ∈ pattern, c ∉ special) : Closed pattern := by
  induction pattern with
  | nil => exact .nil
  | cons c pattern ih =>
    rw [List.forall_mem_cons] at plain
    refine .cons ?_ (ih plain.2)
    rintro rfl
    exact plain.1 (by decide)

/-- Only a pattern itself is like it when it has no special character. -/
theorem iff_eq_of_plain (plain : ∀ c ∈ pattern, c ∉ special) : Like text pattern ↔ text = pattern := by
  induction pattern generalizing text with
  | nil => exact nil_iff
  | cons c pattern ih =>
    rw [List.forall_mem_cons] at plain
    rw [itself_iff plain.1]
    constructor
    · rintro ⟨rest, rfl, like⟩
      rw [(ih plain.2).1 like]
    · rintro rfl
      exact ⟨pattern, rfl, (ih plain.2).2 rfl⟩

/-- Some text no longer than a closed pattern is like it, and it is another text unless the pattern has no special
character. -/
theorem Closed.exists_like (closed : Closed pattern) : ∃ text, Like text pattern ∧ text.length ≤ pattern.length
    ∧ (text = pattern → ∀ c ∈ pattern, c ∉ special) := by
  induction closed with
  | nil => exact ⟨[], .nil, Nat.le_refl _, fun _ _ mem => absurd mem List.not_mem_nil⟩
  | @escaped c pattern _ ih =>
    obtain ⟨text, like, short, -⟩ := ih
    refine ⟨c :: text, .escaped c like, by simp only [List.length_cons]; omega, fun same => ?_⟩
    have lengths := congrArg List.length same
    simp only [List.length_cons] at lengths
    omega
  | @cons c other pattern _ ih =>
    obtain ⟨text, like, short, literal⟩ := ih
    by_cases mem : c ∈ special
    · rcases wildcard_of_special mem other with rfl | rfl
      · refine ⟨text, .sequence [] like, Nat.le_succ_of_le short, fun same => ?_⟩
        have lengths := congrArg List.length same
        simp only [List.length_cons] at lengths
        omega
      · refine ⟨'x' :: text, .one 'x' like, Nat.succ_le_succ short, fun same => ?_⟩
        exact absurd (List.cons.inj same).1 (by decide)
    · refine ⟨c :: text, .itself mem like, Nat.succ_le_succ short, fun same => ?_⟩
      exact List.forall_mem_cons.2 ⟨mem, literal (List.cons.inj same).2⟩

/-! ## Wildcards around a pattern -/

theorem prefix_iff (closed : Closed pattern) :
    Like text (pattern ++ ['%']) ↔ ∃ part, part <+: text ∧ Like part pattern := by
  rw [append_iff closed]
  constructor
  · rintro ⟨front, back, rfl, like, -⟩
    exact ⟨front, List.prefix_append _ _, like⟩
  · rintro ⟨front, ⟨back, rfl⟩, like⟩
    exact ⟨front, back, rfl, like, any back⟩

theorem infix_iff (closed : Closed pattern) :
    Like text ('%' :: (pattern ++ ['%'])) ↔ ∃ part, part <:+: text ∧ Like part pattern := by
  simp only [sequence_iff, prefix_iff closed, List.infix_iff_prefix_suffix]
  constructor
  · rintro ⟨rest, ends, part, begins, like⟩
    exact ⟨part, ⟨rest, begins, ends⟩, like⟩
  · rintro ⟨part, ⟨rest, begins, ends⟩, like⟩
    exact ⟨rest, ends, part, begins, like⟩

/-- A backslash that nothing comes after makes a pattern that nothing is like. -/
theorem not_append_unpaired (closed : Closed before) : ¬ Like text (before ++ ['\\']) := by
  rw [append_iff closed]
  rintro ⟨front, back, rfl, -, like⟩
  exact not_unpaired like

/-- A backslash before the wildcard makes it stand for a percent sign. -/
theorem append_percent_iff (closed : Closed before) :
    Like text (before ++ ['\\'] ++ ['%']) ↔ ∃ front, text = front ++ ['%'] ∧ Like front before := by
  rw [List.append_assoc, append_iff closed]
  constructor
  · rintro ⟨front, back, rfl, like, percent⟩
    obtain ⟨rest, rfl, last⟩ := escaped_iff.1 percent
    rw [nil_iff.1 last]
    exact ⟨front, rfl, like⟩
  · rintro ⟨front, rfl, like⟩
    exact ⟨front, ['%'], rfl, like, .escaped '%' .nil⟩

end Like

/-! ## Pattern operators -/

namespace Operator

/-- The pattern of a pattern operator is its value, unchanged, with wildcards after it, before it or around it. -/
inductive Surrounds : Operator → String → String → Prop where
  | startsWith (value : String) : Surrounds startsWith value (value ++ "%")
  | endsWith (value : String) : Surrounds endsWith value ("%" ++ value)
  | contains (value : String) : Surrounds contains value ("%" ++ value ++ "%")

/-- Where a pattern operator looks for a part of a text. -/
def Finds (op : Operator) (part text : List Char) : Prop :=
  match op with
  | startsWith => part <+: text
  | endsWith => part <:+ text
  | contains => part <:+: text
  | _ => part = text

/-- Where a pattern operator looks for a part of a text when the wildcard after it stands for a percent sign: at the
end of the text, before that sign. Without a wildcard after it, a part is found nowhere. -/
def FindsBeforePercent (op : Operator) (part text : List Char) : Prop :=
  match op with
  | startsWith => text = part ++ ['%']
  | contains => part ++ ['%'] <:+ text
  | _ => False

/-- A pattern that LIKE looks for a value with, as a pattern operator has it. The value is found as it is written when
it has no special character, and only then. In any case what is found is like the value, unless there is an unpaired
backslash at its end: then it is like the rest of the value and a percent sign comes after it. -/
structure Searches (op : Operator) (value pattern : List Char) : Prop where
  literal : (∀ text, Like text pattern ↔ op.Finds value text) ↔ ∀ c ∈ value, c ∉ Like.special
  closed : Like.Closed value → ∀ text, Like text pattern ↔ ∃ part, op.Finds part text ∧ Like part value
  unpaired : ∀ before, Like.Closed before → value = before ++ ['\\'] →
    ∀ text, Like text pattern ↔ ∃ part, op.FindsBeforePercent part text ∧ Like part before

variable {op : Operator} {part text pattern before : List Char} {value : String}

theorem finds_self (op : Operator) (text : List Char) : op.Finds text text := by
  cases op with
  | startsWith => exact List.prefix_rfl
  | endsWith => exact List.suffix_rfl
  | contains => exact List.infix_rfl
  | _ => exact rfl

theorem Finds.eq_of_length_le (finds : op.Finds part text) (short : text.length ≤ part.length) : part = text := by
  cases op with
  | startsWith => exact List.IsPrefix.eq_of_length_le finds short
  | endsWith => exact List.IsSuffix.eq_of_length_le finds short
  | contains => exact List.IsInfix.eq_of_length_le finds short
  | _ => exact finds

/-- No text that ends in a backslash ends in a percent sign. -/
theorem not_findsBeforePercent (op : Operator) (part before : List Char) :
    ¬ op.FindsBeforePercent part (before ++ ['\\']) := by
  intro finds
  have ends : ['%'] <:+ before ++ ['\\'] := by
    cases op with
    | startsWith => exact ⟨part, finds.symm⟩
    | contains => exact (List.suffix_append part ['%']).trans finds
    | _ => exact finds.elim
  simp at ends

/-- How a value is found as it is written follows from how it is found as a pattern. -/
theorem literal_iff {value : List Char}
    (closed : Like.Closed value → ∀ text, Like text pattern ↔ ∃ part, op.Finds part text ∧ Like part value)
    (unpaired : ∀ before, Like.Closed before → value = before ++ ['\\'] →
      ∀ text, Like text pattern ↔ ∃ part, op.FindsBeforePercent part text ∧ Like part before) :
    (∀ text, Like text pattern ↔ op.Finds value text) ↔ ∀ c ∈ value, c ∉ Like.special := by
  constructor
  · intro found
    rcases Like.closed_or_unpaired value with isClosed | ⟨before, isClosed, rfl⟩
    · obtain ⟨text, like, short, literal⟩ := isClosed.exists_like
      have finds := (found text).1 ((closed isClosed text).2 ⟨text, op.finds_self text, like⟩)
      exact literal (finds.eq_of_length_le short).symm
    · -- The value is in itself, but with an unpaired backslash it is found before a percent sign, and has none there.
      have like := (found _).2 (op.finds_self (before ++ ['\\']))
      obtain ⟨part, finds, -⟩ := (unpaired before isClosed rfl _).1 like
      exact absurd finds (op.not_findsBeforePercent part before)
  · intro plain text
    rw [closed (Like.closed_of_plain plain) text]
    simp only [Like.iff_eq_of_plain plain, exists_eq_right]

theorem surrounds_pattern (asks : op.isPattern = true) (value : String) : op.Surrounds value (op.pattern value) := by
  cases op with
  | startsWith => exact .startsWith value
  | endsWith => exact .endsWith value
  | contains => exact .contains value
  | _ => cases asks

theorem toList_pattern_startsWith (value : String) : (startsWith.pattern value).toList = value.toList ++ ['%'] :=
  String.toList_append

theorem toList_pattern_endsWith (value : String) : (endsWith.pattern value).toList = '%' :: value.toList :=
  String.toList_append

theorem toList_pattern_contains (value : String) :
    (contains.pattern value).toList = '%' :: (value.toList ++ ['%']) := by
  simp [pattern]

theorem like_pattern_of_closed (asks : op.isPattern = true) (closed : Like.Closed value.toList) :
    Like text (op.pattern value).toList ↔ ∃ part, op.Finds part text ∧ Like part value.toList := by
  cases op with
  | startsWith => rw [toList_pattern_startsWith, Like.prefix_iff closed]; rfl
  | endsWith => rw [toList_pattern_endsWith, Like.sequence_iff]; rfl
  | contains => rw [toList_pattern_contains, Like.infix_iff closed]; rfl
  | _ => cases asks

theorem like_pattern_of_unpaired (asks : op.isPattern = true) (closed : Like.Closed before)
    (ends : value.toList = before ++ ['\\']) :
    Like text (op.pattern value).toList ↔ ∃ part, op.FindsBeforePercent part text ∧ Like part before := by
  cases op with
  | startsWith => rw [toList_pattern_startsWith, ends, Like.append_percent_iff closed]; rfl
  | endsWith =>
    rw [toList_pattern_endsWith, ends, Like.sequence_iff]
    constructor
    · rintro ⟨rest, -, like⟩
      exact absurd like (Like.not_append_unpaired closed)
    · rintro ⟨part, ⟨⟩, -⟩
  | contains =>
    rw [toList_pattern_contains, ends, Like.sequence_iff]
    simp only [Like.append_percent_iff closed]
    constructor
    · rintro ⟨_, ends, part, rfl, like⟩
      exact ⟨part, ends, like⟩
    · rintro ⟨part, ends, like⟩
      exact ⟨_, ends, part, rfl, like⟩
  | _ => cases asks

theorem arity_of_isPattern (asks : op.isPattern = true) : op.arity = .single := by
  cases op <;> first | rfl | cases asks

theorem sql_of_isPattern (asks : op.isPattern = true) : op.sql = "LIKE" := by
  cases op <;> first | rfl | cases asks

/-- The pattern of a pattern operator looks for its value. -/
theorem searches_pattern (asks : op.isPattern = true) (value : String) :
    op.Searches value.toList (op.pattern value).toList where
  literal := literal_iff (fun closed _ => like_pattern_of_closed asks closed)
    fun _ closed ends _ => like_pattern_of_unpaired asks closed ends
  closed closed _ := like_pattern_of_closed asks closed
  unpaired _ closed ends _ := like_pattern_of_unpaired asks closed ends

end Operator

/-- **What a pattern operator finds.** A criterion with a pattern operator on a column of the entity's own is written
as LIKE with the next name, to which its value is bound with the wildcards of the operator and otherwise unchanged, and
that pattern looks for the value. -/
theorem condition_of_isPattern {entity : Entity} {criterion : Criterion} {field : EntityField}
    (found : entity.field? criterion.field = some field) (own : field.junction = none)
    (asks : criterion.operator.isPattern = true) (bindings : Bindings) :
    ∃ value pattern last, criterion.operand = .single value
      ∧ condition entity criterion bindings =
        (.ok (field.column ++ " LIKE :" ++ Bindings.name last.counter), last)
      ∧ criterion.operator.Surrounds value pattern
      ∧ bindings.BindsNext (.text pattern) last
      ∧ criterion.operator.Searches value.toList pattern.toList := by
  have fits := criterion.fits
  rw [Operator.arity_of_isPattern asks] at fits
  cases operand : criterion.operand with
  | none => rw [operand] at fits; cases fits
  | list values => rw [operand] at fits; cases fits
  | single value =>
    have resolved : Clause.ofCriterion entity criterion =
        .ok (.bound (field.column ++ " LIKE ") (.text (criterion.operator.pattern value)) "") := by
      unfold Clause.ofCriterion
      rw [found]
      simp only [own]
      rw [operand, Clause.ofColumn, if_pos asks, Operator.sql_of_isPattern asks]
      simp [String.append_assoc]
    refine ⟨value, _, _, rfl, condition_eq_ok_iff.2 ⟨_, resolved, ?_⟩, Operator.surrounds_pattern asks value,
      bindings.bindsNext_insert _, Operator.searches_pattern asks value⟩
    simp [Bindings.bind, String.append_assoc]

namespace Sample

/-- Customers whose name starts with a percentage. -/
def fiftyPercent : Criterion :=
  ⟨"customer", .startsWith, .single "50%", rfl⟩

def fiftyPercentBound : Bindings :=
  ⟨⟨[("p1", .text "50%%")]⟩, 1⟩

theorem condition_fiftyPercent :
    condition orders fiftyPercent .empty = (.ok "o.customer::text LIKE :p1", fiftyPercentBound) := rfl

end Sample

open Sample in
/-- What is found for a percentage starts with something like it. -/
theorem condition_of_isPattern_fiftyPercent :
    fiftyPercent.operator.isPattern = true
      ∧ condition orders fiftyPercent .empty = (.ok "o.customer::text LIKE :p1", fiftyPercentBound)
      ∧ ∀ text, Like text "50%%".toList ↔ ∃ part, part <+: text ∧ Like part "50%".toList := by
  have found : orders.field? fiftyPercent.field =
      some ⟨"customer", "o.customer::text", .string, true, true, none⟩ := rfl
  obtain ⟨value, pattern, last, ⟨⟩, written, ⟨⟩, -, searches⟩ := condition_of_isPattern found rfl rfl .empty
  have closed : Like.Closed "50%".toList := .cons (by decide) (.cons (by decide) (.cons (by decide) .nil))
  exact ⟨rfl, condition_fiftyPercent, searches.closed closed⟩

open Sample in
/-- A percent sign in a value is a wildcard: 500 does not start with 50%, and is found all the same. -/
theorem condition_not_literal_fiftyPercent :
    condition orders fiftyPercent .empty = (.ok "o.customer::text LIKE :p1", fiftyPercentBound)
      ∧ Like "500".toList "50%%".toList ∧ ¬ "50%".toList <+: "500".toList := by
  refine ⟨condition_fiftyPercent, ?_, by decide⟩
  have percent : Like ['0'] ['%', '%'] := .sequence ['0'] (.sequence [] .nil)
  exact .itself (by decide) (.itself (by decide) percent)

end QueryFilter
