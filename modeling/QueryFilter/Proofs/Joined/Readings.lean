/-
Reading a query off its statements.

When the columns of a lookup are plain, a statement is the SQL of one query at most: its parts are told apart by the
first capital letter of their keywords, conditions and columns by what stands between them, and a condition by the
colon in front of its name (`RootQuery.conditions_eq_of_countStatement_eq`, `RootQuery.eq_of_rootIdsStatement_eq`,
`RootQuery.orderBy_eq_of_rowsStatement_eq`). So a table then has a source that answers a plan by the meaning of its
statements (`FlatTable.source_answers`).
-/
import QueryFilter.Proofs.Joined.Table

namespace QueryFilter

/-! ## Texts that are told apart -/

namespace Text

/-- The text has none of some characters. -/
def Avoids (marks : List Char) (text : String) : Prop :=
  ∀ mark ∈ marks, mark ∉ text.toList

instance (marks : List Char) (text : String) : Decidable (Avoids marks text) :=
  List.decidableBAll (fun mark => mark ∉ text.toList) marks

variable {marks : List Char} {separator : String}

theorem Avoids.mono {more : List Char} {text : String} (avoids : Avoids more text) (some : marks ⊆ more) :
    Avoids marks text :=
  fun mark mem => avoids mark (some mem)

theorem Avoids.append {text text' : String} (left : Avoids marks text) (right : Avoids marks text') :
    Avoids marks (text ++ text') := by
  intro mark mem
  rw [String.toList_append, List.mem_append, not_or]
  exact ⟨left mark mem, right mark mem⟩

theorem Avoids.intercalate {texts : List String} (between : Avoids marks separator)
    (each : ∀ text ∈ texts, Avoids marks text) : Avoids marks (separator.intercalate texts) := by
  induction texts with
  | nil => exact fun _ _ => List.not_mem_nil
  | cons text texts ih =>
    obtain ⟨first, others⟩ := List.forall_mem_cons.1 each
    cases texts with
    | nil => simpa using first
    | cons next texts =>
      rw [String.intercalate_cons_cons]
      exact (first.append between).append (ih others)

/-- Texts are told from what follows them by a separator with a character they do not have. -/
theorem append_inj_of_separator (mark : Char) (marked : mark ∈ separator.toList) {text text' rest rest' : String}
    (absent : mark ∉ text.toList) (absent' : mark ∉ text'.toList)
    (same : text ++ (separator ++ rest) = text' ++ (separator ++ rest')) : text = text' ∧ rest = rest' := by
  obtain ⟨before, after, split, first⟩ := List.eq_append_cons_of_mem marked
  have spelled (lead others : String) : (lead ++ (separator ++ others)).toList =
      (lead.toList ++ before) ++ mark :: (after ++ others.toList) := by
    simp [split]
  -- Both are cut at the first mark, which is in the separator.
  have cutLeft := cut_eq_some_iff.2 ⟨spelled text rest, by simp [absent, first]⟩
  have cutRight := cut_eq_some_iff.2 ⟨spelled text' rest', by simp [absent', first]⟩
  rw [same, cutRight] at cutLeft
  obtain ⟨texts, rests⟩ := Prod.mk.inj cutLeft
  exact ⟨String.toList_inj.1 (List.append_cancel_right texts.symm),
    String.toList_inj.1 (List.append_cancel_left (Option.some.inj rests).symm)⟩

/-- Texts with a separator before each of them but the first are told from one another by a character of the separator
that they do not have. -/
theorem join_inj (mark : Char) (marked : mark ∈ separator.toList) {text text' : String} {texts texts' : List String}
    (each : ∀ t ∈ text :: texts, mark ∉ t.toList) (each' : ∀ t ∈ text' :: texts', mark ∉ t.toList)
    (same : text ++ String.join (texts.map (separator ++ ·)) = text' ++ String.join (texts'.map (separator ++ ·))) :
    text :: texts = text' :: texts' := by
  induction texts generalizing text text' texts' with
  | nil =>
    cases texts' with
    | nil => simpa using same
    | cons next' texts' =>
      -- The separator stands on one side alone.
      obtain rfl : text = _ := by simpa using same
      exact absurd (by simp [marked]) (each _ List.mem_cons_self)
  | cons next texts ih =>
    cases texts' with
    | nil =>
      obtain rfl : _ = text' := by simpa using same
      exact absurd (by simp [marked]) (each' _ List.mem_cons_self)
    | cons next' texts' =>
      obtain ⟨absent, others⟩ := List.forall_mem_cons.1 each
      obtain ⟨absent', others'⟩ := List.forall_mem_cons.1 each'
      simp only [List.map_cons, String.join_cons, String.append_assoc] at same
      obtain ⟨rfl, rest⟩ := append_inj_of_separator mark marked absent absent' same
      rw [ih others others' rest]

/-- Texts that are not empty are told from one another by a separator with a character they do not have. -/
theorem intercalate_inj (mark : Char) (marked : mark ∈ separator.toList) {texts texts' : List String}
    (each : ∀ text ∈ texts, text ≠ "" ∧ mark ∉ text.toList)
    (each' : ∀ text ∈ texts', text ≠ "" ∧ mark ∉ text.toList)
    (same : separator.intercalate texts = separator.intercalate texts') : texts = texts' := by
  have starts {text : String} (others : List String) (some : text ≠ "") :
      separator.intercalate (text :: others) ≠ "" := by
    rw [Positional.intercalate_cons_eq_join]
    simp [String.append_eq_empty_iff, some]
  cases texts with
  | nil =>
    cases texts' with
    | nil => rfl
    | cons text' texts' => exact absurd same.symm (starts texts' (each' text' List.mem_cons_self).1)
  | cons text texts =>
    cases texts' with
    | nil => exact absurd same (starts texts (each text List.mem_cons_self).1)
    | cons text' texts' =>
      rw [Positional.intercalate_cons_eq_join, Positional.intercalate_cons_eq_join] at same
      exact join_inj mark marked (fun t mem => (each t mem).2) (fun t mem => (each' t mem).2) same

end Text

open Text (Avoids)

/-! ## Plain columns -/

/-- A column expression without commas, colons and the capital letters by which the parts of a statement are told. -/
structure PlainColumn (column : String) : Prop where
  some : column ≠ ""
  avoids : Avoids [',', ':', 'A', 'G', 'O'] column

/-- The columns of a lookup are plain, and none is reached over a junction. -/
structure PlainColumns (view : JoinedView) (entity : Entity) : Prop where
  columns : ∀ column, view.HasColumn entity column → PlainColumn column
  own : ∀ field ∈ entity.fields, field.junction = none

/-- A condition that is told from its text and the value bound in it. -/
def Clause.Plain : Clause → Prop
  | .fixed text => text ≠ "" ∧ Avoids [':', 'A', 'G'] text
  | .bound before _ after => Avoids [':', 'A', 'G'] before ∧ Avoids ['A', 'G'] after

theorem Operator.avoids_sql (op : Operator) : Avoids [':', 'A', 'G'] op.sql := by
  cases op <;> decide

theorem Bindings.avoids_name (n : Nat) : Avoids ['A', 'G'] (name n) := by
  have digits {c : Char} (mem : c ∈ (name n).toList) : c = 'p' ∨ c.isDigit = true := by
    unfold name at mem
    rw [String.toList_append, Nat.toList_repr, List.mem_append] at mem
    rcases mem with first | rest
    · exact .inl (by simpa using first)
    · exact .inr (Nat.isDigit_of_mem_toDigits (by decide) (by decide) rest)
  intro mark listed mem
  simp only [List.mem_cons, List.not_mem_nil, or_false] at listed
  rcases listed with rfl | rfl <;> rcases digits mem with same | digit <;> simp_all

section

variable {view : JoinedView} {entity : Entity} {clause : Clause}

theorem Clause.plain_ofColumn {column : String} (plain : PlainColumn column) (type : FieldType) (operator : Operator)
    (operand : Operand) : (ofColumn column type operator operand).Plain := by
  have avoids : Avoids [':', 'A', 'G'] column := plain.avoids.mono (by decide)
  have test : Avoids [':', 'A', 'G'] (column ++ " " ++ operator.sql) :=
    (avoids.append (by decide)).append operator.avoids_sql
  cases operand with
  | none => exact ⟨by simp [plain.some], test⟩
  | single raw => exact ⟨test.append (by decide), by decide⟩
  | list raws => exact ⟨test.append (by decide), by decide⟩

theorem Clause.plain_ofCriterion {criterion : Criterion} (plain : PlainColumns view entity)
    (resolved : ofCriterion entity criterion = .ok clause) : clause.Plain := by
  unfold ofCriterion at resolved
  split at resolved
  · cases resolved
  · rename_i field found
    have own := plain.own field (List.mem_of_find?_eq_some found)
    rw [own] at resolved
    cases resolved
    refine plain_ofColumn (plain.columns _ (.inr ⟨criterion.field, ?_⟩)) _ _ _
    rw [Entity.column?, found]
    rfl

theorem Clause.plain_textsFrom {clauses : List Clause} (plain : ∀ clause ∈ clauses, clause.Plain) (n : Nat) :
    ∀ text ∈ textsFrom n clauses, text ≠ "" ∧ Avoids ['A', 'G'] text := by
  induction clauses generalizing n with
  | nil => exact fun _ mem => absurd mem List.not_mem_nil
  | cons clause clauses ih =>
    obtain ⟨first, others⟩ := List.forall_mem_cons.1 plain
    cases clause with
    | fixed text => exact List.forall_mem_cons.2 ⟨⟨first.1, first.2.mono (by decide)⟩, ih others n⟩
    | bound before value after =>
      have test : Avoids ['A', 'G'] before := first.1.mono (by decide)
      have colon : Avoids ['A', 'G'] ":" := by decide
      have named := (test.append colon).append (Bindings.avoids_name n)
      exact List.forall_mem_cons.2 ⟨⟨by simp, named.append first.2⟩, ih others (n + 1)⟩

/-- A condition without a value is not one with a name in it. -/
theorem Clause.fixed_ne_bound {text before name after : String} (plain : (fixed text).Plain) :
    text ≠ before ++ ":" ++ name ++ after := by
  rintro rfl
  exact absurd (by simp) (plain.2 ':' (by decide))

/-- A condition is told from its text by its name. -/
theorem Clause.bound_inj {before before' after after' name : String} {value value' : Value}
    (plain : (bound before value after).Plain) (plain' : (bound before' value' after').Plain)
    (same : before ++ ":" ++ name ++ after = before' ++ ":" ++ name ++ after') : before = before' ∧ after = after' := by
  simp only [String.append_assoc] at same
  obtain ⟨rfl, behind⟩ := Text.append_inj_of_separator ':' (by decide) (plain.1 ':' (by decide))
    (plain'.1 ':' (by decide)) same
  exact ⟨rfl, (String.append_right_inj _).1 behind⟩

/-- Conditions are told from their texts and the values under their names. -/
theorem Clause.eq_of_textsFrom_eq {clauses clauses' : List Clause} (plain : ∀ clause ∈ clauses, clause.Plain)
    (plain' : ∀ clause ∈ clauses', clause.Plain) {n : Nat} (texts : textsFrom n clauses = textsFrom n clauses')
    (values : Bindings.entriesFrom n (clauses.filterMap value?) = Bindings.entriesFrom n (clauses'.filterMap value?)) :
    clauses = clauses' := by
  induction clauses generalizing n clauses' with
  | nil =>
    cases clauses' with
    | nil => rfl
    | cons clause' clauses' => cases clause' <;> cases texts
  | cons clause clauses ih =>
    cases clauses' with
    | nil => cases clause <;> cases texts
    | cons clause' clauses' =>
      obtain ⟨first, others⟩ := List.forall_mem_cons.1 plain
      obtain ⟨first', others'⟩ := List.forall_mem_cons.1 plain'
      cases clause with
      | fixed text =>
        cases clause' with
        | fixed text' =>
          obtain ⟨rfl, rest⟩ := List.cons.inj texts
          rw [ih others others' rest values]
        | bound before' value' after' => exact absurd (List.cons.inj texts).1 (fixed_ne_bound first)
      | bound before value after =>
        cases clause' with
        | fixed text' => exact absurd (List.cons.inj texts).1.symm (fixed_ne_bound first')
        | bound before' value' after' =>
          obtain ⟨here, rest⟩ := List.cons.inj texts
          obtain ⟨⟨⟩, later⟩ := List.cons.inj values
          obtain ⟨rfl, rfl⟩ := bound_inj first first' here
          rw [ih others others' rest later]

theorem OrderTerm.sql_injective {term term' : OrderTerm} (same : term.sql = term'.sql) : term = term' := by
  obtain ⟨column, direction⟩ := term
  obtain ⟨column', direction'⟩ := term'
  -- The directions end in different letters.
  have chars := congrArg (List.reverse ∘ String.toList) same
  cases direction <;> cases direction' <;> simp [sql, Direction.sql] at same chars ⊢ <;> exact same

/-! ## One reading -/

namespace RootQuery

variable {query query' : RootQuery}

theorem Over.plain_conditions (plain : PlainColumns view entity) (ranges : query.Over view entity) :
    ∀ clause ∈ query.conditions, clause.Plain := by
  intro clause mem
  obtain ⟨criterion, resolved⟩ := ranges.conditions clause mem
  exact Clause.plain_ofCriterion plain resolved

theorem Over.avoids_filterText (plain : PlainColumns view entity) (ranges : query.Over view entity) :
    Avoids ['G'] query.filterText := by
  unfold filterText
  split
  · decide
  · have texts := Clause.plain_textsFrom (ranges.plain_conditions plain) 1
    exact .append (by decide) (.intercalate (by decide) fun text mem => (texts text mem).2.mono (by decide))

theorem conditions_eq_of_filterText_eq (plain : PlainColumns view entity) (ranges : query.Over view entity)
    (ranges' : query'.Over view entity) (texts : query.filterText = query'.filterText)
    (entries : query.entries = query'.entries) : query.conditions = query'.conditions := by
  have told := Clause.plain_textsFrom (ranges.plain_conditions plain) 1
  have told' := Clause.plain_textsFrom (ranges'.plain_conditions plain) 1
  unfold filterText at texts
  split at texts
  · rename_i none
    split at texts
    · rename_i none'
      rw [none, none']
    · exact absurd texts.symm (by simp)
  · split at texts
    · exact absurd texts (by simp)
    · have same := Text.intercalate_inj 'A' (by decide)
        (fun text mem => ⟨(told text mem).1, (told text mem).2 'A' (by decide)⟩)
        (fun text mem => ⟨(told' text mem).1, (told' text mem).2 'A' (by decide)⟩) ((String.append_right_inj _).1 texts)
      exact Clause.eq_of_textsFrom_eq (ranges.plain_conditions plain) (ranges'.plain_conditions plain) same entries

theorem orderBy_eq_of_sql_eq (plain : PlainColumns view entity) (ranges : query.Over view entity)
    (ranges' : query'.Over view entity)
    (same : ", ".intercalate (query.orderBy.map OrderTerm.sql) = ", ".intercalate (query'.orderBy.map OrderTerm.sql)) :
    query.orderBy = query'.orderBy := by
  have told {other : RootQuery} (ranges : other.Over view entity) :
      ∀ text ∈ other.orderBy.map OrderTerm.sql, text ≠ "" ∧ ',' ∉ text.toList := by
    intro text mem
    obtain ⟨term, listed, rfl⟩ := List.mem_map.1 mem
    have column := plain.columns _ (ranges.orderBy term listed)
    have direction : ',' ∉ term.direction.sql.toList := by cases term.direction <;> decide
    exact ⟨by simp [OrderTerm.sql], by simp [OrderTerm.sql, column.avoids ',' (by decide), direction]⟩
  have terms := Text.intercalate_inj ',' (by decide) (told ranges) (told ranges') same
  exact List.map_injective_iff.2 (fun _ _ => OrderTerm.sql_injective) terms

theorem Over.avoids_groupText (plain : PlainColumns view entity) (ranges : query.Over view entity) :
    Avoids ['O'] (", ".intercalate query.groupBy) :=
  .intercalate (by decide) fun column mem => (plain.columns column (ranges.groupBy column mem)).avoids.mono (by decide)

theorem groupBy_eq_of_sql_eq (plain : PlainColumns view entity) (ranges : query.Over view entity)
    (ranges' : query'.Over view entity)
    (same : ", ".intercalate query.groupBy = ", ".intercalate query'.groupBy) : query.groupBy = query'.groupBy := by
  have told {other : RootQuery} (ranges : other.Over view entity) :
      ∀ column ∈ other.groupBy, column ≠ "" ∧ ',' ∉ column.toList := by
    intro column mem
    have known := plain.columns column (ranges.groupBy column mem)
    exact ⟨known.some, known.avoids ',' (by decide)⟩
  exact Text.intercalate_inj ',' (by decide) (told ranges) (told ranges') same

theorem conditions_eq_of_countStatement_eq (plain : PlainColumns view entity) (ranges : query.Over view entity)
    (ranges' : query'.Over view entity) (same : query.countStatement view = query'.countStatement view) :
    query.conditions = query'.conditions := by
  have texts := congrArg Statement.sql same
  have entries := congrArg (·.parameters.entries) same
  exact conditions_eq_of_filterText_eq plain ranges ranges' ((String.append_right_inj _).1 texts) entries

theorem orderBy_eq_of_rowsStatement_eq (plain : PlainColumns view entity) (ranges : query.Over view entity)
    (ranges' : query'.Over view entity) {ids : List Value}
    (same : query.rowsStatement view ids = query'.rowsStatement view ids) : query.orderBy = query'.orderBy := by
  have texts := congrArg Statement.sql same
  exact orderBy_eq_of_sql_eq plain ranges ranges' ((String.append_right_inj _).1 texts)

theorem eq_of_rootIdsStatement_eq (plain : PlainColumns view entity) (ranges : query.Over view entity)
    (ranges' : query'.Over view entity) (same : query.rootIdsStatement view = query'.rootIdsStatement view) :
    query = query' := by
  have texts := congrArg Statement.sql same
  have values : query.entries ++ [("limit", .integer query.limit), ("offset", .integer query.offset)] =
      query'.entries ++ [("limit", .integer query'.limit), ("offset", .integer query'.offset)] :=
    congrArg (·.parameters.entries) same
  obtain ⟨entries, window⟩ := List.append_inj' values rfl
  -- The conditions end at the first G, that of GROUP BY, and the columns at the first O after it, that of ORDER BY.
  simp only [rootIdsStatement, String.append_assoc, String.append_right_inj] at texts
  obtain ⟨filters, grouped⟩ := Text.append_inj_of_separator 'G' (by decide)
    (ranges.avoids_filterText plain 'G' (by decide)) (ranges'.avoids_filterText plain 'G' (by decide)) texts
  obtain ⟨groups, ordered⟩ := Text.append_inj_of_separator 'O' (by decide)
    (ranges.avoids_groupText plain 'O' (by decide)) (ranges'.avoids_groupText plain 'O' (by decide)) grouped
  have conditions := conditions_eq_of_filterText_eq plain ranges ranges' filters entries
  have groupBy := groupBy_eq_of_sql_eq plain ranges ranges' groups
  have orderBy := orderBy_eq_of_sql_eq plain ranges ranges' ((String.append_left_inj _).1 ordered)
  obtain ⟨_, _, _, _, _⟩ := query
  obtain ⟨_, _, _, _, _⟩ := query'
  simp_all

end RootQuery

end

/-! ## A source over a table -/

section

variable {ρ κ ν α β γ : Type} [DecidableEq κ] [LinearOrder ν] {m : Type → Type} [Monad m]

/-- What the window of a statement leaves of a result. -/
def Statement.cut {τ : Type} (statement : Statement) (result : List τ) : List τ :=
  match statement.parameters.get? offsetName, statement.parameters.get? limitName with
  | some (.integer offset), some (.integer limit) => (result.drop offset.toNat).take limit.toNat
  | _, _ => result

theorem RootQuery.cut_rootIdsStatement {τ : Type} (query : RootQuery) (view : JoinedView) (result : List τ) :
    (query.rootIdsStatement view).cut result = (result.drop query.offset.toNat).take query.limit.toNat := by
  have windowless : Parameters.Windowless ⟨query.entries⟩ := Parameters.windowless_of_entriesFrom rfl
  have bound : (query.rootIdsStatement view).parameters =
      (⟨query.entries⟩ : Parameters).withWindow query.limit query.offset :=
    congrArg Parameters.mk (Parameters.entries_withWindow windowless query.limit query.offset).symm
  have other : limitName ≠ offsetName := by decide
  unfold Statement.cut
  rw [bound, Parameters.withWindow, Parameters.get?_insert_self, Parameters.get?_insert_other _ _ other,
    Parameters.get?_insert_self]

namespace FlatTable

/-- The source that looks a query up in a table, the window and the ids being read off the parameters. -/
def source (table : FlatTable ρ ν) (roots : RootView ρ κ α β γ) (query : RootQuery) (readId : Value → Option κ) :
    RowSource m ρ κ where
  count _ := pure (table.matchingRoots query roots.ids).length
  rootIds statement := pure (statement.cut ((table.groups query).map roots.ids.root))
  rows statement :=
    match statement.parameters.get? JoinPlan.idsName with
    | some (.list values) =>
      pure ((table.rowsOf roots.ids (values.filterMap readId)).insertionSort (table.Precedes query.orderBy))
    | _ => throw (.sourceFailed "no ids")

/-- Whatever the window, the source of a query answers its plan by the meaning of the statements. -/
theorem source_answers (table : FlatTable ρ ν) {roots : RootView ρ κ α β γ} {entity : Entity}
    (plain : PlainColumns roots.view entity) {readId : Value → Option κ}
    (reads : ∀ id, readId (roots.bindId id) = some id) (request : Request) (offset : Int) {plan : JoinPlan}
    (planned : JoinPlan.make roots.view entity { request with offset } = .ok plan) :
    table.Answers roots entity plan
      (table.source roots (request.rootQuery roots.view entity) readId : RowSource m ρ κ) := by
  have writes := JoinPlan.make_writes planned
  have known := Request.rootQuery_over { request with offset } roots.view entity
  refine ⟨fun query ranges same => ?_, fun query ranges same => ?_, fun wanted query ranges same => ?_⟩
  · rw [writes.count] at same
    have conditions := RootQuery.conditions_eq_of_countStatement_eq plain known ranges same
    unfold source matchingRoots matching
    rw [← conditions]
    rfl
  · rw [writes.rootIds] at same ⊢
    obtain rfl := RootQuery.eq_of_rootIdsStatement_eq plain known ranges same
    exact congrArg pure (RootQuery.cut_rootIdsStatement _ _ _)
  · rw [writes.rows] at same ⊢
    have orderBy := RootQuery.orderBy_eq_of_rowsStatement_eq plain known ranges same
    have back : (wanted.map roots.bindId).filterMap readId = wanted := by
      rw [List.filterMap_map]
      simp [reads]
    refine ⟨(table.rowsOf roots.ids wanted).insertionSort (table.Precedes query.orderBy), ?_,
      List.perm_insertionSort _ _, List.pairwise_insertionSort _ _⟩
    rw [← orderBy]
    conv_rhs => rw [← back]
    rfl

end FlatTable

end

end QueryFilter
