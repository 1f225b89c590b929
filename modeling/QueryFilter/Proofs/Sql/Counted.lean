/-
Counting filters like paging.

The counting form of a query is cut from the base and its conditions together, yet the cut never depends on the
conditions: for a base that selects a list it falls in the base, and other bases are counted as a whole with
their conditions (`Query.count_filters_alike`). The counting form binds what the conditions bind, and the query
binds its window after that.

Conditions end in an operator, a name or a parenthesis, so the white space that is trimmed off a query that is
counted as a whole is never theirs (`endsVisibly_conditions`).
-/
import QueryFilter.Proofs.Sql.Conditions
import QueryFilter.Proofs.Sql.SelectList

namespace QueryFilter

namespace Text

/-- The last character of the text is not white space. -/
def EndsVisibly (cs : List Char) : Prop :=
  ∃ c, cs.getLast? = some c ∧ isSpace c = false

theorem EndsVisibly.append {cs : List Char} (ends : EndsVisibly cs) (before : List Char) :
    EndsVisibly (before ++ cs) := by
  obtain ⟨c, last, seen⟩ := ends
  exact ⟨c, by rw [List.getLast?_append, last, Option.some_or], seen⟩

theorem EndsVisibly.ne_nil {cs : List Char} (ends : EndsVisibly cs) : cs ≠ [] := by
  rintro rfl
  obtain ⟨c, last, -⟩ := ends
  cases last

theorem Tidy.append {cs tail : List Char} (tidy : Tidy cs) (ends : tail = [] ∨ EndsVisibly tail) :
    Tidy (cs ++ tail) := by
  rcases ends with rfl | ends
  · rwa [List.append_nil]
  · obtain ⟨c, first, seen⟩ := tidy.first
    exact ⟨⟨c, by rw [List.head?_append, first, Option.some_or], seen⟩, ends.append cs⟩

end Text

open Text (EndsVisibly)

/-! ## How conditions end -/

theorem Operator.endsVisibly_sql (op : Operator) : EndsVisibly op.sql.toList := by
  cases op <;> exact ⟨_, rfl, by decide⟩

theorem Placeholder.isSpace_of_isPart {c : Char} (part : isPart c = true) : Text.isSpace c = false := by
  have range : 48 ≤ c.toNat ∧ c.toNat ≤ 122 := by
    simp only [isPart, isStart, Text.isDigit, Bool.or_eq_true, Bool.and_eq_true, decide_eq_true_eq, beq_iff_eq] at part
    rcases part with ((lower | capital) | rfl) | digit
    · have bounds : 97 ≤ c.toNat ∧ c.toNat ≤ 122 := lower
      omega
    · have bounds : 65 ≤ c.toNat ∧ c.toNat ≤ 90 := capital
      omega
    · decide
    · have bounds : 48 ≤ c.toNat ∧ c.toNat ≤ 57 := digit
      omega
  rw [Bool.eq_false_iff]
  intro space
  simp only [Text.isSpace, Bool.or_eq_true, Bool.and_eq_true, beq_iff_eq, decide_eq_true_eq] at space
  omega

theorem Bindings.endsVisibly_name (n : Nat) : EndsVisibly (name n).toList := by
  obtain ⟨first, rest, split, starts, parts⟩ := isName_name n
  have isPart : ∀ c ∈ (name n).toList, Placeholder.isPart c = true := by
    rw [split]
    exact List.forall_mem_cons.2 ⟨by simp [Placeholder.isPart, starts], List.all_eq_true.1 parts⟩
  cases last : (name n).toList.getLast? with
  | none =>
    rw [List.getLast?_eq_none_iff, split] at last
    cases last
  | some c => exact ⟨c, last, Placeholder.isSpace_of_isPart (isPart c (List.mem_of_getLast? last))⟩

namespace Clause

/-- A clause whose text does not end in white space, whatever name its value gets. -/
def Closed : Clause → Prop
  | .fixed text => EndsVisibly text.toList
  | .bound _ _ after => after = "" ∨ EndsVisibly after.toList

theorem closed_ofColumn (column : String) (type : FieldType) (operator : Operator) (operand : Operand) :
    (ofColumn column type operator operand).Closed := by
  unfold ofColumn
  cases operand with
  | none =>
    simp only [Closed, String.toList_append]
    exact operator.endsVisibly_sql.append _
  | single raw => exact .inl rfl
  | list raws => exact .inr ⟨_, rfl, by decide⟩

theorem closed_ofJunction {entity : Entity} {field : EntityField} {junction : Junction} {operator : Operator}
    {operand : Operand} {clause : Clause} (resolved : ofJunction entity field junction operator operand = .ok clause) :
    clause.Closed := by
  unfold ofJunction at resolved
  split at resolved
  · cases resolved
  · split at resolved
    · cases resolved
    · cases operand with
      | none => cases resolved
      | single raw =>
        cases resolved
        exact .inr ⟨_, rfl, by decide⟩
      | list raws =>
        cases resolved
        exact .inr ⟨_, rfl, by decide⟩

theorem closed_ofCriterion {entity : Entity} {criterion : Criterion} {clause : Clause}
    (resolved : ofCriterion entity criterion = .ok clause) : clause.Closed := by
  unfold ofCriterion at resolved
  split at resolved
  · cases resolved
  · split at resolved
    · exact closed_ofJunction resolved
    · cases resolved
      exact closed_ofColumn _ _ _ _

theorem Closed.endsVisibly_bind {clause : Clause} (closed : clause.Closed) (bindings : Bindings) :
    EndsVisibly (bindings.bind clause).1.toList := by
  cases clause with
  | fixed text => exact closed
  | bound before value after =>
    simp only [Bindings.bind, String.toList_append]
    rcases closed with rfl | ends
    · rw [String.toList_empty, List.append_nil]
      exact (Bindings.endsVisibly_name _).append _
    · exact ends.append _

end Clause

theorem endsVisibly_conditions {entity : Entity} {criteria : List Criterion} {bindings last : Bindings}
    {texts : List String} (written : conditions entity criteria bindings = (.ok texts, last)) :
    ∀ text ∈ texts, EndsVisibly text.toList := by
  induction criteria generalizing bindings texts with
  | nil =>
    cases written
    simp
  | cons criterion criteria ih =>
    obtain ⟨text, rest, middle, here, later, rfl⟩ := conditions_cons_eq_ok_iff.1 written
    obtain ⟨clause, resolved, bound⟩ := condition_eq_ok_iff.1 here
    have ends := (Clause.closed_ofCriterion resolved).endsVisibly_bind bindings
    rw [bound] at ends
    exact List.forall_mem_cons.2 ⟨ends, ih later⟩

theorem endsVisibly_intercalate (separator : String) {texts : List String} (nonempty : texts ≠ [])
    (ends : ∀ text ∈ texts, EndsVisibly text.toList) : EndsVisibly (separator.intercalate texts).toList := by
  induction texts with
  | nil => exact absurd rfl nonempty
  | cons text texts ih =>
    cases texts with
    | nil => simpa using ends
    | cons next texts =>
      have rest := ih (List.cons_ne_nil next texts) fun text mem => ends text (List.mem_cons_of_mem _ mem)
      rw [String.intercalate_cons_cons, String.toList_append]
      exact rest.append _

theorem endsVisibly_whereText {entity : Entity} {criteria : List Criterion} {bindings last : Bindings} {text : String}
    (some : criteria ≠ []) (written : whereText entity criteria bindings = (.ok text, last)) :
    EndsVisibly text.toList := by
  obtain ⟨texts, made, rfl⟩ := whereText_eq_ok_iff.1 written
  have length := length_conditions made
  have nonempty : texts ≠ [] := by
    rintro rfl
    exact some (List.eq_nil_of_length_eq_zero length.symm)
  exact endsVisibly_intercalate " AND " nonempty (endsVisibly_conditions made)

/-! ## The counting form -/

/-- The conditions of a request as they stand in a query: nothing when there are no criteria. -/
def Request.whereClause (request : Request) (conditions : String) : String :=
  if request.filters = [] then "" else " WHERE " ++ conditions

section

variable {entity : Entity} {request : Request} {bindings last : Bindings} {conditions : String}

theorem Request.whereClause_eq (written : whereText entity request.filters bindings = (.ok conditions, last)) :
    Query.keywordText "WHERE" conditions = request.whereClause conditions := by
  unfold Query.keywordText whereClause
  split
  · rename_i empty
    split
    · rfl
    · rename_i some
      exact absurd (empty ▸ String.toList_empty) (endsVisibly_whereText some written).ne_nil
  · rename_i nonempty
    split
    · rename_i none
      rw [none] at written
      cases written
      exact absurd rfl nonempty
    · rfl

theorem Request.endsVisibly_whereClause
    (written : whereText entity request.filters bindings = (.ok conditions, last)) :
    (request.whereClause conditions).toList = [] ∨ EndsVisibly (request.whereClause conditions).toList := by
  unfold whereClause
  split
  · exact .inl rfl
  · rename_i some
    rw [String.toList_append]
    exact .inr ((endsVisibly_whereText some written).append _)

theorem Request.detached_whereClause (request : Request) (conditions : String) :
    CountQuery.Detached (request.whereClause conditions).toList := by
  unfold whereClause
  split
  · intro c first
    cases first
  · intro c first
    rw [String.toList_append] at first
    cases first
    decide

end

namespace CountQuery

variable {base : String}

theorem ofQuery_of_list (query : ListQuery) (shape : Text.trim base.toList = query.text) (clause : String) :
    ofQuery (Text.strip base ++ clause) = "SELECT COUNT(*) FROM " ++ String.ofList query.target ++ clause := by
  have split : (Text.strip base ++ clause).toList = query.text ++ clause.toList := by
    rw [String.toList_append, Text.toList_strip, shape]
  unfold ofQuery
  rw [split, query.selectsDistinct_append, query.target?_append]
  simp [String.append_assoc]

theorem ofQuery_of_distinct (query : DistinctQuery) (shape : Text.trim base.toList = query.text)
    {clause : String} (detached : Detached clause.toList) :
    ofQuery (Text.strip base ++ clause) = wrap (Text.strip base ++ clause) := by
  have split : (Text.strip base ++ clause).toList = query.text ++ clause.toList := by
    rw [String.toList_append, Text.toList_strip, shape]
  unfold ofQuery
  rw [split, query.selectsDistinct_append detached, if_pos rfl]

theorem not_blank_of_distinct (query : DistinctQuery) (shape : Text.trim base.toList = query.text) :
    Text.blank base = false := by
  cases blank : Text.blank base with
  | false => rfl
  | true =>
    obtain ⟨c, first, -⟩ := query.isSelect.head? (by simp) (query.gap ++ (query.distinctKeyword ++ query.rest))
    rw [Text.trim_eq_nil_iff.2 blank, DistinctQuery.text, List.append_assoc] at shape
    rw [← shape] at first
    cases first

theorem ofQuery_of_not_select (visible : Text.blank base = false)
    (other : ¬ BeginsWith selectWord (Text.trim base.toList)) {clause : String} (detached : Detached clause.toList) :
    ofQuery (Text.strip base ++ clause) = wrap (Text.strip base ++ clause) := by
  have split : (Text.strip base ++ clause).toList = Text.trim base.toList ++ clause.toList := by
    rw [String.toList_append, Text.toList_strip]
  have absent := afterSelect?_append_of_not_select (Text.tidy_trim visible).first other detached
  unfold ofQuery selectsDistinct target?
  rw [split, absent]
  rfl

theorem wrap_append (visible : Text.blank base = false) {clause : String}
    (ends : clause.toList = [] ∨ EndsVisibly clause.toList) :
    wrap (Text.strip base ++ clause) = "SELECT COUNT(*) FROM (" ++ Text.strip base ++ clause ++ ") AS filtered" := by
  have tidy := (Text.tidy_trim visible).append ends
  have kept : Text.strip (Text.strip base ++ clause) = Text.strip base ++ clause := by
    apply String.toList_injective
    rw [Text.toList_strip, String.toList_append, Text.toList_strip, tidy.trim_eq]
  unfold wrap
  rw [kept, ← String.append_assoc, String.append_assoc]

end CountQuery

/-- A query over a base and its counting form, which filter by the same conditions. The base is extended by the
conditions, the order and the window; the counting form by the conditions alone. It counts from what the base
selects a list from, and counts from the base as a whole when this selects distinct rows or is no `SELECT`. Its
parameters are the values of the criteria, and those of the query are these and the window. -/
structure Query.CountsAlike (entity : Entity) (base : String) (request : Request) (conditions order : String)
    (query : Query) : Prop where
  sql : query.sql =
    Text.strip base ++ request.whereClause conditions ++ keywordText "ORDER BY" order ++ paginationText
  list : ∀ parts : CountQuery.ListQuery, Text.trim base.toList = parts.text →
    query.countSql = "SELECT COUNT(*) FROM " ++ String.ofList parts.target ++ request.whereClause conditions
  distinct : ∀ parts : CountQuery.DistinctQuery, Text.trim base.toList = parts.text →
    query.countSql =
      "SELECT COUNT(*) FROM (" ++ Text.strip base ++ request.whereClause conditions ++ ") AS filtered"
  other : Text.blank base = false → ¬ CountQuery.BeginsWith CountQuery.selectWord (Text.trim base.toList) →
    query.countSql =
      "SELECT COUNT(*) FROM (" ++ Text.strip base ++ request.whereClause conditions ++ ") AS filtered"
  countParameters : query.countStatement.parameters.entries =
    Bindings.entriesFrom 1 (request.filters.filterMap (·.boundIn? entity))
  parameters : query.statement.parameters.entries = query.countStatement.parameters.entries
    ++ [(limitName, .integer request.limit), (offsetName, .integer request.offset)]

namespace Query

variable {entity : Entity} {base : String} {request : Request} {query : Query}

/-- **Counting filters like paging.** The counting form of a query has the conditions of the query, whatever
stands in them, and binds the same values under the same names. -/
theorem count_filters_alike (compiled : compile entity base request = .ok query) :
    ∃ conditions bindings order, whereText entity request.filters .empty = (.ok conditions, bindings)
      ∧ orderText entity request.sorts = .ok order
      ∧ query.countStatement.parameters = bindings.parameters
      ∧ query.CountsAlike entity base request conditions order := by
  obtain ⟨conditions, bindings, order, written, ordered, rfl⟩ := compile_eq_ok_iff.1 compiled
  have detached := request.detached_whereClause conditions
  have ends := Request.endsVisibly_whereClause written
  have numbered := entries_whereText written
  have windowless := Parameters.windowless_of_entriesFrom numbered
  have kept := Parameters.without_withWindow windowless request.limit request.offset
  refine ⟨conditions, bindings, order, written, ordered, kept, ?_⟩
  rw [Request.whereClause_eq written]
  refine ⟨rfl, ?_, ?_, ?_, ?_, ?_⟩
  · intro parts shape
    dsimp only
    exact CountQuery.ofQuery_of_list parts shape (request.whereClause conditions)
  · intro parts shape
    have visible := CountQuery.not_blank_of_distinct parts shape
    dsimp only
    exact (CountQuery.ofQuery_of_distinct parts shape detached).trans (CountQuery.wrap_append visible ends)
  · intro visible other
    dsimp only
    exact (CountQuery.ofQuery_of_not_select visible other detached).trans (CountQuery.wrap_append visible ends)
  · simp only [countStatement, kept, numbered]
  · simp only [statement, countStatement, kept]
    exact Parameters.entries_withWindow windowless request.limit request.offset

end Query

namespace Sample

/-- A base with a column named like the keyword that ends its list. -/
def ordersBase : CountQuery.ListQuery where
  selectKeyword := "Select".toList
  gap := "  ".toList
  items := "o.id, o.source AS \"from\"".toList
  gapAfter := "\n".toList
  fromKeyword := "FROM".toList
  space := ' '
  target := "orders o".toList
  isSelect := by decide
  isGap := ⟨by decide, by decide⟩
  visible := ⟨'o', rfl, by decide⟩
  notDistinct := by decide
  noFrom := by decide
  isGapAfter := ⟨by decide, by decide⟩
  isFrom := by decide
  spaced := by decide

end Sample

open Sample in
/-- The subquery on tags has a `FROM` of its own, and is counted with the rest. -/
theorem Query.count_filters_alike_taggedOrders :
    ∃ query, compile orders " Select  o.id, o.source AS \"from\"\nFROM orders o" taggedOrdersAccepted = .ok query
      ∧ query.countSql = "SELECT COUNT(*) FROM orders o WHERE o.customer::text IS NOT NULL AND o.id IN (SELECT "
        ++ "\"order_tags\".\"order_id\" FROM \"order_tags\" WHERE \"order_tags\".\"tag_id\" IN (:p1)) AND "
        ++ "o.customer::text LIKE :p2" := by
  have accepted : ((compile orders " Select  o.id, o.source AS \"from\"\nFROM orders o"
      taggedOrdersAccepted).map (·.parameters.names)) = .ok ["p1", "p2", "limit", "offset"] := by decide +kernel
  cases compiled : compile orders " Select  o.id, o.source AS \"from\"\nFROM orders o" taggedOrdersAccepted with
  | error failure =>
    rw [compiled] at accepted
    cases accepted
  | ok query =>
    obtain ⟨conditions, bindings, order, written, -, -, alike⟩ := count_filters_alike compiled
    have shape : Text.trim " Select  o.id, o.source AS \"from\"\nFROM orders o".toList = ordersBase.text := by
      decide +kernel
    have text : (whereText orders taggedOrdersAccepted.filters .empty).1 =
        .ok ("o.customer::text IS NOT NULL AND o.id IN (SELECT \"order_tags\".\"order_id\" FROM \"order_tags\" "
          ++ "WHERE \"order_tags\".\"tag_id\" IN (:p1)) AND o.customer::text LIKE :p2") := by decide +kernel
    rw [written] at text
    cases text
    refine ⟨query, rfl, ?_⟩
    rw [alike.list ordersBase shape]
    decide +kernel

end QueryFilter
