/-
Queries in pieces.

The query of an accepted request is written from sound pieces (`Query.compile_pieces`): the conditions, in
order, each with at most one placeholder, then the order and the window. So its positional form lists the
values of the criteria in order, then the limit and the offset, and slot k is for the k-th of them.

A clause is bound before later ones are, so what its placeholder stands for is read off the parameters at the
end: `Bindings.Within` says that these still have everything bound so far.
-/
import Mathlib.Control.Monad.Basic
import QueryFilter.Proofs.Schema.Accepted
import QueryFilter.Proofs.Sql.Bound
import QueryFilter.Proofs.Sql.Template

namespace QueryFilter

namespace Criterion

/-- The values a criterion puts into slots on a field of a type, in order: none for a null check, one for a
scalar, and one for each element of a list. -/
def slotValues (criterion : Criterion) (type : FieldType) : List Value :=
  match criterion.operand with
  | .none => []
  | .single raw =>
    [if criterion.operator.isPattern then .text (criterion.operator.pattern raw) else Value.coerce type raw]
  | .list raws => raws.map (Value.coerce type)

/-- The values a criterion puts into the slots of a query on an entity, in order. -/
def boundValues (entity : Entity) (criterion : Criterion) : List Value :=
  match entity.field? criterion.field with
  | none => []
  | some field => criterion.slotValues field.type

end Criterion

/-- The texts an entity brings into a query are neutral. -/
structure Entity.Neutral (entity : Entity) : Prop where
  columns : ∀ field ∈ entity.fields, QueryFilter.Neutral field.column
  idColumn : ∀ column, entity.idColumn = some column → QueryFilter.Neutral column

/-! ## Clauses -/

namespace Clause

/-- Clauses that go into pieces, and the values of the slots they take. -/
inductive Ready : Clause → List Value → Prop where
  | fixed {text : String} (inert : Inert text) : Ready (.fixed text) []
  | bound {before after : String} {value : Value} {values : List Value} (opens : Inert before)
    (fills : Value.Fills values value) (closes : Inert after)
    (ends : Placeholder.nameEnds after.toList = true) : Ready (.bound before value after) values

/-- The pieces of a clause whose value is bound to the name with a number. -/
def pieces (n : Nat) (values : List Value) : Clause → List Piece
  | .fixed text => [.text text]
  | .bound before _ after => [.text before, .placeholder (Bindings.name n) values, .text after]

end Clause

theorem Value.fills_coerce (type : FieldType) (raw : String) : Fills [coerce type raw] (coerce type raw) where
  slots := by simp [slots, entries_coerce]
  outline := by simp [outline, entries_coerce]

theorem Value.fills_text (text : String) : Fills [.text text] (.text text) where
  slots := by simp [slots, entries]
  outline := by simp [outline, entries]

theorem Value.fills_integer (n : Int) : Fills [.integer n] (.integer n) where
  slots := by simp [slots, entries]
  outline := by simp [outline, entries]

theorem Value.fills_coerceList (type : FieldType) {raws : List String} (nonempty : raws ≠ []) :
    Fills (raws.map (coerce type)) (coerceList type raws) where
  slots := slots_coerceList type raws
  outline := by rw [outline_coerceList, if_neg nonempty, List.length_map]

theorem Operator.inert_sql (op : Operator) : Inert op.sql := by
  cases op <;> decide

theorem Operator.inert_membership {op : Operator} {membership : String} (asks : op.membership? = some membership) :
    Inert membership := by
  cases op <;> cases asks <;> decide

namespace Clause

theorem ready_ofColumn {column : String} (neutral : Neutral column) {criterion : Criterion}
    (listed : criterion.operand ≠ .list []) (type : FieldType) :
    (ofColumn column type criterion.operator criterion.operand).Ready (criterion.slotValues type) := by
  have tested : Inert (column ++ " " ++ criterion.operator.sql) :=
    neutral.space.append criterion.operator.inert_sql
  unfold Criterion.slotValues ofColumn
  cases operand : criterion.operand with
  | none => exact .fixed tested
  | single raw =>
    refine .bound (tested.append (by decide)) ?_ (by decide) rfl
    simp only
    split
    · exact Value.fills_text _
    · exact Value.fills_coerce _ _
  | list raws =>
    have nonempty : raws ≠ [] := by
      rintro rfl
      exact listed operand
    exact .bound (tested.append (by decide)) (Value.fills_coerceList _ nonempty) (by decide) rfl

theorem inert_junctionText {idColumn membership : String} (neutral : Neutral idColumn)
    (inert : Inert membership) (junction : Junction) : Inert (junctionText idColumn membership junction) := by
  have quoted := Identifier.inert_quote
  unfold junctionText
  have tested : Inert (idColumn ++ " " ++ membership) := neutral.space.append inert
  have owners : Inert (idColumn ++ " " ++ membership ++ " (SELECT " ++ Identifier.quote junction.table ++ "."
      ++ Identifier.quote junction.ownerColumn) :=
    (((tested.append (by decide)).append (quoted _)).append (by decide)).append (quoted _)
  have source := ((owners.append (by decide : Inert " FROM ")).append (quoted junction.table)).append
    (by decide : Inert " WHERE ")
  exact ((((source.append (quoted junction.table)).append (by decide)).append (quoted _)).append (by decide))

/-- Where an operator asks for membership, a junction field has a clause. -/
theorem ready_ofJunction {entity : Entity} {idColumn : String} (declared : entity.idColumn = some idColumn)
    (neutral : Neutral idColumn) {criterion : Criterion} {membership : String}
    (asks : criterion.operator.membership? = some membership) (listed : criterion.operand ≠ .list [])
    (field : EntityField) (junction : Junction) :
    ∃ clause, ofJunction entity field junction criterion.operator criterion.operand = .ok clause
      ∧ clause.Ready (criterion.slotValues field.type) := by
  have tested := inert_junctionText neutral (Operator.inert_membership asks) junction
  have plain := Operator.isPattern_of_membership? asks
  unfold Criterion.slotValues ofJunction
  rw [declared, asks, plain]
  cases operand : criterion.operand with
  | none =>
    have arity := criterion.fits
    rw [operand] at arity
    exact absurd arity.symm (Operator.arity_of_membership? asks)
  | single raw =>
    exact ⟨_, rfl, .bound (tested.append (by decide)) (Value.fills_coerce _ _) (by decide) rfl⟩
  | list raws =>
    have nonempty : raws ≠ [] := by
      rintro rfl
      exact listed operand
    exact ⟨_, rfl, .bound (tested.append (by decide)) (Value.fills_coerceList _ nonempty) (by decide) rfl⟩

/-- An accepted criterion has a clause. -/
theorem ready_ofCriterion {entity : Entity} (neutral : entity.Neutral) {criterion : Criterion}
    (accepted : criterion.Accepted entity) :
    ∃ clause, ofCriterion entity criterion = .ok clause ∧ clause.Ready (criterion.boundValues entity) := by
  obtain ⟨field, found, lawful⟩ := accepted.field
  unfold ofCriterion Criterion.boundValues
  simp only [found]
  cases kept : field.junction with
  | none =>
    have column := neutral.columns field (Entity.mem_of_field? found).1
    exact ⟨_, rfl, ready_ofColumn column accepted.listed field.type⟩
  | some junction =>
    obtain ⟨idColumn, declared⟩ := Entity.idColumn_of_junction found kept
    obtain ⟨membership, asks⟩ := Violation.membership_of_ofOperator lawful kept
    exact ready_ofJunction declared (neutral.idColumn idColumn declared) asks accepted.listed field junction

end Clause

/-! ## Names -/

namespace Bindings

theorem name_injective {m n : Nat} (same : name m = name n) : m = n := by
  unfold name at same
  have digits := congrArg String.toList ((String.append_right_inj "p").1 same)
  rw [Nat.toList_repr, Nat.toList_repr] at digits
  have read := congrArg (fun cs => Nat.ofDigitChars 10 cs 0) digits
  simpa [Nat.ofDigitChars_toDigits] using read

theorem isName_name (n : Nat) : Placeholder.IsName (name n) := by
  refine ⟨'p', Nat.toDigits 10 n, ?_, rfl, List.all_eq_true.2 fun c mem => ?_⟩
  · unfold name
    rw [String.toList_append, Nat.toList_repr]
    rfl
  · have digit : c.isDigit = true := Nat.isDigit_of_mem_toDigits (by decide) (by decide) mem
    have read : Text.isDigit c = true := by simpa [Char.isDigit, Text.isDigit, Char.le_def] using digit
    simp [Placeholder.isPart, read]

/-- No numbered name is a name that begins with another letter. -/
theorem name_ne {other : String} (first : other.toList.head? ≠ some 'p') (n : Nat) : name n ≠ other := by
  rintro rfl
  unfold name at first
  rw [String.toList_append] at first
  exact first rfl

/-- The groups of values that are not empty, under the names from a number on. -/
def nameFrom (n : Nat) : List (List Value) → List (String × List Value)
  | [] => []
  | [] :: groups => nameFrom n groups
  | group :: groups => (name n, group) :: nameFrom (n + 1) groups

theorem flatMap_nameFrom (n : Nat) (groups : List (List Value)) :
    (nameFrom n groups).flatMap (·.2) = groups.flatten := by
  induction groups generalizing n with
  | nil => rfl
  | cons group groups ih =>
    cases group with
    | nil => simpa [nameFrom] using ih n
    | cons value values => simp [nameFrom, ih]

/-- Parameters that have everything bound so far. -/
def Within (bindings : Bindings) (parameters : Parameters) : Prop :=
  ∀ k ≤ bindings.counter, parameters.get? (name k) = bindings.parameters.get? (name k)

variable {bindings : Bindings} {clause : Clause} {values : List Value} {parameters : Parameters}

theorem Within.of_bind (within : (bindings.bind clause).2.Within parameters) : bindings.Within parameters := by
  cases clause with
  | fixed text => exact within
  | bound before value after =>
    intro k earlier
    simp only [bind, Within] at within
    rw [within k (by omega)]
    refine Parameters.get?_insert_other _ _ fun same => ?_
    have equal := name_injective same
    omega

theorem within_withWindow (bindings : Bindings) (limit offset : Int) :
    bindings.Within (bindings.parameters.withWindow limit offset) := by
  intro k _
  unfold Parameters.withWindow
  rw [Parameters.get?_insert_other _ _ (name_ne (by decide) k),
    Parameters.get?_insert_other _ _ (name_ne (by decide) k)]

/-- Binding a clause writes its pieces, and these stay sound while its value stays bound. -/
theorem bind_pieces (ready : clause.Ready values) (bindings : Bindings) :
    (bindings.bind clause).1 = Piece.namedText (clause.pieces (bindings.counter + 1) values) ∧
      ∀ parameters, (bindings.bind clause).2.Within parameters →
        Piece.Sound parameters (clause.pieces (bindings.counter + 1) values) := by
  cases ready with
  | fixed inert => exact ⟨by simp [bind, Clause.pieces, Piece.namedText, Piece.named], fun _ _ => ⟨inert, trivial⟩⟩
  | @bound before after value values opens fills closes ends =>
    refine ⟨?_, fun parameters within => ?_⟩
    · simp [bind, Clause.pieces, Piece.namedText, Piece.named, String.append_assoc]
    · have bound : parameters.get? (name (bindings.counter + 1)) = some value := by
        rw [within (bindings.counter + 1) (Nat.le_refl _)]
        exact Parameters.get?_insert_self _ _ _
      refine ⟨opens, isName_name _, ⟨value, bound, fills⟩, ?_, closes, trivial⟩
      simpa [Piece.namedText, Piece.named] using ends

theorem nameFrom_bind (ready : clause.Ready values) (bindings : Bindings) (groups : List (List Value)) :
    nameFrom (bindings.counter + 1) (values :: groups) =
      Piece.placeholders (clause.pieces (bindings.counter + 1) values)
        ++ nameFrom ((bindings.bind clause).2.counter + 1) groups := by
  cases ready with
  | fixed inert => rfl
  | bound opens fills closes ends =>
    cases values with
    | nil => exact absurd rfl fills.ne_nil
    | cons value values => rfl

end Bindings

/-! ## Queries -/

/-- The conditions of accepted criteria are written from pieces, a list of them for each condition. -/
theorem conditions_pieces {entity : Entity} (neutral : entity.Neutral) {criteria : List Criterion}
    (accepted : ∀ criterion ∈ criteria, criterion.Accepted entity) (bindings : Bindings) :
    ∃ (groups : List (List Piece)) (last : Bindings),
      conditions entity criteria bindings = (.ok (groups.map Piece.namedText), last)
      ∧ groups.flatMap Piece.placeholders =
        Bindings.nameFrom (bindings.counter + 1) (criteria.map (·.boundValues entity))
      ∧ ∀ parameters, last.Within parameters →
        bindings.Within parameters ∧ ∀ group ∈ groups, Piece.Sound parameters group := by
  induction criteria generalizing bindings with
  | nil => exact ⟨[], bindings, rfl, rfl, fun _ within => ⟨within, by simp⟩⟩
  | cons criterion criteria ih =>
    obtain ⟨clause, resolved, ready⟩ := Clause.ready_ofCriterion neutral (accepted criterion List.mem_cons_self)
    obtain ⟨written, sound⟩ := Bindings.bind_pieces ready bindings
    obtain ⟨groups, last, texts, names, others⟩ :=
      ih (fun c mem => accepted c (List.mem_cons_of_mem _ mem)) (bindings.bind clause).2
    refine ⟨clause.pieces (bindings.counter + 1) (criterion.boundValues entity) :: groups, last, ?_, ?_, ?_⟩
    · simp only [conditions, condition, resolved, texts, written, List.map_cons]
    · rw [List.flatMap_cons, names, List.map_cons, Bindings.nameFrom_bind ready]
    · intro parameters within
      -- What the later criteria leave bound has the bindings of this one, and these have the earlier ones.
      obtain ⟨before, rest⟩ := others parameters within
      refine ⟨before.of_bind, fun group mem => ?_⟩
      rcases List.mem_cons.1 mem with rfl | later
      · exact sound parameters before
      · exact rest group later

/-- The order of known sort keys is a text that leaves nothing open. -/
theorem orderText_inert {entity : Entity} (neutral : entity.Neutral) {keys : List SortKey}
    (lawful : ∀ key ∈ keys, Violation.ofSortKey entity key = []) :
    ∃ order, orderText entity keys = .ok order ∧ Inert order := by
  have columns : ∃ texts, (keys.mapM fun key => (sortField entity key).map fun field =>
      field.column ++ " " ++ key.direction.sql) = .ok texts ∧ ∀ text ∈ texts, Inert text := by
    induction keys with
    | nil => exact ⟨[], rfl, by simp⟩
    | cons key keys ih =>
      obtain ⟨field, found⟩ := Violation.sortField_of_ofSortKey (lawful key List.mem_cons_self)
      obtain ⟨texts, written, inert⟩ := ih fun key mem => lawful key (List.mem_cons_of_mem _ mem)
      have column := (neutral.columns field (Entity.mem_of_field? found).1).space
      have direction : Inert key.direction.sql := by cases key.direction <;> decide
      refine ⟨(field.column ++ " " ++ key.direction.sql) :: texts, ?_, ?_⟩
      · rw [List.mapM_cons, written]
        simp only [sortField, found]
        rfl
      · simpa using ⟨column.append direction, inert⟩
  obtain ⟨texts, written, inert⟩ := columns
  refine ⟨", ".intercalate texts, ?_, Inert.intercalate (by decide) inert⟩
  unfold orderText
  rw [written]
  rfl

/-- The pieces of the clause that cuts a page out of a result. -/
def windowPieces (limit offset : Int) : List Piece :=
  [.text "LIMIT ", .placeholder limitName [.integer limit], .text " OFFSET ",
    .placeholder offsetName [.integer offset]]

theorem windowPieces_sound (parameters : Parameters) (limit offset : Int) :
    Piece.Sound (parameters.withWindow limit offset) (windowPieces limit offset) := by
  have isLimit : Placeholder.IsName limitName := ⟨'l', ['i', 'm', 'i', 't'], rfl, rfl, rfl⟩
  have isOffset : Placeholder.IsName offsetName := ⟨'o', ['f', 'f', 's', 'e', 't'], rfl, rfl, rfl⟩
  have boundLimit : (parameters.withWindow limit offset).get? limitName = some (.integer limit) := by
    unfold Parameters.withWindow
    rw [Parameters.get?_insert_other _ _ (by decide), Parameters.get?_insert_self]
  have boundOffset : (parameters.withWindow limit offset).get? offsetName = some (.integer offset) :=
    Parameters.get?_insert_self _ _ _
  have ends : Placeholder.nameEnds
      (Piece.namedText [.text " OFFSET ", .placeholder offsetName [.integer offset]]).toList = true := by
    rw [Piece.namedText_cons, String.toList_append]
    rfl
  exact ⟨by decide, isLimit, ⟨_, boundLimit, Value.fills_integer _⟩, ends, by decide, isOffset,
    ⟨_, boundOffset, Value.fills_integer _⟩, rfl, trivial⟩

/-- A query and the pieces it is written from: its text names the placeholders, the other texts are neutral,
and each name is bound to the values of the placeholder's slots. -/
structure Query.Assembled (query : Query) (pieces : List Piece) : Prop where
  sql : query.sql = Piece.namedText pieces
  neutral : ∀ text, .text text ∈ pieces → Neutral text
  bound : ∀ name values, .placeholder name values ∈ pieces →
    ∃ value, query.parameters.get? name = some value ∧ value.slots = values

theorem Query.Assembled.of_sound {query : Query} {pieces : List Piece} (sql : query.sql = Piece.namedText pieces)
    (sound : Piece.Sound query.parameters pieces) : query.Assembled pieces where
  sql := sql
  neutral _ mem := sound.neutral mem
  bound _ _ mem := by
    obtain ⟨value, bound, fills⟩ := sound.bound mem
    exact ⟨value, bound, fills.slots⟩

namespace Query

theorem keywordText_eq (keyword : String) (pieces rest : List Piece) :
    keywordText keyword (Piece.namedText pieces) ++ (" " ++ Piece.namedText rest) =
      " " ++ Piece.namedText (Piece.clause keyword pieces rest) := by
  unfold keywordText Piece.clause
  split
  · simp
  · simp [Piece.namedText, Piece.named, String.append_assoc]

/-- The pieces of a query: the base, the conditions, the order and the window. -/
def pieces (base : String) (conditions : List (List Piece)) (order : String) (limit offset : Int) :
    List Piece :=
  .text (Text.strip base ++ " ") ::
    Piece.clause "WHERE" ([Piece.text " AND "].intercalate conditions)
      (Piece.clause "ORDER BY" [.text order] (windowPieces limit offset))

theorem namedText_pieces (base : String) (conditions : List (List Piece)) (order : String)
    (limit offset : Int) :
    Piece.namedText (pieces base conditions order limit offset) =
      Text.strip base ++ keywordText "WHERE" (" AND ".intercalate (conditions.map Piece.namedText))
        ++ keywordText "ORDER BY" order ++ paginationText := by
  have spelled : paginationText =
      " " ++ String.join ["LIMIT ", ":" ++ limitName, " OFFSET ", ":" ++ offsetName] := by decide +kernel
  have window : paginationText = " " ++ Piece.namedText (windowPieces limit offset) := spelled
  have ordered : order = Piece.namedText [.text order] := by simp [Piece.namedText, Piece.named]
  rw [window, String.append_assoc, ordered, keywordText_eq, String.append_assoc,
    ← Piece.namedText_intercalate, keywordText_eq, ← ordered]
  simp only [pieces, Piece.namedText_cons, Piece.named, String.append_assoc]

theorem pieces_sound {base : String} (neutral : Neutral base) {conditions : List (List Piece)} {order : String}
    (inert : Inert order) (parameters : Parameters) (limit offset : Int)
    (sound : ∀ condition ∈ conditions, Piece.Sound (parameters.withWindow limit offset) condition) :
    Piece.Sound (parameters.withWindow limit offset) (pieces base conditions order limit offset) := by
  have tested := Piece.Sound.intercalate " AND " (by decide) (by decide) (by decide) sound
  have window := windowPieces_sound parameters limit offset
  have keys : Piece.Sound (parameters.withWindow limit offset) [.text order] := ⟨inert, trivial⟩
  have ordered := Piece.Sound.clause "ORDER BY" (by decide) keys window
  exact ⟨neutral.strip.space, Piece.Sound.clause "WHERE" (by decide) tested ordered⟩

theorem placeholders_pieces (base : String) (conditions : List (List Piece)) (order : String)
    (limit offset : Int) :
    Piece.placeholders (pieces base conditions order limit offset) =
      conditions.flatMap Piece.placeholders
        ++ [(limitName, [.integer limit]), (offsetName, [.integer offset])] := by
  simp only [pieces, Piece.placeholders, Piece.placeholders_clause, Piece.placeholders_intercalate,
    List.nil_append]
  rfl

/-- The query of an accepted request is written from sound pieces. -/
theorem compile_pieces {entity : Entity} (columns : entity.Neutral) {base : String}
    (neutral : Neutral base) {request : Request} (accepted : request.Accepted entity) :
    ∃ query pieces, compile entity base request = .ok query ∧ query.sql = Piece.namedText pieces
      ∧ Piece.Sound query.parameters pieces
      ∧ Piece.placeholders pieces =
        Bindings.nameFrom 1 (request.filters.map (·.boundValues entity))
          ++ [(limitName, [.integer request.limit]), (offsetName, [.integer request.offset])] := by
  obtain ⟨groups, last, texts, names, sound⟩ := conditions_pieces columns accepted.filters .empty
  obtain ⟨order, ordered, inert⟩ := orderText_inert columns accepted.sorts
  have bound := (sound _ (Bindings.within_withWindow last request.limit request.offset)).2
  have compiled : ∃ countSql, compile entity base request =
      .ok ⟨Piece.namedText (pieces base groups order request.limit request.offset), countSql,
        last.parameters.withWindow request.limit request.offset⟩ := by
    unfold compile whereText
    rw [texts, namedText_pieces]
    simp only [ordered]
    exact ⟨_, rfl⟩
  obtain ⟨countSql, compiled⟩ := compiled
  refine ⟨_, _, compiled, rfl, pieces_sound neutral inert _ _ _ bound, ?_⟩
  rw [placeholders_pieces, names]
  rfl

/-- **Placeholders and values line up.** An accepted request has a query, whose positional form gives every
placeholder slots of its own, numbered from left to right, and lists their values in order: those of the
criteria, then the limit and the offset. -/
theorem values_line_up {entity : Entity} (columns : entity.Neutral) {base : String}
    (neutral : Neutral base) {request accepted : Request} (processed : request.process entity = .ok accepted) :
    ∃ query pieces, compile entity base accepted = .ok query ∧ query.Assembled pieces
      ∧ Piece.placeholders pieces =
        Bindings.nameFrom 1 (accepted.filters.map (·.boundValues entity))
          ++ [(limitName, [.integer accepted.limit]), (offsetName, [.integer accepted.offset])]
      ∧ query.statement.positional = .ok ⟨Piece.numberedText 0 pieces,
        accepted.filters.flatMap (·.boundValues entity)
          ++ [.integer accepted.limit, .integer accepted.offset]⟩ := by
  obtain ⟨fits, -⟩ := Request.accepted_of_process processed
  obtain ⟨query, pieces, compiled, written, sound, names⟩ := compile_pieces columns neutral fits
  refine ⟨query, pieces, compiled, .of_sound written sound, names, ?_⟩
  unfold statement
  rw [written, Piece.positional_eq sound, Piece.flatMap_values, names, List.flatMap_append,
    Bindings.flatMap_nameFrom, List.flatMap_def]
  rfl

end Query

namespace Sample

def ordersDeclaration : Declaration :=
  ⟨"Order", some "orders", some "o.id",
    [⟨"customer", "o.customer::text", .string, true, true, none⟩,
      ⟨"tagIds", "o.tag_ids", .collection .integer, true, false,
        some ⟨"order_tags", "order_id", "tag_id"⟩⟩]⟩

theorem fault?_ordersDeclaration : ordersDeclaration.fault? = none := by decide

/-- Orders of a customer, with tags kept in a junction table. -/
def orders : Entity where
  identity := ordersDeclaration.identity
  table := "orders"
  idColumn := ordersDeclaration.idColumn
  fields := ordersDeclaration.fields
  wellFormed := Declaration.wellFormed_of_fault? fault?_ordersDeclaration

theorem orders_neutral : orders.Neutral where
  columns field mem := by
    have all : ∀ field ∈ ordersDeclaration.fields, Inert field.column := by decide
    exact (all field mem).neutral
  idColumn column declared := by
    cases declared
    exact Inert.neutral (by decide)

/-- The orders with one of two tags, of a customer with a quote and a colon in the name. -/
def taggedOrders : Request :=
  { Request.standard with
    filterText := some "customer:notnull,tagIds:in:(3, 11),customer:contains:O':p9"
    sortText := some "customer:desc" }

def taggedOrdersAccepted : Request :=
  { taggedOrders with
    filters :=
      [⟨"customer", .isNotNull, .none, rfl⟩, ⟨"tagIds", .oneOf, .list ["3", "11"], rfl⟩,
        ⟨"customer", .contains, .single "O':p9", rfl⟩]
    sorts := [⟨"customer", .desc⟩] }

end Sample

open Sample in
/-- The two tags take the first two slots, the name the third. -/
theorem Query.values_line_up_taggedOrders :
    orders.Neutral ∧ Neutral "SELECT ':' FROM orders o:"
      ∧ taggedOrders.process orders = .ok taggedOrdersAccepted
      ∧ ∃ query pieces, compile orders "SELECT ':' FROM orders o:" taggedOrdersAccepted = .ok query
        ∧ query.Assembled pieces
        ∧ query.statement.positional = .ok ⟨Piece.numberedText 0 pieces,
          [.integer 3, .integer 11, .text "%O':p9%", .integer 20, .integer 0]⟩ := by
  have neutral : Neutral "SELECT ':' FROM orders o:" := neutral_iff.2 (.inr (by decide))
  have processed : taggedOrders.process orders = .ok taggedOrdersAccepted := by decide +kernel
  obtain ⟨query, pieces, compiled, assembled, -, positional⟩ :=
    values_line_up orders_neutral neutral processed
  exact ⟨orders_neutral, neutral, processed, query, pieces, compiled, assembled, positional⟩

end QueryFilter
