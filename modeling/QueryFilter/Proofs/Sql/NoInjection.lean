/-
No value of a filter gets into the text of a query.

Two requests ask the same when their criteria are on the same fields with the same operators, one by one,
and their sort keys are the same; values, limits and offsets may differ. The clauses of such criteria have
one text (`Clause.ofCriterion_alike`), so the queries and the plans of such requests have one text too, and
fail for one reason. The values show only in how many slots a list takes.
-/
import QueryFilter.Joined.Plan
import QueryFilter.Proofs.Sql.Bound
import QueryFilter.Proofs.Sql.Scan

namespace QueryFilter

/-! ## Criteria with related values -/

/-- Criteria on one field with one operator. -/
structure Criterion.SameTest (c d : Criterion) : Prop where
  field : c.field = d.field
  operator : c.operator = d.operator

/-- Criteria on one field with one operator, which bind related values whatever the field's type. -/
structure Criterion.Alike (R : Value → Value → Prop) (c d : Criterion) : Prop extends c.SameTest d where
  values : ∀ type, Option.Rel R (c.bound? type) (d.bound? type)

/-- Clauses of one text that bind related values. -/
inductive Clause.Alike (R : Value → Value → Prop) : Clause → Clause → Prop where
  | fixed (text : String) : Alike R (.fixed text) (.fixed text)
  | bound (before after : String) {v w : Value} (related : R v w) :
    Alike R (.bound before v after) (.bound before w after)

theorem Criterion.SameTest.arity {c d : Criterion} (same : c.SameTest d) :
    c.operand.arity = d.operand.arity := by
  rw [c.fits, d.fits, same.operator]

section

variable {R : Value → Value → Prop} {c d : Criterion}

theorem Clause.ofColumn_alike (alike : c.Alike R d) (column : String) (type : FieldType) :
    (ofColumn column type c.operator c.operand).Alike R (ofColumn column type d.operator d.operand) := by
  have arity := alike.arity
  have values := alike.values type
  unfold Criterion.bound? at values
  rw [alike.operator] at values ⊢
  revert arity values
  cases c.operand <;> cases d.operand <;> intro arity values
  case none.none => exact .fixed _
  case single.single =>
    cases values with
    | some related => exact .bound _ _ related
  case list.list =>
    cases values with
    | some related => exact .bound _ _ related
  all_goals cases arity

theorem Clause.ofJunction_alike (alike : c.Alike R d) (entity : Entity) (field : EntityField)
    (junction : Junction) :
    SameOutcome (Clause.Alike R) (ofJunction entity field junction c.operator c.operand)
      (ofJunction entity field junction d.operator d.operand) := by
  have arity := alike.arity
  have values := alike.values field.type
  unfold Criterion.bound? at values
  rw [alike.operator] at values ⊢
  unfold ofJunction
  cases entity.idColumn with
  | none => exact .error _
  | some idColumn =>
    simp only
    cases asks : d.operator.membership? with
    | none => exact .error _
    | some membership =>
      rw [Operator.isPattern_of_membership? asks] at values
      simp only
      revert arity values
      cases c.operand <;> cases d.operand <;> intro arity values
      case none.none => exact .error _
      case single.single =>
        cases values with
        | some related => exact .ok (.bound _ _ related)
      case list.list =>
        cases values with
        | some related => exact .ok (.bound _ _ related)
      all_goals cases arity

theorem Clause.ofCriterion_alike (alike : c.Alike R d) (entity : Entity) :
    SameOutcome (Clause.Alike R) (ofCriterion entity c) (ofCriterion entity d) := by
  unfold ofCriterion
  rw [alike.field]
  cases entity.field? d.field with
  | none => exact .error _
  | some field =>
    simp only
    cases field.junction with
    | none => exact .ok (ofColumn_alike alike field.column field.type)
    | some junction => exact ofJunction_alike alike entity field junction

end

/-! ## Conditions with related values -/

/-- Bindings of the same names, as many, to related values. -/
structure Bindings.Alike (R : Value → Value → Prop) (b b' : Bindings) : Prop where
  parameters : b.parameters.Alike R b'.parameters
  counter : b.counter = b'.counter

/-- Outcomes that bind the same names to related values, and are one text or one failure. -/
structure TextAlike (R : Value → Value → Prop) {α : Type} (x y : Except Failure α × Bindings) : Prop where
  outcome : x.1 = y.1
  bindings : x.2.Alike R y.2

section

variable {R : Value → Value → Prop} {b b' : Bindings}

theorem Bindings.Alike.empty : Bindings.empty.Alike R Bindings.empty := ⟨Parameters.Alike.empty, rfl⟩

theorem Bindings.Alike.bind (h : b.Alike R b') {clause clause' : Clause} (alike : clause.Alike R clause') :
    (b.bind clause).1 = (b'.bind clause').1 ∧ (b.bind clause).2.Alike R (b'.bind clause').2 := by
  cases alike with
  | fixed text => exact ⟨rfl, h⟩
  | bound before after related =>
    simp only [Bindings.bind, h.counter]
    exact ⟨trivial, ⟨h.parameters.insert _ related, rfl⟩⟩

theorem condition_alike {c d : Criterion} (alike : c.Alike R d) (entity : Entity) (h : b.Alike R b') :
    TextAlike R (condition entity c b) (condition entity d b') := by
  have clauses := Clause.ofCriterion_alike alike entity
  unfold condition
  generalize Clause.ofCriterion entity c = x, Clause.ofCriterion entity d = y at clauses ⊢
  cases clauses with
  | error fault => exact ⟨rfl, h⟩
  | ok related =>
    obtain ⟨text, bindings⟩ := h.bind related
    exact ⟨congrArg Except.ok text, bindings⟩

theorem conditions_alike {cs ds : List Criterion} (alike : List.Forall₂ (Criterion.Alike R) cs ds)
    (entity : Entity) (h : b.Alike R b') :
    TextAlike R (conditions entity cs b) (conditions entity ds b') := by
  induction alike generalizing b b' with
  | nil => exact ⟨rfl, h⟩
  | @cons c d cs ds head _ ih =>
    obtain ⟨outcome, bindings⟩ := condition_alike head entity h
    simp only [conditions]
    generalize condition entity c b = x, condition entity d b' = y at outcome bindings ⊢
    obtain ⟨first, b⟩ := x
    obtain ⟨first', b'⟩ := y
    simp only at outcome bindings
    subst outcome
    cases first with
    | error failure => exact ⟨rfl, bindings⟩
    | ok text =>
      obtain ⟨outcome, bindings⟩ := ih bindings
      simp only
      generalize conditions entity cs b = x, conditions entity ds b' = y at outcome bindings ⊢
      obtain ⟨rest, b⟩ := x
      obtain ⟨rest', b'⟩ := y
      simp only at outcome bindings
      subst outcome
      cases rest with
      | error failure => exact ⟨rfl, bindings⟩
      | ok texts => exact ⟨rfl, bindings⟩

theorem whereText_alike {cs ds : List Criterion} (alike : List.Forall₂ (Criterion.Alike R) cs ds)
    (entity : Entity) (h : b.Alike R b') :
    TextAlike R (whereText entity cs b) (whereText entity ds b') := by
  obtain ⟨outcome, bindings⟩ := conditions_alike alike entity h
  unfold whereText
  generalize conditions entity cs b = x, conditions entity ds b' = y at outcome bindings ⊢
  obtain ⟨texts, b⟩ := x
  obtain ⟨texts', b'⟩ := y
  simp only at outcome bindings
  subst outcome
  cases texts with
  | error failure => exact ⟨rfl, bindings⟩
  | ok texts => exact ⟨rfl, bindings⟩

theorem Parameters.Alike.withWindow {p q : Parameters} (h : p.Alike R q)
    (integers : ∀ m n, R (.integer m) (.integer n)) (limit offset limit' offset' : Int) :
    (p.withWindow limit offset).Alike R (q.withWindow limit' offset') :=
  (h.insert _ (integers limit limit')).insert _ (integers offset offset')

end

/-! ## Requests that ask the same -/

/-- Requests with criteria on the same fields with the same operators, and with the same sort keys. -/
structure Request.SameTests (r s : Request) : Prop where
  filters : List.Forall₂ Criterion.SameTest r.filters s.filters
  sorts : r.sorts = s.sorts

/-- Criteria with as many values, one by one. -/
def Request.SameLengths (r s : Request) : Prop :=
  List.Forall₂ (fun c d => c.operand.values.length = d.operand.values.length) r.filters s.filters

theorem Criterion.SameTest.alike {c d : Criterion} (same : c.SameTest d) :
    c.Alike (fun _ _ => True) d := by
  refine { same with values := fun type => ?_ }
  have arity := same.arity
  unfold Criterion.bound?
  revert arity
  cases c.operand <;> cases d.operand <;> intro arity
  case none.none => exact .none
  case single.single => exact .some trivial
  case list.list => exact .some trivial
  all_goals cases arity

theorem Criterion.SameTest.alike_outline {c d : Criterion} (same : c.SameTest d)
    (lengths : c.operand.values.length = d.operand.values.length) :
    c.Alike Value.SameOutline d := by
  refine { same with values := fun type => ?_ }
  have arity := same.arity
  unfold Criterion.bound?
  rw [same.operator]
  revert arity lengths
  cases c.operand <;> cases d.operand <;> intro lengths arity
  case none.none => exact .none
  case single.single raw raw' =>
    refine .some ?_
    unfold Value.SameOutline Value.outline
    split
    · simp [Value.entries]
    · simp [Value.entries_coerce]
  case list.list raws raws' =>
    refine .some ?_
    unfold Value.SameOutline
    simp only [Operand.values] at lengths
    simp only [Value.outline_coerceList, ← List.length_eq_zero_iff, lengths]
  all_goals cases arity

/-- Queries of one text with related parameters. -/
structure Query.Alike (R : Value → Value → Prop) (q q' : Query) : Prop where
  sql : q.sql = q'.sql
  countSql : q.countSql = q'.countSql
  parameters : q.parameters.Alike R q'.parameters

/-- Plans of one text with related parameters. -/
structure JoinPlan.Alike (R : Value → Value → Prop) (p p' : JoinPlan) : Prop where
  count : p.count.sql = p'.count.sql
  rootIds : p.rootIds.sql = p'.rootIds.sql
  rows : ∀ ids ids', (p.rows ids).sql = (p'.rows ids').sql
  countParameters : p.count.parameters.Alike R p'.count.parameters
  rootIdsParameters : p.rootIds.parameters.Alike R p'.rootIds.parameters

section

variable {R : Value → Value → Prop} {r s : Request}

theorem Query.compile_alike (filters : List.Forall₂ (Criterion.Alike R) r.filters s.filters)
    (sorts : r.sorts = s.sorts) (integers : ∀ m n, R (.integer m) (.integer n)) (entity : Entity)
    (base : String) : SameOutcome (Query.Alike R) (compile entity base r) (compile entity base s) := by
  obtain ⟨outcome, bindings⟩ := whereText_alike filters entity Bindings.Alike.empty
  unfold compile
  rw [sorts]
  generalize whereText entity r.filters .empty = x, whereText entity s.filters .empty = y
    at outcome bindings ⊢
  obtain ⟨result, b⟩ := x
  obtain ⟨result', b'⟩ := y
  simp only at outcome bindings ⊢
  subst outcome
  cases result with
  | error failure => exact .error failure
  | ok conditions =>
    cases orderText entity s.sorts with
    | error failure => exact .error failure
    | ok order => exact .ok ⟨rfl, rfl, bindings.parameters.withWindow integers _ _ _ _⟩

theorem JoinPlan.make_alike (filters : List.Forall₂ (Criterion.Alike R) r.filters s.filters)
    (sorts : r.sorts = s.sorts) (integers : ∀ m n, R (.integer m) (.integer n)) (view : JoinedView)
    (entity : Entity) : SameOutcome (JoinPlan.Alike R) (make view entity r) (make view entity s) := by
  obtain ⟨outcome, bindings⟩ := whereText_alike filters entity Bindings.Alike.empty
  unfold make
  rw [sorts]
  generalize whereText entity r.filters .empty = x, whereText entity s.filters .empty = y
    at outcome bindings ⊢
  obtain ⟨result, b⟩ := x
  obtain ⟨result', b'⟩ := y
  simp only at outcome bindings ⊢
  subst outcome
  cases result with
  | error failure => exact .error failure
  | ok conditions =>
    cases sortColumns entity s.sorts with
    | error failure => exact .error failure
    | ok columns =>
      cases orderText entity s.sorts with
      | error failure => exact .error failure
      | ok order =>
        exact .ok ⟨rfl, rfl, fun _ _ => rfl, bindings.parameters,
          bindings.parameters.withWindow integers _ _ _ _⟩

end

/-! ## The positional forms -/

/-- Positional forms of one text, or failures for want of one parameter. -/
inductive Positional.SameText : Except Failure Positional → Except Failure Positional → Prop where
  | text {p q : Positional} (same : p.sql = q.sql) : SameText (.ok p) (.ok q)
  | unbound (name : String) :
    SameText (.error (.unboundParameter name)) (.error (.unboundParameter name))

theorem Statement.sameText_of_alike (sql : String) {p q : Parameters} (alike : p.Alike Value.SameOutline q) :
    Positional.SameText (positional ⟨sql, p⟩) (positional ⟨sql, q⟩) := by
  have outcome := positional_alike sql alike
  generalize hx : positional ⟨sql, p⟩ = x, positional ⟨sql, q⟩ = y at outcome ⊢
  cases outcome with
  | ok same => exact .text same
  | error failure =>
    obtain ⟨name, rfl⟩ := positional_eq_error hx
    exact .unbound name

theorem Query.Alike.sameText {q q' : Query} (alike : q.Alike Value.SameOutline q') :
    Positional.SameText q.statement.positional q'.statement.positional ∧
      Positional.SameText q.countStatement.positional q'.countStatement.positional := by
  unfold statement countStatement
  rw [alike.sql, alike.countSql]
  exact ⟨Statement.sameText_of_alike _ alike.parameters,
    Statement.sameText_of_alike _ (alike.parameters.without _)⟩

/-- Queries that differ in the values of their parameters alone; given `lengths`, their positional forms are
of one text as well. -/
structure Query.DifferInValues (lengths : Prop) (q q' : Query) : Prop where
  sql : q.sql = q'.sql
  countSql : q.countSql = q'.countSql
  names : q.parameters.names = q'.parameters.names
  positional : lengths → Positional.SameText q.statement.positional q'.statement.positional
  countPositional : lengths → Positional.SameText q.countStatement.positional q'.countStatement.positional

/-- Plans that differ in the values of their parameters alone, whatever ids their rows are asked for. -/
structure JoinPlan.DifferInValues (p p' : JoinPlan) : Prop where
  count : p.count.sql = p'.count.sql
  countNames : p.count.parameters.names = p'.count.parameters.names
  rootIds : p.rootIds.sql = p'.rootIds.sql
  rootIdsNames : p.rootIds.parameters.names = p'.rootIds.parameters.names
  rows : ∀ ids ids', (p.rows ids).sql = (p'.rows ids').sql

theorem Query.Alike.differInValues {R : Value → Value → Prop} {lengths : Prop} {q q' : Query}
    (alike : q.Alike R q') (tight : lengths → q.Alike Value.SameOutline q') :
    q.DifferInValues lengths q' where
  sql := alike.sql
  countSql := alike.countSql
  names := alike.parameters.names
  positional long := (tight long).sameText.1
  countPositional long := (tight long).sameText.2

theorem JoinPlan.Alike.differInValues {R : Value → Value → Prop} {p p' : JoinPlan} (alike : p.Alike R p') :
    p.DifferInValues p' where
  count := alike.count
  countNames := alike.countParameters.names
  rootIds := alike.rootIds
  rootIdsNames := alike.rootIdsParameters.names
  rows := alike.rows

/-- **No value gets into the text.** Requests that ask the same fail in the same way, or give queries and
plans that differ in the values of their parameters alone. -/
theorem values_stay_out_of_text (entity : Entity) (base : String) (view : JoinedView) {r s : Request}
    (same : r.SameTests s) :
    SameOutcome (Query.DifferInValues (r.SameLengths s)) (Query.compile entity base r)
        (Query.compile entity base s) ∧
      SameOutcome JoinPlan.DifferInValues (JoinPlan.make view entity r) (JoinPlan.make view entity s) := by
  have loose := same.filters.imp fun _ _ test => test.alike
  constructor
  · by_cases lengths : r.SameLengths s
    · have tight := List.Forall₂.mp (fun _ _ test length => test.alike_outline length) same.filters lengths
      have compiled := Query.compile_alike tight same.sorts (fun _ _ => rfl) entity base
      exact compiled.imp fun _ _ alike => alike.differInValues fun _ => alike
    · have compiled := Query.compile_alike loose same.sorts (fun _ _ => trivial) entity base
      exact compiled.imp fun _ _ alike => alike.differInValues fun long => absurd long lengths
  · have planned := JoinPlan.make_alike loose same.sorts (fun _ _ => trivial) view entity
    exact planned.imp fun _ _ alike => alike.differInValues

namespace Sample

def usersDeclaration : Declaration :=
  ⟨"User", some "users", some "u.user_id",
    [⟨"lastName", "u.last_name", .string, true, true, none⟩,
      ⟨"roleIds", "u.role_ids", .collection .integer, true, false,
        some ⟨"user_roles", "user_id", "role_id"⟩⟩]⟩

theorem fault?_usersDeclaration : usersDeclaration.fault? = none := by decide

/-- Users with a last name, and with roles kept in a junction table. -/
def users : Entity where
  identity := usersDeclaration.identity
  table := "users"
  idColumn := usersDeclaration.idColumn
  fields := usersDeclaration.fields
  wellFormed := Declaration.wellFormed_of_fault? fault?_usersDeclaration

/-- The users of a last name with one of some roles. -/
def usersNamed (limit : Int) (lastName : String) (roles : List String) : Request :=
  { Request.standard with
    limit
    filters := [⟨"lastName", .contains, .single lastName, rfl⟩, ⟨"roleIds", .oneOf, .list roles, rfl⟩] }

theorem usersNamed_sameTests (limit limit' : Int) (lastName lastName' : String) (roles roles' : List String) :
    (usersNamed limit lastName roles).SameTests (usersNamed limit' lastName' roles') where
  filters := .cons ⟨rfl, rfl⟩ (.cons ⟨rfl, rfl⟩ .nil)
  sorts := rfl

end Sample

open Sample in
/-- A last name that is a statement of its own, and roles that are none, leave the text alone. -/
theorem values_stay_out_of_text_of_statement :
    (usersNamed 5 "'; DROP TABLE users; --" [":p9", "x"]).SameTests (usersNamed 20 "Smith" ["1", "3"]) ∧
      (usersNamed 5 "'; DROP TABLE users; --" [":p9", "x"]).SameLengths (usersNamed 20 "Smith" ["1", "3"]) ∧
      SameOutcome (Query.DifferInValues True)
        (Query.compile users "SELECT * FROM users u" (usersNamed 5 "'; DROP TABLE users; --" [":p9", "x"]))
        (Query.compile users "SELECT * FROM users u" (usersNamed 20 "Smith" ["1", "3"])) ∧
      (Query.compile users "SELECT * FROM users u" (usersNamed 20 "Smith" ["1", "3"])).map (·.countSql) =
        .ok ("SELECT COUNT(*) FROM users u WHERE u.last_name LIKE :p1 AND u.user_id IN (SELECT "
          ++ "\"user_roles\".\"user_id\" FROM \"user_roles\" WHERE \"user_roles\".\"role_id\" IN (:p2))") := by
  have same := usersNamed_sameTests 5 20 "'; DROP TABLE users; --" "Smith" [":p9", "x"] ["1", "3"]
  have long : (usersNamed 5 "'; DROP TABLE users; --" [":p9", "x"]).SameLengths
      (usersNamed 20 "Smith" ["1", "3"]) := .cons rfl (.cons rfl .nil)
  have outcome := (values_stay_out_of_text users "SELECT * FROM users u" ⟨"*", "users u", "u.user_id"⟩ same).1
  refine ⟨same, long, outcome.imp fun _ _ differ => ?_, by decide +kernel⟩
  exact { differ with
    positional := fun _ => differ.positional long
    countPositional := fun _ => differ.countPositional long }

end QueryFilter
