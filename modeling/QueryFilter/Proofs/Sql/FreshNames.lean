/-
Names for the values of conditions.

A condition binds one value to the next name, or nothing, and one that cannot be written leaves everything as it
was. The order in which a name is given out and the values are looked at makes no difference to this
(`condition_eq_inTurn`): the only refusal that could come after a name has been given out is that of values of the
wrong shape, and the values of a criterion fit its operator. So a row of criteria gives its values the names after
the last one given out, in order, up to the first criterion that is refused (`Bindings.names_given_in_order`).
-/
import Mathlib.Data.List.Forall2
import QueryFilter.Proofs.Sql.Conditions

namespace QueryFilter

/-! ## One condition -/

namespace Parameters

theorem without_insert (p : Parameters) (name : String) (value : Value) :
    (p.insert name value).without [name] = p.without [name] := by
  obtain ⟨entries⟩ := p
  unfold insert without
  congr 1
  induction entries with
  | nil => simp [insertEntry]
  | cons entry entries ih =>
    rw [insertEntry]
    split
    · rename_i same
      simp [same]
    · rw [List.filter_cons, List.filter_cons, ih]

end Parameters

namespace Bindings

/-- Bindings that have gone on from others by one value: it is bound to the next name, which takes its old place
or the last one, and all else is as it was. -/
structure BindsNext (bindings : Bindings) (value : Value) (last : Bindings) : Prop where
  counter : last.counter = bindings.counter + 1
  bound : last.parameters.get? (name last.counter) = some value
  names : last.parameters.names =
    if name last.counter ∈ bindings.parameters.names then bindings.parameters.names
    else bindings.parameters.names ++ [name last.counter]
  others : last.parameters.without [name last.counter] = bindings.parameters.without [name last.counter]

theorem bindsNext_insert (bindings : Bindings) (value : Value) :
    bindings.BindsNext value
      ⟨bindings.parameters.insert (name (bindings.counter + 1)) value, bindings.counter + 1⟩ where
  counter := rfl
  bound := Parameters.get?_insert_self _ _ _
  names := Parameters.names_insert _ _ _
  others := Parameters.without_insert _ _ _

/-- The bindings with the next name given out, and nothing bound to it yet. -/
def giveOut (bindings : Bindings) : String × Bindings :=
  (name (bindings.counter + 1), { bindings with counter := bindings.counter + 1 })

/-- The bindings with a value bound to a name given out before. -/
def assign (bindings : Bindings) (given : String) (value : Value) : Bindings :=
  { bindings with parameters := bindings.parameters.insert given value }

end Bindings

/-- The condition on the related identifiers of a junction field, for an operator that asks for membership: a name
is given out first and the values are looked at after. -/
def membershipInTurn (criterion : Criterion) (field : EntityField) (junction : Junction)
    (idColumn membership : String) (bindings : Bindings) : Except Failure String × Bindings :=
  let text := Clause.junctionText idColumn membership junction
  let (given, bindings) := bindings.giveOut
  match criterion.operand with
  | .single raw =>
    if criterion.operator.isList then
      (.error (ClauseFault.noUsableValue criterion.operator field.name).failure, bindings)
    else (.ok (text ++ "= :" ++ given ++ ")"), bindings.assign given (Value.coerce field.type raw))
  | .list raws =>
    if criterion.operator.isList then
      (.ok (text ++ "IN (:" ++ given ++ "))"), bindings.assign given (Value.coerceList field.type raws))
    else (.error (ClauseFault.noUsableValue criterion.operator field.name).failure, bindings)
  | .none => (.error (ClauseFault.noUsableValue criterion.operator field.name).failure, bindings)

/-- The condition of a criterion, step by step. -/
def conditionInTurn (entity : Entity) (criterion : Criterion) (bindings : Bindings) :
    Except Failure String × Bindings :=
  match entity.field? criterion.field with
  | none => (.error (ClauseFault.unknownFilterField criterion.field).failure, bindings)
  | some field =>
    match field.junction with
    | some junction =>
      match entity.idColumn with
      | none => (.error (ClauseFault.idColumnMissing entity.identity field.name).failure, bindings)
      | some idColumn =>
        match criterion.operator.membership? with
        | none => (.error (ClauseFault.relationOperator criterion.operator field.name).failure, bindings)
        | some membership => membershipInTurn criterion field junction idColumn membership bindings
    | none =>
      let test := field.column ++ " " ++ criterion.operator.sql
      match criterion.operand with
      | .none => (.ok test, bindings)
      | .single raw =>
        let (given, bindings) := bindings.giveOut
        let value :=
          if criterion.operator.isPattern then .text (criterion.operator.pattern raw)
          else Value.coerce field.type raw
        (.ok (test ++ " :" ++ given), bindings.assign given value)
      | .list raws =>
        let (given, bindings) := bindings.giveOut
        (.ok (test ++ " (:" ++ given ++ ")"), bindings.assign given (Value.coerceList field.type raws))

theorem Criterion.isList_eq (criterion : Criterion) :
    criterion.operator.isList = decide (criterion.operand.arity = .list) := by
  unfold Operator.isList
  rw [criterion.fits]

theorem condition_eq_inTurn (entity : Entity) (criterion : Criterion) (bindings : Bindings) :
    condition entity criterion bindings = conditionInTurn entity criterion bindings := by
  unfold condition conditionInTurn Clause.ofCriterion
  cases entity.field? criterion.field with
  | none => rfl
  | some field =>
    simp only
    cases field.junction with
    | none =>
      simp only [Clause.ofColumn]
      cases criterion.operand <;> simp [Bindings.bind, Bindings.giveOut, Bindings.assign, String.append_assoc]
    | some junction =>
      simp only [Clause.ofJunction]
      cases entity.idColumn with
      | none => rfl
      | some idColumn =>
        simp only
        cases asks : criterion.operator.membership? with
        | none => rfl
        | some membership =>
          -- Values of the wrong shape would be refused with the name given out already, but these fit.
          have fits := criterion.fits
          unfold membershipInTurn
          rw [criterion.isList_eq]
          cases operand : criterion.operand with
          | none =>
            rw [operand] at fits
            exact absurd fits.symm (Operator.arity_of_membership? asks)
          | single raw => simp [Operand.arity, Bindings.bind, Bindings.giveOut, Bindings.assign, String.append_assoc]
          | list raws => simp [Operand.arity, Bindings.bind, Bindings.giveOut, Bindings.assign, String.append_assoc]

theorem Criterion.isSome_bound? (criterion : Criterion) (type : FieldType) :
    (criterion.bound? type).isSome = !criterion.operator.isNullCheck := by
  unfold bound? Operator.isNullCheck
  rw [← criterion.fits]
  cases criterion.operand <;> rfl

theorem Bindings.bindsNext_bind {clause : Clause} {value : Value} (takes : clause.value? = some value)
    (bindings : Bindings) : bindings.BindsNext value (bindings.bind clause).2 := by
  cases clause with
  | fixed text => cases takes
  | bound before value after =>
    cases takes
    exact bindings.bindsNext_insert value

theorem Bindings.bind_of_value?_eq_none {clause : Clause} (plain : clause.value? = none) (bindings : Bindings) :
    (bindings.bind clause).2 = bindings := by
  cases clause with
  | fixed text => rfl
  | bound before value after => cases plain

section

variable {entity : Entity} {criterion : Criterion} {criteria : List Criterion} {bindings last : Bindings}
  {text : String} {failure : Failure}

theorem Clause.isSome_value? {clause : Clause} (resolved : ofCriterion entity criterion = .ok clause) :
    clause.value?.isSome = !criterion.operator.isNullCheck := by
  rw [value?_ofCriterion resolved]
  unfold Criterion.boundIn?
  cases found : entity.field? criterion.field with
  | none =>
    unfold ofCriterion at resolved
    rw [found] at resolved
    cases resolved
  | some field => exact criterion.isSome_bound? field.type

/-- A criterion that is refused leaves the bindings as they were. -/
theorem eq_of_condition_error (refused : condition entity criterion bindings = (.error failure, last)) :
    last = bindings := by
  unfold condition at refused
  split at refused
  · cases refused
    rfl
  · cases refused

/-- A criterion that is written binds its value to the next name, and a null check binds nothing. -/
theorem takes_of_condition_ok (written : condition entity criterion bindings = (.ok text, last)) :
    if criterion.operator.isNullCheck then last = bindings
    else ∃ value, criterion.boundIn? entity = some value ∧ bindings.BindsNext value last := by
  obtain ⟨clause, resolved, bound⟩ := condition_eq_ok_iff.1 written
  have after : (bindings.bind clause).2 = last := by rw [bound]
  have takes := Clause.isSome_value? resolved
  rw [← Clause.value?_ofCriterion resolved, ← after]
  cases value : clause.value? with
  | none =>
    have null : criterion.operator.isNullCheck = true := by simpa [value] using takes
    rw [if_pos null]
    exact Bindings.bind_of_value?_eq_none value bindings
  | some v =>
    have other : criterion.operator.isNullCheck = false := by simpa [value] using takes
    rw [other, if_neg Bool.false_ne_true]
    exact ⟨v, rfl, Bindings.bindsNext_bind value bindings⟩

/-! ## A row of criteria -/

/-- The texts of clauses whose values take the names from a number on. -/
def Clause.textsFrom (n : Nat) : List Clause → List String
  | [] => []
  | .fixed text :: clauses => text :: textsFrom n clauses
  | .bound before _ after :: clauses => (before ++ ":" ++ Bindings.name n ++ after) :: textsFrom (n + 1) clauses

theorem Clause.textsFrom_cons (clause : Clause) (clauses : List Clause) (bindings : Bindings) :
    textsFrom (bindings.counter + 1) (clause :: clauses) =
      (bindings.bind clause).1 :: textsFrom ((bindings.bind clause).2.counter + 1) clauses := by
  cases clause <;> rfl

/-- The texts of criteria are those of their clauses, with the names in order. -/
theorem exists_clauses_of_conditions {texts : List String}
    (written : conditions entity criteria bindings = (.ok texts, last)) :
    ∃ clauses, List.Forall₂ (fun criterion clause => Clause.ofCriterion entity criterion = .ok clause) criteria clauses
      ∧ texts = Clause.textsFrom (bindings.counter + 1) clauses := by
  induction criteria generalizing bindings texts with
  | nil =>
    cases written
    exact ⟨[], .nil, rfl⟩
  | cons criterion criteria ih =>
    obtain ⟨text, rest, middle, here, later, rfl⟩ := conditions_cons_eq_ok_iff.1 written
    obtain ⟨clause, resolved, bound⟩ := condition_eq_ok_iff.1 here
    obtain ⟨clauses, others, rfl⟩ := ih later
    exact ⟨clause :: clauses, .cons resolved others, by rw [Clause.textsFrom_cons, bound]⟩

/-- Criteria that are written bind as many values as there are operators other than null checks. -/
theorem length_boundIn? {texts : List String} (written : conditions entity criteria bindings = (.ok texts, last)) :
    (criteria.filterMap (·.boundIn? entity)).length = criteria.countP (!·.operator.isNullCheck) := by
  obtain ⟨clauses, resolved, -⟩ := exists_clauses_of_conditions written
  clear written
  induction resolved with
  | nil => rfl
  | @cons criterion clause _ _ here _ ih =>
    have takes := Clause.isSome_value? here
    rw [Clause.value?_ofCriterion here] at takes
    rw [List.countP_cons, ← takes, ← ih]
    cases value : criterion.boundIn? entity with
    | none => simp [value]
    | some v => simp [value]

/-- Criteria are refused with the first of them that is, and bind what those before it do. -/
theorem exists_of_conditions_error (refused : conditions entity criteria bindings = (.error failure, last)) :
    ∃ before criterion after texts, criteria = before ++ criterion :: after
      ∧ conditions entity before bindings = (.ok texts, last)
      ∧ condition entity criterion last = (.error failure, last) := by
  induction criteria generalizing bindings with
  | nil => cases refused
  | cons criterion criteria ih =>
    rw [conditions] at refused
    cases here : condition entity criterion bindings with
    | mk outcome middle =>
      rw [here] at refused
      cases outcome with
      | error fault =>
        cases refused
        -- The first criterion is refused, so what it leaves is what there was at the beginning.
        have same := eq_of_condition_error here
        subst same
        exact ⟨[], criterion, criteria, [], rfl, rfl, here⟩
      | ok text =>
        simp only at refused
        have later : conditions entity criteria middle = (.error failure, last) := by
          split at refused
          · rename_i failed
            cases refused
            exact failed
          · cases refused
        obtain ⟨before, refusedOne, after, texts, rfl, written, fault⟩ := ih later
        exact ⟨criterion :: before, refusedOne, after, text :: texts, rfl,
          conditions_cons_eq_ok_iff.2 ⟨text, texts, middle, here, written, rfl⟩, fault⟩

end

namespace Bindings

/-- What criteria have done that were all written: their values are bound to the next names, in order, behind what
was bound before, and each condition stands in the text with the name of its value. -/
structure Wrote (bindings : Bindings) (entity : Entity) (criteria : List Criterion) (text : String)
    (last : Bindings) : Prop where
  entries : last.parameters.entries =
    bindings.parameters.entries ++ entriesFrom (bindings.counter + 1) (criteria.filterMap (·.boundIn? entity))
  values : (criteria.filterMap (·.boundIn? entity)).length = criteria.countP (!·.operator.isNullCheck)
  counter : last.counter = bindings.counter + criteria.countP (!·.operator.isNullCheck)
  fresh : last.Fresh
  text : ∃ clauses,
    List.Forall₂ (fun criterion clause => Clause.ofCriterion entity criterion = .ok clause) criteria clauses
      ∧ text = " AND ".intercalate (Clause.textsFrom (bindings.counter + 1) clauses)

/-- What criteria have done of which one was refused: those before it were written, and it changed nothing. -/
def Refused (bindings : Bindings) (entity : Entity) (criteria : List Criterion) (failure : Failure)
    (last : Bindings) : Prop :=
  ∃ before criterion after text, criteria = before ++ criterion :: after
    ∧ whereText entity before bindings = (.ok text, last)
    ∧ condition entity criterion last = (.error failure, last)

variable {entity : Entity} {criteria : List Criterion} {bindings last : Bindings}

theorem wrote_of_whereText {text : String} (fresh : bindings.Fresh)
    (written : whereText entity criteria bindings = (.ok text, last)) :
    bindings.Wrote entity criteria text last := by
  obtain ⟨texts, made, rfl⟩ := whereText_eq_ok_iff.1 written
  have extended := conditions_extends fresh made
  have values := length_boundIn? made
  obtain ⟨clauses, resolved, rfl⟩ := exists_clauses_of_conditions made
  exact {
    entries := extended.entries
    values := values
    counter := values ▸ extended.counter
    fresh := extended.fresh fresh
    text := ⟨clauses, resolved, rfl⟩ }

theorem refused_of_whereText {failure : Failure}
    (refused : whereText entity criteria bindings = (.error failure, last)) :
    bindings.Refused entity criteria failure last := by
  have made : conditions entity criteria bindings = (.error failure, last) := by
    unfold whereText at refused
    split at refused
    · rename_i failed
      cases refused
      exact failed
    · cases refused
  obtain ⟨before, criterion, after, texts, split, written, fault⟩ := exists_of_conditions_error made
  exact ⟨before, criterion, after, _, split, whereText_eq_ok_iff.2 ⟨texts, written, rfl⟩, fault⟩

/-- **Names are given in order, and a refusal takes none.** A criterion that is refused changes nothing, a null
check that is written changes nothing, and any other binds its value to the next name and leaves the rest alone;
and it is the same if the name is given out before the values are looked at. So criteria that are all written
append their values under the next names, if these are free, and the i-th value stands in the text under the i-th
of them. Otherwise the bindings are those after the criteria before the first that is refused, and the refusal is
that criterion's. -/
theorem names_given_in_order (entity : Entity) (bindings : Bindings) :
    (∀ criterion, condition entity criterion bindings = conditionInTurn entity criterion bindings
      ∧ match condition entity criterion bindings with
        | (.error _, last) => last = bindings
        | (.ok _, last) =>
          if criterion.operator.isNullCheck then last = bindings
          else ∃ value, criterion.boundIn? entity = some value ∧ bindings.BindsNext value last)
    ∧ ∀ criteria, match whereText entity criteria bindings with
      | (.ok text, last) => bindings.Fresh → bindings.Wrote entity criteria text last
      | (.error failure, last) => bindings.Refused entity criteria failure last := by
  refine ⟨fun criterion => ⟨condition_eq_inTurn entity criterion bindings, ?_⟩, fun criteria => ?_⟩
  · cases here : condition entity criterion bindings with
    | mk outcome last =>
      cases outcome with
      | error failure => exact eq_of_condition_error here
      | ok text => exact takes_of_condition_ok here
  · cases here : whereText entity criteria bindings with
    | mk outcome last =>
      cases outcome with
      | error failure => exact refused_of_whereText here
      | ok text => exact fun fresh => wrote_of_whereText fresh here

end Bindings

namespace Sample

/-- Bindings of which three names were given out, one of them still bound, with a limit among them. -/
def resumed : Bindings :=
  ⟨⟨[("limit", .integer 20), ("p1", .text "kept")]⟩, 3⟩

/-- Orders with a tag, and with a pattern on their tags. -/
def tagPattern : List Criterion :=
  [⟨"tagIds", .eq, .single "3", rfl⟩, ⟨"tagIds", .contains, .single "7", rfl⟩]

theorem resumed_fresh : resumed.Fresh := by
  intro k later bound
  have named : Bindings.name k = limitName ∨ Bindings.name k = Bindings.name 1 := by
    rcases List.mem_cons.1 bound with same | rest
    · exact .inl same
    · exact .inr (List.mem_singleton.1 rest)
  rcases named with window | early
  · exact Bindings.name_ne (by decide) k window
  · have equal := Bindings.name_injective early
    have counter : resumed.counter = 3 := rfl
    omega

end Sample

open Sample in
/-- The tags take p4 and the name p5; where a pattern on the tags is refused, p4 is all that was taken. -/
theorem Bindings.names_given_in_order_resumed :
    resumed.Fresh
      ∧ (∃ text last, whereText orders taggedOrdersAccepted.filters resumed = (.ok text, last)
        ∧ last.parameters.names = ["limit", "p1", "p4", "p5"]
        ∧ resumed.Wrote orders taggedOrdersAccepted.filters text last)
      ∧ ∃ failure last, whereText orders tagPattern resumed = (.error failure, last)
        ∧ last.parameters.names = ["limit", "p1", "p4"]
        ∧ resumed.Refused orders tagPattern failure last := by
  have given := (names_given_in_order orders resumed).2
  refine ⟨resumed_fresh, ⟨_, _, rfl, rfl, ?_⟩, _, _, rfl, rfl, ?_⟩
  · exact given taggedOrdersAccepted.filters resumed_fresh
  · exact given tagPattern

end QueryFilter
