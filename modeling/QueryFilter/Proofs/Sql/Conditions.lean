/-
What the conditions of criteria bind.

A criterion that takes a value binds it to the next name, so criteria bind their values in order
(`conditions_extends`), provided no name still to be given out is bound already. A query starts from nothing: its
parameters are the values of its criteria under p1, p2 and so on, and behind them its window
(`entries_withWindow`); without the window they are what its conditions bound (`without_withWindow`).
-/
import QueryFilter.Proofs.Sql.Assembly

namespace QueryFilter

/-- The value a criterion binds in a query on an entity, if it takes any. -/
def Criterion.boundIn? (entity : Entity) (criterion : Criterion) : Option Value :=
  (entity.field? criterion.field).bind fun field => criterion.bound? field.type

/-- The value a clause has a placeholder for. -/
def Clause.value? : Clause → Option Value
  | .fixed _ => none
  | .bound _ value _ => some value

namespace Clause

variable {entity : Entity} {criterion : Criterion} {clause : Clause}

theorem value?_ofColumn (column : String) (type : FieldType) (criterion : Criterion) :
    (ofColumn column type criterion.operator criterion.operand).value? = criterion.bound? type := by
  unfold ofColumn Criterion.bound?
  cases criterion.operand <;> rfl

theorem value?_ofJunction {field : EntityField} {junction : Junction}
    (resolved : ofJunction entity field junction criterion.operator criterion.operand = .ok clause) :
    clause.value? = criterion.bound? field.type := by
  unfold ofJunction at resolved
  split at resolved
  · cases resolved
  · split at resolved
    · cases resolved
    · rename_i membership asks
      have plain := Operator.isPattern_of_membership? asks
      unfold Criterion.bound?
      cases operand : criterion.operand with
      | none =>
        rw [operand] at resolved
        cases resolved
      | single raw =>
        rw [operand] at resolved
        cases resolved
        simp [value?, plain]
      | list raws =>
        rw [operand] at resolved
        cases resolved
        rfl

/-- A clause has a placeholder for the value its criterion binds, and for nothing else. -/
theorem value?_ofCriterion (resolved : ofCriterion entity criterion = .ok clause) :
    clause.value? = criterion.boundIn? entity := by
  unfold ofCriterion at resolved
  unfold Criterion.boundIn?
  split at resolved
  · cases resolved
  · rename_i field found
    rw [found, Option.bind_some]
    split at resolved
    · exact value?_ofJunction resolved
    · cases resolved
      exact value?_ofColumn field.column field.type criterion

end Clause

/-! ## Opening a run of criteria -/

section

variable {entity : Entity} {criterion : Criterion} {criteria : List Criterion} {bindings last : Bindings}

theorem condition_eq_ok_iff {text : String} :
    condition entity criterion bindings = (.ok text, last) ↔
      ∃ clause, Clause.ofCriterion entity criterion = .ok clause ∧ bindings.bind clause = (text, last) := by
  unfold condition
  cases Clause.ofCriterion entity criterion with
  | error fault => simp
  | ok clause => simp [Prod.ext_iff]

theorem conditions_cons_eq_ok_iff {texts : List String} :
    conditions entity (criterion :: criteria) bindings = (.ok texts, last) ↔
      ∃ text rest middle, condition entity criterion bindings = (.ok text, middle)
        ∧ conditions entity criteria middle = (.ok rest, last) ∧ texts = text :: rest := by
  rw [conditions]
  cases condition entity criterion bindings with
  | mk outcome middle =>
    cases outcome with
    | error failure => simp
    | ok text =>
      simp only [Prod.mk.injEq, Except.ok.injEq]
      cases later : conditions entity criteria middle with
      | mk outcome after =>
        cases outcome with
        | error failure =>
          constructor
          · intro written
            cases written
          · rintro ⟨_, _, _, ⟨rfl, rfl⟩, others, rfl⟩
            rw [later] at others
            cases others
        | ok rest =>
          constructor
          · intro written
            cases written
            exact ⟨text, rest, middle, ⟨rfl, rfl⟩, later, rfl⟩
          · rintro ⟨_, _, _, ⟨rfl, rfl⟩, others, rfl⟩
            rw [later] at others
            cases others
            rfl

theorem whereText_eq_ok_iff {text : String} :
    whereText entity criteria bindings = (.ok text, last) ↔
      ∃ texts, conditions entity criteria bindings = (.ok texts, last) ∧ text = " AND ".intercalate texts := by
  unfold whereText
  cases conditions entity criteria bindings with
  | mk outcome after =>
    cases outcome with
    | error failure => simp
    | ok texts =>
      simp only [Prod.mk.injEq, Except.ok.injEq]
      constructor
      · rintro ⟨rfl, rfl⟩
        exact ⟨texts, ⟨rfl, rfl⟩, rfl⟩
      · rintro ⟨_, ⟨rfl, rfl⟩, rfl⟩
        exact ⟨rfl, rfl⟩

theorem length_conditions {texts : List String} (written : conditions entity criteria bindings = (.ok texts, last)) :
    texts.length = criteria.length := by
  induction criteria generalizing bindings texts with
  | nil =>
    cases written
    rfl
  | cons criterion criteria ih =>
    obtain ⟨_, rest, _, -, later, rfl⟩ := conditions_cons_eq_ok_iff.1 written
    rw [List.length_cons, List.length_cons, ih later]

end

/-! ## Names in order -/

namespace Parameters

theorem entries_insert_new {p : Parameters} {name : String} (absent : name ∉ p.names) (value : Value) :
    (p.insert name value).entries = p.entries ++ [(name, value)] := by
  obtain ⟨entries⟩ := p
  unfold names at absent
  unfold insert
  induction entries with
  | nil => rfl
  | cons entry entries ih =>
    rw [List.map_cons, List.mem_cons, not_or] at absent
    simp only [insertEntry, if_neg (Ne.symm absent.1)]
    exact congrArg (entry :: ·) (ih absent.2)

end Parameters

namespace Bindings

/-- Values under the names from a number on. -/
def entriesFrom (n : Nat) : List Value → List (String × Value)
  | [] => []
  | value :: values => (name n, value) :: entriesFrom (n + 1) values

theorem entriesFrom_append (n : Nat) (values others : List Value) :
    entriesFrom n (values ++ others) = entriesFrom n values ++ entriesFrom (n + values.length) others := by
  induction values generalizing n with
  | nil => rfl
  | cons value values ih =>
    rw [List.cons_append, entriesFrom, ih, entriesFrom, List.cons_append, List.length_cons]
    congr 3
    omega

theorem exists_of_mem_entriesFrom {n : Nat} {values : List Value} {entry : String × Value}
    (mem : entry ∈ entriesFrom n values) : ∃ k, n ≤ k ∧ k < n + values.length ∧ entry.1 = name k := by
  induction values generalizing n with
  | nil => cases mem
  | cons value values ih =>
    rcases List.mem_cons.1 mem with rfl | later
    · exact ⟨n, Nat.le_refl n, by simp, rfl⟩
    · obtain ⟨k, low, high, same⟩ := ih later
      rw [List.length_cons]
      exact ⟨k, by omega, by omega, same⟩

/-- The names still to be given out are not bound. -/
def Fresh (bindings : Bindings) : Prop :=
  ∀ k, bindings.counter < k → name k ∉ bindings.parameters.names

/-- Bindings that have gone on from others, with values bound to the next names. -/
structure Extends (bindings : Bindings) (values : List Value) (last : Bindings) : Prop where
  entries : last.parameters.entries =
    bindings.parameters.entries ++ entriesFrom (bindings.counter + 1) values
  counter : last.counter = bindings.counter + values.length

variable {bindings middle last : Bindings} {values others : List Value}

theorem fresh_empty : Fresh .empty := fun _ _ => List.not_mem_nil

theorem Extends.refl (bindings : Bindings) : bindings.Extends [] bindings where
  entries := (List.append_nil _).symm
  counter := rfl

theorem Extends.trans (first : bindings.Extends values middle) (then' : middle.Extends others last) :
    bindings.Extends (values ++ others) last where
  entries := by
    rw [then'.entries, first.entries, first.counter, entriesFrom_append, List.append_assoc]
    congr 3
    omega
  counter := by
    rw [then'.counter, first.counter, List.length_append]
    omega

theorem Extends.fresh (extended : bindings.Extends values last) (fresh : bindings.Fresh) : last.Fresh := by
  intro k later bound
  obtain ⟨entry, mem, same⟩ := List.mem_map.1 bound
  rw [extended.entries, List.mem_append] at mem
  have counter := extended.counter
  rcases mem with earlier | new
  · exact fresh k (by omega) (List.mem_map.2 ⟨entry, earlier, same⟩)
  · -- A new name is among those given out meanwhile.
    obtain ⟨n, -, high, named⟩ := exists_of_mem_entriesFrom new
    have equal := name_injective (named.symm.trans same)
    omega

/-- Binding a clause gives its value the next name. -/
theorem bind_extends (fresh : bindings.Fresh) (clause : Clause) :
    bindings.Extends clause.value?.toList (bindings.bind clause).2 := by
  cases clause with
  | fixed text => exact Extends.refl bindings
  | bound before value after =>
    have absent := fresh (bindings.counter + 1) (Nat.lt_succ_self _)
    exact ⟨Parameters.entries_insert_new absent value, rfl⟩

end Bindings

/-- Criteria bind their values to the next names, in order. -/
theorem conditions_extends {entity : Entity} {criteria : List Criterion} {bindings last : Bindings}
    {texts : List String} (fresh : bindings.Fresh)
    (written : conditions entity criteria bindings = (.ok texts, last)) :
    bindings.Extends (criteria.filterMap (·.boundIn? entity)) last := by
  induction criteria generalizing bindings texts with
  | nil =>
    cases written
    exact .refl _
  | cons criterion criteria ih =>
    obtain ⟨text, rest, middle, here, later, rfl⟩ := conditions_cons_eq_ok_iff.1 written
    obtain ⟨clause, resolved, bound⟩ := condition_eq_ok_iff.1 here
    have first := Bindings.bind_extends fresh clause
    rw [bound, Clause.value?_ofCriterion resolved] at first
    have others := ih (first.fresh fresh) later
    have both := first.trans others
    cases value : criterion.boundIn? entity with
    | none => simpa [List.filterMap_cons_none value, value] using both
    | some value' => simpa [List.filterMap_cons_some value, value] using both

/-- The parameters of criteria that start from nothing. -/
theorem entries_whereText {entity : Entity} {criteria : List Criterion} {bindings : Bindings} {text : String}
    (written : whereText entity criteria .empty = (.ok text, bindings)) :
    bindings.parameters.entries = Bindings.entriesFrom 1 (criteria.filterMap (·.boundIn? entity)) := by
  obtain ⟨texts, written, -⟩ := whereText_eq_ok_iff.1 written
  exact (conditions_extends Bindings.fresh_empty written).entries

/-! ## The window -/

namespace Parameters

/-- Parameters that do not bind the names of a window. -/
structure Windowless (p : Parameters) : Prop where
  limit : limitName ∉ p.names
  offset : offsetName ∉ p.names

variable {p : Parameters}

theorem windowless_of_entriesFrom {n : Nat} {values : List Value}
    (numbered : p.entries = Bindings.entriesFrom n values) : p.Windowless := by
  have other : ∀ name : String, name.toList.head? ≠ some 'p' → name ∉ p.names := by
    intro name first bound
    obtain ⟨entry, mem, same⟩ := List.mem_map.1 bound
    rw [numbered] at mem
    obtain ⟨k, -, -, named⟩ := Bindings.exists_of_mem_entriesFrom mem
    exact Bindings.name_ne first k (named.symm.trans same)
  exact ⟨other _ (by decide), other _ (by decide)⟩

/-- A window stands behind what was bound before it. -/
theorem entries_withWindow (windowless : p.Windowless) (limit offset : Int) :
    (p.withWindow limit offset).entries =
      p.entries ++ [(limitName, .integer limit), (offsetName, .integer offset)] := by
  have limited := entries_insert_new windowless.limit (.integer limit)
  have absent : offsetName ∉ (p.insert limitName (.integer limit)).names := by
    unfold names
    rw [limited, List.map_append, List.mem_append, not_or]
    exact ⟨windowless.offset, by simp [limitName, offsetName]⟩
  unfold withWindow
  rw [entries_insert_new absent, limited, List.append_assoc]
  rfl

/-- Without its window, a statement is left with what was bound before. -/
theorem without_withWindow (windowless : p.Windowless) (limit offset : Int) :
    (p.withWindow limit offset).without [limitName, offsetName] = p := by
  have kept : p.entries.filter (fun entry => !([limitName, offsetName].contains entry.1)) = p.entries := by
    refine List.filter_eq_self.2 fun entry mem => ?_
    have bound : entry.1 ∈ p.names := List.mem_map_of_mem mem
    have notLimit : entry.1 ≠ limitName := fun same => windowless.limit (same ▸ bound)
    have notOffset : entry.1 ≠ offsetName := fun same => windowless.offset (same ▸ bound)
    simp [notLimit, notOffset]
  unfold without
  rw [entries_withWindow windowless, List.filter_append, kept]
  simp

end Parameters

/-! ## Queries -/

namespace Query

variable {entity : Entity} {base : String} {request : Request} {query : Query}

theorem compile_eq_ok_iff :
    compile entity base request = .ok query ↔ ∃ conditions bindings order,
      whereText entity request.filters .empty = (.ok conditions, bindings)
        ∧ orderText entity request.sorts = .ok order
        ∧ query = ⟨Text.strip base ++ keywordText "WHERE" conditions ++ keywordText "ORDER BY" order ++ paginationText,
            CountQuery.ofQuery (Text.strip base ++ keywordText "WHERE" conditions),
            bindings.parameters.withWindow request.limit request.offset⟩ := by
  unfold compile
  cases whereText entity request.filters .empty with
  | mk outcome bindings =>
    cases outcome with
    | error failure => simp [bind, Except.bind]
    | ok conditions =>
      cases orderText entity request.sorts with
      | error failure => simp [bind, Except.bind]
      | ok order =>
        simp only [bind, Except.bind, pure, Except.pure, Except.ok.injEq, Prod.mk.injEq]
        constructor
        · intro made
          exact ⟨conditions, bindings, order, ⟨rfl, rfl⟩, rfl, made.symm⟩
        · rintro ⟨_, _, _, ⟨rfl, rfl⟩, rfl, made⟩
          exact made.symm

/-- A query binds the values of its criteria and then its window. -/
theorem entries_compile (compiled : compile entity base request = .ok query) :
    query.parameters.entries = Bindings.entriesFrom 1 (request.filters.filterMap (·.boundIn? entity))
      ++ [(limitName, .integer request.limit), (offsetName, .integer request.offset)] := by
  obtain ⟨conditions, bindings, order, written, -, rfl⟩ := compile_eq_ok_iff.1 compiled
  have numbered := entries_whereText written
  have windowless := Parameters.windowless_of_entriesFrom numbered
  rw [← numbered]
  exact Parameters.entries_withWindow windowless request.limit request.offset

end Query

end QueryFilter
