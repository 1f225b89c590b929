/-
What a lookup and its source say to each other.

A source answers out of a state of its own, so an answer may depend on everything asked before, and it may fail at
any call. `RowSource.recorded` keeps a record of the calls with their answers and is otherwise the same source
(`RootView.run_recorded`). There are seven ways for a lookup to end (`RootView.ends`), and what holds of every
lookup is read off them: a statement is sent only after the ones before it have been answered well, the first
failure is the last thing that happens, and a page is made of all rows answered or of none.
-/
import QueryFilter.Joined.Lookup
import QueryFilter.Proofs.Joined.Occurrences

namespace QueryFilter

/-- A call of a source, with its answer. -/
inductive Call (ρ κ : Type) where
  | count (sent : Statement) (answer : Except Failure Int)
  | rootIds (sent : Statement) (answer : Except Failure (List κ))
  | rows (sent : Statement) (answer : Except Failure (List ρ))

/-- What a source can be asked. -/
inductive Question where
  | count (statement : Statement)
  | rootIds (statement : Statement)
  | rows (statement : Statement)

namespace Call

variable {ρ κ : Type}

def question : Call ρ κ → Question
  | count sent _ => .count sent
  | rootIds sent _ => .rootIds sent
  | rows sent _ => .rows sent

/-- The failure a call was answered with. -/
def failure? : Call ρ κ → Option Failure
  | count _ (.error failure) | rootIds _ (.error failure) | rows _ (.error failure) => some failure
  | _ => none

/-- The rows a call was answered with. -/
def answeredRows : Call ρ κ → List ρ
  | .rows _ (.ok found) => found
  | _ => []

/-- The ids a call was answered with. -/
def answeredIds : Call ρ κ → List κ
  | .rootIds _ (.ok ids) => ids
  | _ => []

end Call

namespace RowSource

variable {σ ρ κ τ : Type}

/-- A question whose answer is put on record. -/
def onRecord (entry : Except Failure τ → Call ρ κ) (ask : ExceptT Failure (StateM σ) τ) :
    ExceptT Failure (StateM (σ × List (Call ρ κ))) τ :=
  ExceptT.mk fun (state, calls) =>
    let (answer, next) := ask.run state
    (answer, next, calls ++ [entry answer])

/-- The source with a record of its calls. -/
def recorded (source : RowSource (StateM σ) ρ κ) : RowSource (StateM (σ × List (Call ρ κ))) ρ κ where
  count statement := onRecord (.count statement) (source.count statement)
  rootIds statement := onRecord (.rootIds statement) (source.rootIds statement)
  rows statement := onRecord (.rows statement) (source.rows statement)

end RowSource

/-! ## Keeping a record -/

section

variable {σ ρ κ τ υ : Type}

/-- Questions are asked in turn, up to the first that fails. -/
theorem run_bind (ask : ExceptT Failure (StateM σ) τ) (next : τ → ExceptT Failure (StateM σ) υ) (state : σ) :
    (ask >>= next).run state =
      match ask.run state with
      | (.ok answer, state) => (next answer).run state
      | (.error failure, state) => (.error failure, state) := by
  change (match ask.run state with | (answer, state) => ExceptT.bindCont next answer state) = _
  rcases ask.run state with ⟨_ | _, _⟩ <;> rfl

theorem run_given (answer : Except Failure τ) (state : σ) :
    (ExceptT.mk (Pure.pure answer) : ExceptT Failure (StateM σ) τ).run state = (answer, state) := rfl

/-- An answer is put on record before the lookup goes on or ends. -/
theorem run_onRecord_bind (entry : Except Failure τ → Call ρ κ) (ask : ExceptT Failure (StateM σ) τ)
    (next : τ → ExceptT Failure (StateM (σ × List (Call ρ κ))) υ) (state : σ) (calls : List (Call ρ κ)) :
    (RowSource.onRecord entry ask >>= next).run (state, calls) =
      match ask.run state with
      | (.ok answer, state) => (next answer).run (state, calls ++ [entry (.ok answer)])
      | (.error failure, state) => (.error failure, state, calls ++ [entry (.error failure)]) := by
  have asked : (RowSource.onRecord entry ask).run (state, calls) =
      ((ask.run state).1, (ask.run state).2, calls ++ [entry (ask.run state).1]) := rfl
  rw [run_bind, asked]
  rcases ask.run state with ⟨_ | _, _⟩ <;> rfl

/-- A run that answers as another one does, and adds to a record meanwhile. -/
def Records (recorded : ExceptT Failure (StateM (σ × List (Call ρ κ))) τ) (plain : ExceptT Failure (StateM σ) τ) :
    Prop :=
  ∀ state calls, ∃ more, recorded.run (state, calls) =
    ((plain.run state).1, (plain.run state).2, calls ++ more)

namespace Records

theorem pure (answer : Except Failure τ) :
    Records (ExceptT.mk (Pure.pure answer) : ExceptT Failure (StateM (σ × List (Call ρ κ))) τ)
      (ExceptT.mk (Pure.pure answer)) :=
  fun _ calls => ⟨[], by rw [List.append_nil]; rfl⟩

theorem onRecord (entry : Except Failure τ → Call ρ κ) (ask : ExceptT Failure (StateM σ) τ) :
    Records (RowSource.onRecord entry ask) ask :=
  fun _ _ => ⟨[_], rfl⟩

theorem bind {recorded : ExceptT Failure (StateM (σ × List (Call ρ κ))) τ} {plain : ExceptT Failure (StateM σ) τ}
    {next : τ → ExceptT Failure (StateM (σ × List (Call ρ κ))) υ} {after : τ → ExceptT Failure (StateM σ) υ}
    (first : Records recorded plain) (others : ∀ answer, Records (next answer) (after answer)) :
    Records (recorded >>= next) (plain >>= after) := by
  intro state calls
  obtain ⟨more, ran⟩ := first state calls
  rw [run_bind, run_bind, ran]
  rcases plain.run state with ⟨failure | answer, reached⟩
  · exact ⟨more, rfl⟩
  · obtain ⟨rest, went⟩ := others answer reached (calls ++ more)
    exact ⟨more ++ rest, by simpa using went⟩

end Records

end

namespace RootView

variable {σ ρ κ α β γ : Type} [DecidableEq κ]

theorem records_findPage (roots : RootView ρ κ α β γ) (source : RowSource (StateM σ) ρ κ) (entity : Entity)
    (request : Request) :
    Records (roots.findPage source.recorded entity request) (roots.findPage source entity request) := by
  refine .bind (.pure _) fun plan => .bind (.onRecord _ _) fun total => ?_
  split
  · exact .pure _
  · refine .bind (.onRecord _ _) fun ids => ?_
    simp only
    split
    · exact .pure _
    · exact .bind (.onRecord _ _) fun rows => .pure _

/-- What a lookup comes to when its source begins in a state. -/
def outcome (roots : RootView ρ κ α β γ) (source : RowSource (StateM σ) ρ κ) (entity : Entity)
    (request : Request) (state : σ) : Except Failure (Page α) :=
  ((roots.findPage source entity request).run state).1

/-- The state a lookup leaves its source in. -/
def reached (roots : RootView ρ κ α β γ) (source : RowSource (StateM σ) ρ κ) (entity : Entity)
    (request : Request) (state : σ) : σ :=
  ((roots.findPage source entity request).run state).2

/-- The calls a lookup makes when its source begins in a state, in order. -/
def calls (roots : RootView ρ κ α β γ) (source : RowSource (StateM σ) ρ κ) (entity : Entity)
    (request : Request) (state : σ) : List (Call ρ κ) :=
  ((roots.findPage source.recorded entity request).run (state, [])).2.2

/-- A record changes nothing but itself. -/
theorem run_recorded (roots : RootView ρ κ α β γ) (source : RowSource (StateM σ) ρ κ) (entity : Entity)
    (request : Request) (state : σ) :
    (roots.findPage source.recorded entity request).run (state, []) =
      (roots.outcome source entity request state, roots.reached source entity request state,
        roots.calls source entity request state) := by
  obtain ⟨more, ran⟩ := roots.records_findPage source entity request state []
  unfold calls
  rw [ran]
  rfl

/-! ## The ends of a lookup -/

/-- The ways a lookup ends: the calls it has made, and what it comes to. -/
inductive Ends (roots : RootView ρ κ α β γ) (request : Request) (plan : JoinPlan) :
    List (Call ρ κ) → Except Failure (Page α) → Prop where
  | countFailed (failure : Failure) :
    Ends roots request plan [.count plan.count (.error failure)] (.error failure)
  | noRoots : Ends roots request plan [.count plan.count (.ok 0)] (.ok (Page.empty 0 request))
  | idsFailed {total : Int} (counted : total ≠ 0) (failure : Failure) :
    Ends roots request plan [.count plan.count (.ok total), .rootIds plan.rootIds (.error failure)]
      (.error failure)
  | noIds {total : Int} (counted : total ≠ 0) :
    Ends roots request plan [.count plan.count (.ok total), .rootIds plan.rootIds (.ok [])]
      (.ok (Page.empty total request))
  | rowsFailed {total : Int} (counted : total ≠ 0) {ids : List κ} (found : ids ≠ []) (failure : Failure) :
    Ends roots request plan
      [.count plan.count (.ok total), .rootIds plan.rootIds (.ok ids),
        .rows (plan.rows ((firstOccurrences ids).map roots.bindId)) (.error failure)]
      (.error failure)
  | page {total : Int} (counted : total ≠ 0) {ids : List κ} (found : ids ≠ []) (rows : List ρ) :
    Ends roots request plan
      [.count plan.count (.ok total), .rootIds plan.rootIds (.ok ids),
        .rows (plan.rows ((firstOccurrences ids).map roots.bindId)) (.ok rows)]
      (.ok (Page.new (Fold.roots roots.ids roots.assembler rows) total request))

theorem ends (roots : RootView ρ κ α β γ) (source : RowSource (StateM σ) ρ κ) {entity : Entity}
    {request : Request} (state : σ) {plan : JoinPlan} (planned : JoinPlan.make roots.view entity request = .ok plan) :
    Ends roots request plan (roots.calls source entity request state)
      (roots.outcome source entity request state) := by
  have ran := roots.run_recorded source entity request state
  unfold findPage at ran
  rw [planned, run_bind, run_given] at ran
  simp only [RowSource.recorded] at ran
  generalize roots.outcome source entity request state = outcome,
    roots.reached source entity request state = reached, roots.calls source entity request state = calls at ran ⊢
  -- Each question either fails and ends the lookup, or is answered and the lookup goes on.
  rw [run_onRecord_bind] at ran
  split at ran
  case h_2 failure state _ =>
    cases ran
    exact .countFailed failure
  case h_1 total state _ =>
  split at ran
  · rename_i none
    cases none
    cases ran
    exact .noRoots
  rename_i counted
  rw [run_onRecord_bind] at ran
  split at ran
  case h_2 failure state _ =>
    cases ran
    exact .idsFailed counted failure
  case h_1 ids state _ =>
  simp only [firstOccurrences_isEmpty] at ran
  split at ran
  · rename_i none
    cases List.isEmpty_iff.1 none
    cases ran
    exact .noIds counted
  rename_i some
  have found : ids ≠ [] := fun none => some (List.isEmpty_iff.2 none)
  rw [run_onRecord_bind] at ran
  split at ran
  case h_2 failure state _ =>
    cases ran
    exact .rowsFailed counted found failure
  case h_1 rows state _ =>
    cases ran
    exact .page counted found rows

/-- Without a plan nothing is sent. -/
theorem of_unplanned (roots : RootView ρ κ α β γ) (source : RowSource (StateM σ) ρ κ) {entity : Entity}
    {request : Request} (state : σ) {failure : Failure}
    (unplanned : JoinPlan.make roots.view entity request = .error failure) :
    roots.calls source entity request state = [] ∧ roots.outcome source entity request state = .error failure := by
  have ran := roots.run_recorded source entity request state
  unfold findPage at ran
  rw [unplanned, run_bind, run_given] at ran
  generalize roots.outcome source entity request state = outcome,
    roots.reached source entity request state = reached, roots.calls source entity request state = calls at ran ⊢
  cases ran
  exact ⟨rfl, rfl⟩

/-! ## What is common to all ends -/

namespace Ends

variable {roots : RootView ρ κ α β γ} {request : Request} {plan : JoinPlan} {calls : List (Call ρ κ)}
  {outcome : Except Failure (Page α)}

theorem sent (ended : Ends roots request plan calls outcome) :
    ∃ wanted, Collapses (calls.flatMap Call.answeredIds) wanted
      ∧ calls.map Call.question <+:
        [.count plan.count, .rootIds plan.rootIds, .rows (plan.rows (wanted.map roots.bindId))] := by
  refine ⟨_, collapses_firstOccurrences _, ?_⟩
  cases ended <;> simp [Call.question, Call.answeredIds]

theorem of_zero (ended : Ends roots request plan calls outcome) (zero : .count plan.count (.ok 0) ∈ calls) :
    calls = [.count plan.count (.ok 0)]
      ∧ ∃ page, outcome = .ok page ∧ page.total = 0 ∧ page.content = [] ∧ page = Page.empty 0 request := by
  cases ended with
  | noRoots => exact ⟨rfl, _, rfl, rfl, rfl, rfl⟩
  | countFailed failure => simp at zero
  | idsFailed counted failure => simp [counted.symm] at zero
  | noIds counted => simp [counted.symm] at zero
  | rowsFailed counted found failure => simp [counted.symm] at zero
  | page counted found rows => simp [counted.symm] at zero

theorem of_noIds (ended : Ends roots request plan calls outcome)
    (none : .rootIds plan.rootIds (.ok []) ∈ calls) :
    ∃ total page, calls = [.count plan.count (.ok total), .rootIds plan.rootIds (.ok [])]
      ∧ outcome = .ok page ∧ page.total = total ∧ page.content = [] ∧ page = Page.empty total request := by
  cases ended with
  | noIds counted => exact ⟨_, _, rfl, rfl, rfl, rfl, rfl⟩
  | countFailed failure => simp at none
  | noRoots => simp at none
  | idsFailed counted failure => simp at none
  | rowsFailed counted found failure => simp [found.symm] at none
  | page counted found rows => simp [found.symm] at none

theorem unfailed_before (ended : Ends roots request plan calls outcome) :
    ∀ call ∈ calls.dropLast, call.failure? = none := by
  cases ended <;> simp [Call.failure?]

theorem error_iff (ended : Ends roots request plan calls outcome) (failure : Failure) :
    outcome = .error failure ↔ ∃ call ∈ calls, call.failure? = some failure := by
  cases ended <;> simp [Call.failure?]

theorem page_eq (ended : Ends roots request plan calls outcome) {page : Page α} (found : outcome = .ok page) :
    .count plan.count (.ok page.total) ∈ calls
      ∧ page.content = Fold.roots roots.ids roots.assembler (calls.flatMap Call.answeredRows)
      ∧ page = Page.new page.content page.total request := by
  cases ended <;> cases found
  case noRoots => exact ⟨List.mem_cons_self, rfl, rfl⟩
  case noIds total counted => exact ⟨List.mem_cons_self, rfl, rfl⟩
  case page total counted ids found rows =>
    refine ⟨List.mem_cons_self, ?_, rfl⟩
    simp [Call.answeredRows, Page.new]

end Ends

/-- Nothing is sent in vain and nothing is half done: the statements sent are the first of the three, where the rows
are asked for by the ids answered without their repetitions; a lookup without roots or ids ends there, with an empty
page; the only call that may fail is the last, which the lookup then fails as; and a page has the total counted and
the roots of all rows answered. -/
structure AllOrNothing (roots : RootView ρ κ α β γ) (request : Request) (plan : JoinPlan)
    (calls : List (Call ρ κ)) (outcome : Except Failure (Page α)) : Prop where
  sent : ∃ wanted, Collapses (calls.flatMap Call.answeredIds) wanted
    ∧ calls.map Call.question <+:
      [.count plan.count, .rootIds plan.rootIds, .rows (plan.rows (wanted.map roots.bindId))]
  noRoots : .count plan.count (.ok 0) ∈ calls → calls = [.count plan.count (.ok 0)]
    ∧ ∃ page, outcome = .ok page ∧ page.total = 0 ∧ page.content = [] ∧ page = Page.empty 0 request
  noIds : .rootIds plan.rootIds (.ok []) ∈ calls →
    ∃ total page, calls = [.count plan.count (.ok total), .rootIds plan.rootIds (.ok [])]
      ∧ outcome = .ok page ∧ page.total = total ∧ page.content = [] ∧ page = Page.empty total request
  unfailed : ∀ call ∈ calls.dropLast, call.failure? = none
  failed : ∀ failure, outcome = .error failure ↔ ∃ call ∈ calls, call.failure? = some failure
  page : ∀ page, outcome = .ok page → .count plan.count (.ok page.total) ∈ calls
    ∧ page.content = Fold.roots roots.ids roots.assembler (calls.flatMap Call.answeredRows)
    ∧ page = Page.new page.content page.total request

/-- **A lookup is all or nothing**, whatever its source answers and wherever it fails. Without a plan nothing is
sent; with one, the lookup has one of its ends. -/
theorem findPage_all_or_nothing (roots : RootView ρ κ α β γ) (source : RowSource (StateM σ) ρ κ)
    (entity : Entity) (request : Request) (state : σ) :
    (roots.findPage source.recorded entity request).run (state, []) =
        (roots.outcome source entity request state, roots.reached source entity request state,
          roots.calls source entity request state)
      ∧ match JoinPlan.make roots.view entity request with
        | .error failure => roots.calls source entity request state = []
            ∧ roots.outcome source entity request state = .error failure
        | .ok plan =>
          Ends roots request plan (roots.calls source entity request state)
              (roots.outcome source entity request state)
            ∧ AllOrNothing roots request plan (roots.calls source entity request state)
              (roots.outcome source entity request state) := by
  refine ⟨roots.run_recorded source entity request state, ?_⟩
  cases planned : JoinPlan.make roots.view entity request with
  | error failure => exact roots.of_unplanned source state planned
  | ok plan =>
    have ended := roots.ends source state planned
    exact ⟨ended, ended.sent, ended.of_zero, ended.of_noIds, ended.unfailed_before, ended.error_iff,
      fun _ found => ended.page_eq found⟩

end RootView

end QueryFilter
