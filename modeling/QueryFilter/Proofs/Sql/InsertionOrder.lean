/-
Parameters over a run.

Parameters come from a history of changes: a name is bound, or names are left out. What counts for a name are the
places in the history where it was inserted and behind which it was not removed (`lasting`): the least of them is
where the name got its place in the order, and the greatest is where it got its value (`Follows`). One change keeps
this (`Follows.insert`, `Follows.without`), so every history does (`follows_replay`).

Leaving names out makes a copy. In a run with several parameters each has a history of its own, which for a copy
goes on from that of its original, and nothing but binding a name in them changes parameters
(`insertion_ordered`).
-/
import Mathlib.Data.List.Forall2
import Mathlib.Data.List.Nodup
import Mathlib.Data.Set.Card
import Mathlib.Order.Bounds.Basic
import QueryFilter.Proofs.Schema.Built
import QueryFilter.Sql.Parameters

namespace QueryFilter.Parameters

/-- A change of parameters. -/
inductive Change where
  | insert (name : String) (value : Value)
  | without (removed : List String)

def after (p : Parameters) : Change → Parameters
  | .insert name value => p.insert name value
  | .without removed => p.without removed

/-- What changes make of empty parameters, one after the other. -/
def replay (history : List Change) : Parameters :=
  history.foldl after empty

/-- A name is inserted at a place of a history. -/
def InsertedAt (history : List Change) (name : String) (place : Nat) : Prop :=
  ∃ value, history[place]? = some (.insert name value)

/-- A name is removed behind a place of a history. -/
def RemovedBehind (history : List Change) (name : String) (place : Nat) : Prop :=
  ∃ later removed, place < later ∧ history[later]? = some (.without removed) ∧ name ∈ removed

/-- The places of a history where a name was inserted since it was last removed. -/
def lasting (history : List Change) (name : String) : Set Nat :=
  {place | InsertedAt history name place ∧ ¬ RemovedBehind history name place}

/-- A name was first inserted before another one was, each since it was last removed. -/
def CameBefore (history : List Change) (name other : String) : Prop :=
  ∃ first first', IsLeast (lasting history name) first ∧ IsLeast (lasting history other) first' ∧ first < first'

/-- A value was the last one a name was bound to, since it was last removed. -/
def LastGiven (history : List Change) (name : String) (value : Value) : Prop :=
  ∃ last, IsGreatest (lasting history name) last ∧ history[last]? = some (.insert name value)

/-- The names are those that were inserted and not removed since, in the order in which they came, and each has the
value it was last given. -/
structure Follows (p : Parameters) (history : List Change) : Prop where
  distinct : p.names.Nodup
  present : ∀ name, name ∈ p.names ↔ (lasting history name).Nonempty
  ordered : p.names.Pairwise (CameBefore history)
  found : ∀ name value, p.get? name = some value ↔ LastGiven history name value

/-! ## Leaving names out -/

theorem names_without (p : Parameters) (removed : List String) :
    (p.without removed).names = p.names.filter fun name => !removed.contains name := by
  rw [names, names, without, List.filter_map]
  rfl

theorem get?_without (p : Parameters) (removed : List String) (name : String) :
    (p.without removed).get? name = if name ∈ removed then none else p.get? name := by
  obtain ⟨entries⟩ := p
  unfold without get?
  rw [List.find?_filter]
  split
  · rename_i left
    rw [Option.map_eq_none_iff, List.find?_eq_none]
    intro entry _
    by_cases same : entry.1 = name
    · simp [same, left]
    · simp [same]
  · rename_i kept
    congr 2
    funext entry
    by_cases same : entry.1 = name
    · simp [same, kept]
    · simp [same]

theorem get?_eq_none_iff {p : Parameters} {name : String} : p.get? name = none ↔ name ∉ p.names := by
  rw [get?, Option.map_eq_none_iff, List.find?_eq_none, names, List.mem_map]
  constructor
  · rintro none ⟨entry, mem, rfl⟩
    exact none entry mem (beq_self_eq_true _)
  · intro absent entry mem same
    exact absent ⟨entry, mem, by simpa using same⟩

theorem mem_names_insert_iff {p : Parameters} {name other : String} {value : Value} :
    other ∈ (p.insert name value).names ↔ other ∈ p.names ∨ other = name := by
  rw [names_insert]
  split
  · rename_i known
    exact ⟨.inl, fun either => either.elim id fun same => same ▸ known⟩
  · simp

/-! ## One change -/

section

variable {history : List Change} {change : Change} {name : String} {place : Nat}

theorem getElem?_concat_eq_some_iff {c : Change} :
    (history ++ [change])[place]? = some c ↔ history[place]? = some c ∨ place = history.length ∧ change = c := by
  rw [List.getElem?_append]
  split
  · rename_i inside
    simp [Nat.ne_of_lt inside]
  · rename_i outside
    rw [List.getElem?_eq_none (Nat.le_of_not_lt outside), List.getElem?_singleton]
    have here : place - history.length = 0 ↔ place = history.length := by omega
    split
    · rename_i first
      simp [here.1 first]
    · rename_i behind
      simp [mt here.2 behind]

theorem lt_length_of_mem_lasting (mem : place ∈ lasting history name) : place < history.length := by
  obtain ⟨⟨value, here⟩, -⟩ := mem
  exact (List.getElem?_eq_some_iff.1 here).1

theorem insertedAt_concat_iff :
    InsertedAt (history ++ [change]) name place ↔
      InsertedAt history name place ∨ place = history.length ∧ ∃ value, change = .insert name value := by
  simp only [InsertedAt, getElem?_concat_eq_some_iff, exists_or, exists_and_left]

theorem removedBehind_concat_iff :
    RemovedBehind (history ++ [change]) name place ↔
      RemovedBehind history name place
        ∨ place < history.length ∧ ∃ removed, change = .without removed ∧ name ∈ removed := by
  constructor
  · rintro ⟨later, removed, behind, here, mem⟩
    rcases getElem?_concat_eq_some_iff.1 here with before | ⟨rfl, last⟩
    · exact .inl ⟨later, removed, behind, before, mem⟩
    · exact .inr ⟨behind, removed, last, mem⟩
  · rintro (⟨later, removed, behind, here, mem⟩ | ⟨inside, removed, last, mem⟩)
    · exact ⟨later, removed, behind, getElem?_concat_eq_some_iff.2 (.inl here), mem⟩
    · exact ⟨history.length, removed, inside, getElem?_concat_eq_some_iff.2 (.inr ⟨rfl, last⟩), mem⟩

theorem not_removedBehind_length : ¬ RemovedBehind history name history.length := by
  rintro ⟨later, removed, behind, here, -⟩
  exact absurd (List.getElem?_eq_some_iff.1 here).1 (Nat.lt_asymm behind)

theorem mem_lasting_concat_iff :
    place ∈ lasting (history ++ [change]) name ↔
      (InsertedAt history name place ∨ place = history.length ∧ ∃ value, change = .insert name value)
        ∧ ¬ (RemovedBehind history name place
          ∨ place < history.length ∧ ∃ removed, change = .without removed ∧ name ∈ removed) := by
  rw [← insertedAt_concat_iff, ← removedBehind_concat_iff]
  rfl

theorem lasting_insert_self (history : List Change) (name : String) (value : Value) :
    lasting (history ++ [.insert name value]) name = Insert.insert history.length (lasting history name) := by
  ext place
  rw [mem_lasting_concat_iff, Set.mem_insert_iff]
  constructor
  · rintro ⟨inserted | ⟨rfl, -⟩, stays⟩
    · exact .inr ⟨inserted, fun removed => stays (.inl removed)⟩
    · exact .inl rfl
  · rintro (rfl | ⟨inserted, stays⟩)
    · exact ⟨.inr ⟨rfl, value, rfl⟩, by simp [not_removedBehind_length]⟩
    · exact ⟨.inl inserted, by simp [stays]⟩

theorem lasting_insert_other (history : List Change) {name other : String} (ne : other ≠ name) (value : Value) :
    lasting (history ++ [.insert name value]) other = lasting history other := by
  ext place
  rw [mem_lasting_concat_iff]
  simp [Ne.symm ne, lasting]

theorem lasting_without_of_mem (history : List Change) {removed : List String} (mem : name ∈ removed) :
    lasting (history ++ [.without removed]) name = ∅ := by
  refine Set.eq_empty_of_forall_notMem fun place lasts => ?_
  obtain ⟨⟨value, here⟩ | ⟨-, value, other⟩, stays⟩ := mem_lasting_concat_iff.1 lasts
  · exact stays (.inr ⟨(List.getElem?_eq_some_iff.1 here).1, removed, rfl, mem⟩)
  · cases other

theorem lasting_without_of_not_mem (history : List Change) {removed : List String} (absent : name ∉ removed) :
    lasting (history ++ [.without removed]) name = lasting history name := by
  ext place
  rw [mem_lasting_concat_iff]
  simp [absent, lasting]

/-- A name keeps its place in the order when it, or another one, is inserted again. -/
theorem isLeast_insert (least : IsLeast (lasting history name) place) (inserted : String) (value : Value) :
    IsLeast (lasting (history ++ [.insert inserted value]) name) place := by
  by_cases same : name = inserted
  · subst same
    rw [lasting_insert_self]
    refine ⟨.inr least.1, ?_⟩
    rintro other (rfl | mem)
    · exact Nat.le_of_lt (lt_length_of_mem_lasting least.1)
    · exact least.2 mem
  · rwa [lasting_insert_other history same]

/-- A change that leaves the places that count for a name as they are leaves its value. -/
theorem lastGiven_concat_iff (same : lasting (history ++ [change]) name = lasting history name) {value : Value} :
    LastGiven (history ++ [change]) name value ↔ LastGiven history name value := by
  unfold LastGiven
  rw [same]
  refine exists_congr fun last => and_congr_right fun greatest => ?_
  rw [List.getElem?_append_left (lt_length_of_mem_lasting greatest.1)]

theorem lastGiven_insert_self_iff (history : List Change) (name : String) (value given : Value) :
    LastGiven (history ++ [.insert name value]) name given ↔ value = given := by
  have greatest : IsGreatest (lasting (history ++ [.insert name value]) name) history.length := by
    rw [lasting_insert_self]
    refine ⟨.inl rfl, ?_⟩
    rintro place (rfl | mem)
    · exact Nat.le_refl _
    · exact Nat.le_of_lt (lt_length_of_mem_lasting mem)
  have here : (history ++ [.insert name value])[history.length]? = some (.insert name value) :=
    List.getElem?_concat_length
  constructor
  · rintro ⟨last, highest, found⟩
    obtain rfl := highest.unique greatest
    rw [here] at found
    cases found
    rfl
  · rintro rfl
    exact ⟨history.length, greatest, here⟩

theorem not_lastGiven_of_eq_empty (none : lasting history name = ∅) (value : Value) :
    ¬ LastGiven history name value := by
  rintro ⟨last, ⟨mem, -⟩, -⟩
  simp [none] at mem

end

theorem CameBefore.insert {history : List Change} {name other : String} (before : CameBefore history name other)
    (inserted : String) (value : Value) : CameBefore (history ++ [.insert inserted value]) name other := by
  obtain ⟨first, first', least, least', less⟩ := before
  exact ⟨first, first', isLeast_insert least inserted value, isLeast_insert least' inserted value, less⟩

theorem CameBefore.without {history : List Change} {name other : String} (before : CameBefore history name other)
    {removed : List String} (kept : name ∉ removed) (kept' : other ∉ removed) :
    CameBefore (history ++ [.without removed]) name other := by
  unfold CameBefore
  rwa [lasting_without_of_not_mem history kept, lasting_without_of_not_mem history kept']

/-- A new name comes after all that are there. -/
theorem cameBefore_new {history : List Change} {name other : String} (present : (lasting history name).Nonempty)
    (new : lasting history other = ∅) (value : Value) : CameBefore (history ++ [.insert other value]) name other := by
  obtain ⟨first, mem, least⟩ := wellFounded_lt.has_min (lasting history name) present
  have isLeast : IsLeast (lasting history name) first := ⟨mem, fun place mem => Nat.le_of_not_lt (least place mem)⟩
  refine ⟨first, history.length, isLeast_insert isLeast other value, ?_, lt_length_of_mem_lasting mem⟩
  rw [lasting_insert_self, new, LawfulSingleton.insert_empty_eq]
  exact isLeast_singleton

namespace Follows

variable {p : Parameters} {history : List Change}

theorem insert (follows : p.Follows history) (name : String) (value : Value) :
    (p.insert name value).Follows (history ++ [.insert name value]) where
  distinct := nodup_names_insert follows.distinct name value
  present other := by
    rw [mem_names_insert_iff]
    by_cases same : other = name
    · subst same
      simp [lasting_insert_self]
    · rw [lasting_insert_other history same, follows.present, or_iff_left same]
  ordered := by
    rw [names_insert]
    split
    · exact follows.ordered.imp fun before => before.insert name value
    · rename_i absent
      have new : lasting history name = ∅ := Set.not_nonempty_iff_eq_empty.1 (mt (follows.present name).2 absent)
      refine List.pairwise_append.2 ⟨follows.ordered.imp fun before => before.insert name value,
        List.pairwise_singleton _ _, fun other mem last here => ?_⟩
      obtain rfl := List.mem_singleton.1 here
      exact cameBefore_new ((follows.present other).1 mem) new value
  found other given := by
    by_cases same : other = name
    · subst same
      rw [get?_insert_self, lastGiven_insert_self_iff, Option.some.injEq]
    · rw [get?_insert_other p value same, follows.found, lastGiven_concat_iff (lasting_insert_other history same value)]

theorem without (follows : p.Follows history) (removed : List String) :
    (p.without removed).Follows (history ++ [.without removed]) where
  distinct := by
    rw [names_without]
    exact follows.distinct.filter _
  present name := by
    rw [names_without, List.mem_filter, follows.present]
    by_cases left : name ∈ removed
    · simp [left, lasting_without_of_mem]
    · simp [left, lasting_without_of_not_mem]
  ordered := by
    rw [names_without]
    refine (follows.ordered.filter _).imp_of_mem fun {name other} mem mem' before => ?_
    have kept := (List.mem_filter.1 mem).2
    have kept' := (List.mem_filter.1 mem').2
    exact before.without (by simpa using kept) (by simpa using kept')
  found name value := by
    rw [get?_without]
    split
    · rename_i left
      simp [not_lastGiven_of_eq_empty (lasting_without_of_mem history left)]
    · rename_i kept
      rw [follows.found, lastGiven_concat_iff (lasting_without_of_not_mem history kept)]

end Follows

theorem follows_empty : empty.Follows [] where
  distinct := List.nodup_nil
  present name := by simp [empty, names, Set.Nonempty, lasting, InsertedAt]
  ordered := .nil
  found name value := by simp [empty, get?, LastGiven]

theorem replay_concat (history : List Change) (change : Change) :
    replay (history ++ [change]) = (replay history).after change :=
  List.foldl_concat _ _ _ _

/-- What is made of a history follows it. -/
theorem follows_replay (history : List Change) : (replay history).Follows history := by
  induction history using List.reverseRecOn with
  | nil => exact follows_empty
  | append_singleton history change ih =>
    rw [replay_concat]
    cases change with
    | insert name value => exact ih.insert name value
    | without removed => exact ih.without removed

/-! ## Insertion-ordered maps -/

/-- Parameters as a map that keeps the order of insertion: they follow a history, and all else is told by this. -/
structure InsertionOrdered (p : Parameters) (history : List Change) : Prop extends p.Follows history where
  missing : ∀ name, p.get? name = none ↔
    ∀ place, InsertedAt history name place → RemovedBehind history name place
  listed : ∀ name value, (name, value) ∈ p.entries ↔ p.get? name = some value
  counted : p.size = {name | (lasting history name).Nonempty}.ncard
  kept : ∀ removed, (p.without removed).entries.Sublist p.entries
    ∧ ∀ entry, entry ∈ (p.without removed).entries ↔ entry ∈ p.entries ∧ entry.1 ∉ removed

theorem Follows.insertionOrdered {p : Parameters} {history : List Change} (follows : p.Follows history) :
    p.InsertionOrdered history where
  toFollows := follows
  missing name := by
    rw [get?_eq_none_iff, follows.present, Set.not_nonempty_iff_eq_empty, Set.eq_empty_iff_forall_notMem]
    exact forall_congr' fun place => by simp [lasting]
  listed name value := by
    have looked : p.get? name = some value ↔
        ∃ entry, p.entries.find? (fun entry => entry.1 == name) = some entry ∧ entry.2 = value :=
      Option.map_eq_some_iff
    simp only [looked, find?_eq_some_iff_of_distinct follows.distinct]
    constructor
    · intro mem
      exact ⟨_, ⟨mem, rfl⟩, rfl⟩
    · rintro ⟨entry, ⟨mem, rfl⟩, rfl⟩
      exact mem
  counted := by
    have present : {name | (lasting history name).Nonempty} = (p.names.toFinset : Set String) := by
      ext name
      rw [List.coe_toFinset]
      exact (follows.present name).symm
    rw [present, Set.ncard_coe_finset, List.toFinset_card_of_nodup follows.distinct, names, List.length_map, size]
  kept removed := by
    refine ⟨List.filter_sublist, fun entry => ?_⟩
    rw [Parameters.without, List.mem_filter]
    simp

/-! ## Runs with several parameters -/

/-- A step of a run with several parameters, which are numbered in the order in which they are made: empty ones are
made, a name is bound in some of them, or some of them are copied without some names. -/
inductive Step where
  | make
  | insert (target : Nat) (name : String) (value : Value)
  | without (source : Nat) (removed : List String)

/-- The parameters a step binds a name in. -/
def Step.target? : Step → Option Nat
  | .insert target _ _ => some target
  | .make | .without _ _ => none

section

variable {α β : Type}

/-- What has been made, after one more step, given what is made of nothing and what a change does. -/
def perform (fresh : α) (change : α → Change → α) (made : List α) : Step → List α
  | .make => made ++ [fresh]
  | .insert target name value => made.modify target fun one => change one (.insert name value)
  | .without source removed => made ++ (made[source]?.map fun one => change one (.without removed)).toList

theorem map_perform (fresh : α) {change : α → Change → α} {change' : β → Change → β} (f : α → β)
    (simulates : ∀ one c, f (change one c) = change' (f one) c) (made : List α) (step : Step) :
    (perform fresh change made step).map f = perform (f fresh) change' (made.map f) step := by
  cases step with
  | make => simp [perform]
  | insert target name value =>
    refine List.ext_getElem? fun number => ?_
    simp only [perform, List.getElem?_map, List.getElem?_modify]
    cases made[number]? with
    | none => rfl
    | some one => by_cases same : target = number <;> simp [same, simulates]
  | without source removed =>
    simp only [perform, List.map_append, List.getElem?_map]
    cases made[source]? with
    | none => rfl
    | some one => simp [simulates]

/-- A step changes what has been made at its target alone. -/
theorem getElem?_perform {fresh : α} {change : α → Change → α} {made : List α} {number : Nat} {one : α}
    (there : made[number]? = some one) {step : Step} (other : step.target? ≠ some number) :
    (perform fresh change made step)[number]? = some one := by
  have inside := (List.getElem?_eq_some_iff.1 there).1
  cases step with
  | make => rw [perform, List.getElem?_append_left inside, there]
  | insert target name value =>
    have apart : target ≠ number := fun same => other (congrArg some same)
    rw [perform, List.getElem?_modify, there]
    simp [apart]
  | without source removed => rw [perform, List.getElem?_append_left inside, there]

end

/-- The parameters made in a run. -/
def run (steps : List Step) : List Parameters :=
  steps.foldl (perform empty after) []

/-- The histories of the parameters made in a run; that of a copy goes on from that of its original. -/
def histories (steps : List Step) : List (List Change) :=
  steps.foldl (perform [] fun history change => history ++ [change]) []

theorem run_eq_map_replay (steps : List Step) : run steps = (histories steps).map replay := by
  induction steps using List.reverseRecOn with
  | nil => rfl
  | append_singleton steps step ih =>
    have simulated := map_perform [] replay replay_concat (histories steps) step
    rw [run, histories, List.foldl_concat, List.foldl_concat]
    exact (congrArg (perform empty after · step) ih).trans simulated.symm

theorem getElem?_run_append {steps : List Step} {number : Nat} {p : Parameters}
    (there : (run steps)[number]? = some p) {later : List Step} (other : ∀ step ∈ later, step.target? ≠ some number) :
    (run (steps ++ later))[number]? = some p := by
  induction later using List.reverseRecOn with
  | nil => rwa [List.append_nil]
  | append_singleton later step ih =>
    have before := ih fun step mem => other step (List.mem_append_left _ mem)
    rw [← List.append_assoc, run, List.foldl_concat]
    exact getElem?_perform before (other step (by simp))

/-- **Parameters keep the order of insertion.** At every point of every run, all parameters made so far are
insertion-ordered maps of their histories. Leaving names out of some makes a copy and leaves all others as they
are, and these stay so until a name is bound in them. -/
theorem insertion_ordered (steps : List Step) :
    List.Forall₂ InsertionOrdered (run steps) (histories steps)
      ∧ (∀ source removed p, (run steps)[source]? = some p →
        run (steps ++ [.without source removed]) = run steps ++ [p.without removed])
      ∧ ∀ number p, (run steps)[number]? = some p → ∀ later : List Step,
        (∀ step ∈ later, step.target? ≠ some number) → (run (steps ++ later))[number]? = some p := by
  refine ⟨?_, fun source removed p there => ?_, fun _ _ there _ => getElem?_run_append there⟩
  · rw [run_eq_map_replay, List.forall₂_map_left_iff, List.forall₂_same]
    exact fun history _ => (follows_replay history).insertionOrdered
  · rw [run, List.foldl_concat, ← run, perform, there]
    rfl

end QueryFilter.Parameters

namespace QueryFilter

namespace Sample

/-- A run in which a name is bound, then another one, and then the first one again. -/
def rebinding : List Parameters.Step :=
  [.make, .insert 0 "p1" (.text "a"), .insert 0 "p2" (.integer 2), .insert 0 "p1" (.text "b")]

/-- The parameters made in the run. -/
def rebound : Parameters :=
  ⟨[("p1", .text "b"), ("p2", .integer 2)]⟩

/-- The first name is left out in a copy, and then bound there. -/
def copying : List Parameters.Step :=
  [.without 0 ["p1"], .insert 1 "p1" .null]

end Sample

open Sample in
/-- The name bound again keeps its place; bound in a copy without it, it comes last there, and the original stays. -/
theorem Parameters.insertion_ordered_rebound :
    List.Forall₂ InsertionOrdered [rebound]
        [[.insert "p1" (.text "a"), .insert "p2" (.integer 2), .insert "p1" (.text "b")]]
      ∧ (run rebinding)[0]? = some rebound
      ∧ run (rebinding ++ [.without 0 ["p1"]]) = run rebinding ++ [rebound.without ["p1"]]
      ∧ (∀ step ∈ copying, step.target? ≠ some 0)
      ∧ (run (rebinding ++ copying))[0]? = some rebound
      ∧ (run (rebinding ++ copying))[1]? = some ⟨[("p2", .integer 2), ("p1", .null)]⟩ := by
  obtain ⟨ordered, copied, stays⟩ := insertion_ordered rebinding
  have there : (run rebinding)[0]? = some rebound := by rfl
  have other : ∀ step ∈ copying, step.target? ≠ some 0 := by simp [copying, Step.target?]
  exact ⟨ordered, there, copied 0 ["p1"] rebound there, other, stays 0 rebound there copying other, by rfl⟩

end QueryFilter
