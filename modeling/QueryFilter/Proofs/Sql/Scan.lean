/-
Scanning one text with two sets of parameters.

When the parameters have the same names, and values of the same outline under each, the scanner makes the
same steps: it writes the same text, gives out as many slots, and fails at the same placeholder
(`Statement.positional_alike`). The only failure there is, is a placeholder without a value.
-/
import Mathlib.Data.List.Forall2
import QueryFilter.Proofs.Sql.Slots

namespace QueryFilter

/-- Both fail in the same way, or both succeed with related results. -/
inductive SameOutcome {ε α β : Type} (R : α → β → Prop) : Except ε α → Except ε β → Prop where
  | ok {a : α} {b : β} (related : R a b) : SameOutcome R (.ok a) (.ok b)
  | error (failure : ε) : SameOutcome R (.error failure) (.error failure)

namespace SameOutcome

variable {ε α β : Type} {R : α → β → Prop}

theorem imp {T : α → β → Prop} {x : Except ε α} {y : Except ε β} (h : SameOutcome R x y)
    (weaker : ∀ a b, R a b → T a b) : SameOutcome T x y := by
  cases h with
  | ok related => exact .ok (weaker _ _ related)
  | error failure => exact .error failure

end SameOutcome

namespace Parameters

/-- Parameters with the same names in the same order, and related values under them. -/
def Alike (R : Value → Value → Prop) (p q : Parameters) : Prop :=
  List.Forall₂ (fun e f => e.1 = f.1 ∧ R e.2 f.2) p.entries q.entries

namespace Alike

variable {R : Value → Value → Prop} {p q : Parameters}

theorem empty : Parameters.empty.Alike R Parameters.empty := List.Forall₂.nil

theorem names (h : p.Alike R q) : p.names = q.names := by
  obtain ⟨entries⟩ := p
  obtain ⟨entries'⟩ := q
  unfold Alike at h
  unfold Parameters.names
  simp only at h ⊢
  induction h with
  | nil => rfl
  | cons head _ ih => simp only [List.map_cons, head.1, ih]

theorem get? (h : p.Alike R q) (name : String) : Option.Rel R (p.get? name) (q.get? name) := by
  obtain ⟨entries⟩ := p
  obtain ⟨entries'⟩ := q
  unfold Alike at h
  unfold Parameters.get?
  simp only at h ⊢
  induction h with
  | nil => exact .none
  | @cons e f es fs head _ ih =>
    obtain ⟨same, related⟩ := head
    simp only [List.find?_cons, same]
    cases f.1 == name with
    | true => exact .some related
    | false => exact ih

theorem insert (h : p.Alike R q) (name : String) {v w : Value} (related : R v w) :
    (p.insert name v).Alike R (q.insert name w) := by
  obtain ⟨entries⟩ := p
  obtain ⟨entries'⟩ := q
  unfold Alike at h ⊢
  unfold Parameters.insert
  simp only at h ⊢
  induction h with
  | nil => exact .cons ⟨rfl, related⟩ .nil
  | @cons e f es fs head tail ih =>
    simp only [insertEntry, head.1]
    split
    · exact .cons ⟨rfl, related⟩ tail
    · exact .cons head ih

theorem without (h : p.Alike R q) (removed : List String) : (p.without removed).Alike R (q.without removed) := by
  obtain ⟨entries⟩ := p
  obtain ⟨entries'⟩ := q
  unfold Alike at h ⊢
  unfold Parameters.without
  simp only at h ⊢
  induction h with
  | nil => exact .nil
  | @cons e f es fs head _ ih =>
    simp only [List.filter_cons, head.1]
    split
    · exact .cons head ih
    · exact ih

end Alike

end Parameters

/-- Values with scalars and gaps in the same places. -/
def Value.SameOutline (v w : Value) : Prop := v.outline = w.outline

namespace Placeholder

/-- States that have written the same text with as many slots, and expect the same. -/
structure State.Alike (s t : State) : Prop where
  text : s.written.sql = t.written.sql
  slots : s.written.values.length = t.written.values.length
  mode : s.mode = t.mode

/-- Positional statements of the same text with as many slots. -/
def WrittenAlike (p q : Positional) : Prop :=
  p.sql = q.sql ∧ p.values.length = q.values.length

theorem WrittenAlike.place {p q : Positional} (h : WrittenAlike p q) {v w : Value}
    (same : v.SameOutline w) : WrittenAlike (p.place v) (q.place w) := by
  obtain ⟨text, slots⟩ := h
  unfold Value.SameOutline at same
  rw [Positional.place_eq, Positional.place_eq]
  constructor
  · simp only [Value.slotText, text, slots, same]
  · simp only [List.length_append, Value.length_slots, slots, same]

theorem readPlain_alike {p q : Positional} (h : WrittenAlike p q) (c : Char) :
    (readPlain p c).Alike (readPlain q c) := by
  obtain ⟨text, slots⟩ := h
  unfold readPlain
  split
  · exact ⟨by simp [Positional.writeChar, text], slots, rfl⟩
  · split
    · exact ⟨text, slots, rfl⟩
    · exact ⟨by simp [Positional.writeChar, text], slots, rfl⟩

variable {parameters parameters' : Parameters}

theorem resolve_alike (alike : parameters.Alike Value.SameOutline parameters') {p q : Positional}
    (h : WrittenAlike p q) (reversed : List Char) :
    SameOutcome WrittenAlike (resolve parameters p reversed) (resolve parameters' q reversed) := by
  unfold resolve
  have found := alike.get? (String.ofList reversed.reverse)
  simp only
  generalize parameters.get? (String.ofList reversed.reverse) = v,
    parameters'.get? (String.ofList reversed.reverse) = w at found ⊢
  cases found with
  | none => exact .error _
  | some same => exact .ok (h.place same)

/-- One step keeps two states alike. -/
theorem step_alike (alike : parameters.Alike Value.SameOutline parameters') {s t : State}
    (h : s.Alike t) (c : Char) :
    SameOutcome State.Alike (step parameters s c) (step parameters' t c) := by
  obtain ⟨p, mode⟩ := s
  obtain ⟨q, mode'⟩ := t
  obtain ⟨text, slots, same⟩ := h
  simp only at text slots same
  subst same
  unfold step
  cases mode with
  | plain => exact .ok (readPlain_alike ⟨text, slots⟩ c)
  | quoted quote => exact .ok ⟨by simp [Positional.writeChar, text], slots, rfl⟩
  | colon =>
    simp only
    split
    · exact .ok ⟨by simp [Positional.write, text], slots, rfl⟩
    · split
      · exact .ok ⟨text, slots, rfl⟩
      · have written : WrittenAlike (p.writeChar ':') (q.writeChar ':') :=
          ⟨by simp [Positional.writeChar, text], slots⟩
        exact .ok (readPlain_alike written c)
  | name reversed =>
    simp only
    split
    · exact .ok ⟨text, slots, rfl⟩
    · have resolved := resolve_alike alike (p := p) (q := q) ⟨text, slots⟩ reversed
      generalize resolve parameters p reversed = x, resolve parameters' q reversed = y at resolved ⊢
      cases resolved with
      | ok related => exact .ok (readPlain_alike related c)
      | error failure => exact .error failure

theorem scan_alike (alike : parameters.Alike Value.SameOutline parameters') {s t : State}
    (h : s.Alike t) (text : List Char) :
    SameOutcome State.Alike (scan parameters s text) (scan parameters' t text) := by
  induction text generalizing s t with
  | nil => exact .ok h
  | cons c rest ih =>
    have stepped := step_alike alike h c
    simp only [scan]
    generalize step parameters s c = x, step parameters' t c = y at stepped ⊢
    cases stepped with
    | ok next => exact ih next
    | error failure => exact .error failure

theorem finish_alike (alike : parameters.Alike Value.SameOutline parameters') {s t : State}
    (h : s.Alike t) : SameOutcome WrittenAlike (finish parameters s) (finish parameters' t) := by
  obtain ⟨p, mode⟩ := s
  obtain ⟨q, mode'⟩ := t
  obtain ⟨text, slots, same⟩ := h
  simp only at text slots same
  subst same
  unfold finish
  cases mode with
  | plain => exact .ok ⟨text, slots⟩
  | quoted quote => exact .ok ⟨text, slots⟩
  | colon => exact .ok ⟨by simp [Positional.writeChar, text], slots⟩
  | name reversed => exact resolve_alike alike ⟨text, slots⟩ reversed

theorem resolve_eq_error {written : Positional} {reversed : List Char} {failure : Failure}
    (h : resolve parameters written reversed = .error failure) : ∃ name, failure = .unboundParameter name := by
  unfold resolve at h
  simp only at h
  split at h
  · cases h
  · cases h; exact ⟨_, rfl⟩

theorem step_eq_error {state : State} {c : Char} {failure : Failure}
    (h : step parameters state c = .error failure) : ∃ name, failure = .unboundParameter name := by
  unfold step at h
  split at h
  · cases h
  · cases h
  · split at h
    · cases h
    · split at h <;> cases h
  · split at h
    · cases h
    · split at h
      · cases h
      · rename_i unresolved
        cases h
        exact resolve_eq_error unresolved

theorem scan_eq_error {state : State} {text : List Char} {failure : Failure}
    (h : scan parameters state text = .error failure) : ∃ name, failure = .unboundParameter name := by
  induction text generalizing state with
  | nil => cases h
  | cons c rest ih =>
    simp only [scan] at h
    split at h
    · exact ih h
    · rename_i stuck
      cases h
      exact step_eq_error stuck

theorem finish_eq_error {state : State} {failure : Failure}
    (h : finish parameters state = .error failure) : ∃ name, failure = .unboundParameter name := by
  unfold finish at h
  split at h
  · cases h
  · cases h
  · cases h
  · exact resolve_eq_error h

end Placeholder

namespace Statement

/-- A statement has no positional form only for want of a parameter. -/
theorem positional_eq_error {statement : Statement} {failure : Failure}
    (h : statement.positional = .error failure) : ∃ name, failure = .unboundParameter name := by
  unfold positional at h
  split at h
  · exact Placeholder.finish_eq_error h
  · rename_i stuck
    cases h
    exact Placeholder.scan_eq_error stuck

/-- The positional forms of one text under alike parameters are of one text, or fail alike. -/
theorem positional_alike (sql : String) {p q : Parameters} (alike : p.Alike Value.SameOutline q) :
    SameOutcome (fun x y => x.sql = y.sql) (positional ⟨sql, p⟩) (positional ⟨sql, q⟩) := by
  unfold positional
  have start : Placeholder.start.Alike Placeholder.start := ⟨rfl, rfl, rfl⟩
  have scanned := Placeholder.scan_alike alike start sql.toList
  simp only
  generalize Placeholder.scan p Placeholder.start sql.toList = x,
    Placeholder.scan q Placeholder.start sql.toList = y at scanned ⊢
  cases scanned with
  | ok related =>
    have finished := Placeholder.finish_alike alike related
    exact finished.imp fun _ _ written => written.1
  | error failure => exact .error failure

end Statement

end QueryFilter
