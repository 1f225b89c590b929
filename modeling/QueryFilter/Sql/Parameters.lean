/-
Named parameters, in the order in which their names were first bound.

Binding a bound name again changes its value and keeps its place. Main statements: a lookup sees the last
value bound, other names are not touched, and no name is listed twice.
-/
import QueryFilter.Sql.Value

namespace QueryFilter

structure Parameters where
  entries : List (String × Value)
  deriving Repr

namespace Parameters

def empty : Parameters := ⟨[]⟩

/-- The entries with a name bound: in its place if it is there, at the end if it is new. -/
def insertEntry (name : String) (value : Value) : List (String × Value) → List (String × Value)
  | [] => [(name, value)]
  | entry :: entries =>
    if entry.1 = name then (name, value) :: entries else entry :: insertEntry name value entries

def insert (p : Parameters) (name : String) (value : Value) : Parameters :=
  ⟨insertEntry name value p.entries⟩

def get? (p : Parameters) (name : String) : Option Value :=
  (p.entries.find? fun entry => entry.1 == name).map (·.2)

def contains (p : Parameters) (name : String) : Bool :=
  (p.get? name).isSome

def size (p : Parameters) : Nat :=
  p.entries.length

def isEmpty (p : Parameters) : Bool :=
  p.entries.isEmpty

/-- The bound names, in order. -/
def names (p : Parameters) : List String :=
  p.entries.map (·.1)

/-- The parameters less some names. -/
def without (p : Parameters) (removed : List String) : Parameters :=
  ⟨p.entries.filter fun entry => !removed.contains entry.1⟩

def ofList (entries : List (String × Value)) : Parameters :=
  entries.foldl (fun p entry => p.insert entry.1 entry.2) empty

theorem get?_insert_self (p : Parameters) (name : String) (value : Value) :
    (p.insert name value).get? name = some value := by
  obtain ⟨entries⟩ := p
  unfold insert get?
  induction entries with
  | nil => simp [insertEntry]
  | cons entry entries ih =>
    simp only [insertEntry]
    split
    · simp
    · rename_i other
      have hb : (entry.1 == name) = false := by simpa using other
      simpa [List.find?_cons, hb] using ih

theorem get?_insert_other (p : Parameters) {name other : String} (value : Value) (ne : other ≠ name) :
    (p.insert name value).get? other = p.get? other := by
  obtain ⟨entries⟩ := p
  unfold insert get?
  induction entries with
  | nil => simp [insertEntry, Ne.symm ne]
  | cons entry entries ih =>
    simp only [insertEntry]
    split
    · rename_i same
      have hb : (entry.1 == other) = false := by
        rw [same]; simpa using Ne.symm ne
      have hn : (name == other) = false := by simpa using Ne.symm ne
      simp [hb, hn]
    · simp only [List.find?_cons]
      split
      · rfl
      · exact ih

theorem names_insert (p : Parameters) (name : String) (value : Value) :
    (p.insert name value).names = if name ∈ p.names then p.names else p.names ++ [name] := by
  obtain ⟨entries⟩ := p
  unfold insert names
  induction entries with
  | nil => simp [insertEntry]
  | cons entry entries ih =>
    simp only [insertEntry]
    split
    · rename_i same
      simp [same]
    · rename_i other
      simp only [List.map_cons, List.mem_cons, ih]
      have hn : ¬ name = entry.1 := fun h => other h.symm
      split
      · rename_i here
        simp [here]
      · rename_i absent
        simp [hn, absent]

theorem nodup_names_insert {p : Parameters} (h : p.names.Nodup) (name : String) (value : Value) :
    (p.insert name value).names.Nodup := by
  rw [names_insert]
  split
  · exact h
  · rename_i absent
    rw [List.nodup_append]
    refine ⟨h, by simp, ?_⟩
    intro x hx y hy
    rcases List.mem_singleton.1 hy with rfl
    exact fun he => absent (he ▸ hx)

end Parameters

end QueryFilter
