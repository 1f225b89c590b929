/-
Sorted sets of names.

A set of names is listed in strictly increasing order of its characters, which is also the order of the
UTF-8 bytes. Main statements: the list holds exactly the given names, and it is strictly increasing.
-/
namespace QueryFilter.Text

/-- Puts a name in its place in a strictly increasing list, unless it is there already. -/
def insertName (name : String) : List String → List String
  | [] => [name]
  | other :: names =>
    if name < other then name :: other :: names
    else if other < name then other :: insertName name names
    else other :: names

/-- The distinct names of a list, in increasing order. -/
def sortedNames (names : List String) : List String :=
  names.foldr insertName []

theorem mem_insertName {name x : String} {names : List String} :
    x ∈ insertName name names ↔ x = name ∨ x ∈ names := by
  induction names with
  | nil => simp [insertName]
  | cons other names ih =>
    rw [insertName]
    split
    · simp
    · split
      · rw [List.mem_cons, ih, List.mem_cons]
        constructor
        · rintro (h | h | h) <;> simp [h]
        · rintro (h | h | h) <;> simp [h]
      · rename_i h1 h2
        have he : name = other := String.le_antisymm (String.not_lt.1 h2) (String.not_lt.1 h1)
        subst he
        simp

theorem mem_sortedNames {x : String} {names : List String} : x ∈ sortedNames names ↔ x ∈ names := by
  induction names with
  | nil => simp [sortedNames]
  | cons name names ih =>
    rw [sortedNames, List.foldr_cons, mem_insertName, List.mem_cons]
    exact or_congr Iff.rfl ih

theorem pairwise_insertName {name : String} {names : List String} (h : names.Pairwise (· < ·)) :
    (insertName name names).Pairwise (· < ·) := by
  induction names with
  | nil => simp [insertName]
  | cons other names ih =>
    rw [List.pairwise_cons] at h
    rw [insertName]
    split
    · rename_i hlt
      refine List.pairwise_cons.2 ⟨?_, List.pairwise_cons.2 h⟩
      intro x hx
      rcases List.mem_cons.1 hx with rfl | hx
      · exact hlt
      · exact String.lt_trans hlt (h.1 x hx)
    · split
      · rename_i hlt
        refine List.pairwise_cons.2 ⟨?_, ih h.2⟩
        intro x hx
        rcases mem_insertName.1 hx with rfl | hx
        · exact hlt
        · exact h.1 x hx
      · exact List.pairwise_cons.2 h

theorem pairwise_sortedNames (names : List String) : (sortedNames names).Pairwise (· < ·) := by
  induction names with
  | nil => simp [sortedNames]
  | cons name names ih => exact pairwise_insertName ih

end QueryFilter.Text
