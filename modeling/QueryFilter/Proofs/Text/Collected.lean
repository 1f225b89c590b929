/-
What is collected from the segments of a text.

Segments are read one by one: some are read as something (`readParts`), the others have a fault (`faultyParts`),
and neither depends on what stands beside them. Filter text and sort text collect just these
(`FilterText.collectSegments_eq`, `SortText.collectSegments_eq`), so a text is accepted when each of its segments
is read (`FilterText.read_eq_ok_iff`).
-/
import Mathlib.Data.List.Forall2
import QueryFilter.Filter.Expression
import QueryFilter.Sort.Expression

namespace QueryFilter

section

variable {σ τ ε : Type} {read : σ → Except ε τ}

/-- What the segments are read as that have no fault, in order. -/
def readParts (read : σ → Except ε τ) (segments : List σ) : List τ :=
  segments.filterMap fun segment => (read segment).toOption

/-- The segments that have a fault, in order, with the fault of each. -/
def faultyParts (read : σ → Except ε τ) (segments : List σ) : List (σ × ε) :=
  segments.filterMap fun segment =>
    match read segment with
    | .ok _ => none
    | .error fault => some (segment, fault)

theorem readParts_cons_ok {segment : σ} {part : τ} (found : read segment = .ok part) (segments : List σ) :
    readParts read (segment :: segments) = part :: readParts read segments :=
  List.filterMap_cons_some (by rw [found]; rfl)

theorem readParts_cons_error {segment : σ} {fault : ε} (found : read segment = .error fault)
    (segments : List σ) : readParts read (segment :: segments) = readParts read segments :=
  List.filterMap_cons_none (by rw [found]; rfl)

theorem faultyParts_cons_ok {segment : σ} {part : τ} (found : read segment = .ok part) (segments : List σ) :
    faultyParts read (segment :: segments) = faultyParts read segments :=
  List.filterMap_cons_none (by rw [found])

theorem faultyParts_cons_error {segment : σ} {fault : ε} (found : read segment = .error fault)
    (segments : List σ) :
    faultyParts read (segment :: segments) = (segment, fault) :: faultyParts read segments :=
  List.filterMap_cons_some (by rw [found])

/-- Without a faulty segment, every segment is read. -/
theorem forall₂_read_iff {segments : List σ} {parts : List τ} :
    List.Forall₂ (fun segment part => read segment = .ok part) segments parts ↔
      faultyParts read segments = [] ∧ readParts read segments = parts := by
  induction segments generalizing parts with
  | nil => simp [readParts, faultyParts, eq_comm]
  | cons segment segments ih =>
    cases found : read segment with
    | error fault =>
      rw [faultyParts_cons_error found]
      constructor
      · rintro (_ | ⟨here, -⟩)
        rw [found] at here
        cases here
      · rintro ⟨⟨⟩, -⟩
    | ok part =>
      rw [faultyParts_cons_ok found, readParts_cons_ok found]
      constructor
      · rintro (_ | ⟨here, later⟩)
        rw [found] at here
        cases here
        obtain ⟨none, rest⟩ := ih.1 later
        exact ⟨none, by rw [rest]⟩
      · rintro ⟨none, rfl⟩
        exact .cons found (ih.2 ⟨none, rfl⟩)

theorem readParts_append (segments segments' : List σ) :
    readParts read (segments ++ segments') = readParts read segments ++ readParts read segments' :=
  List.filterMap_append

theorem faultyParts_append (segments segments' : List σ) :
    faultyParts read (segments ++ segments') = faultyParts read segments ++ faultyParts read segments' :=
  List.filterMap_append

/-- Every segment is read or has a fault. -/
theorem length_readParts_add (segments : List σ) :
    (readParts read segments).length + (faultyParts read segments).length = segments.length := by
  induction segments with
  | nil => rfl
  | cons segment segments ih =>
    rw [List.length_cons, ← ih]
    cases found : read segment with
    | ok part =>
      rw [readParts_cons_ok found, faultyParts_cons_ok found, List.length_cons]
      omega
    | error fault =>
      rw [readParts_cons_error found, faultyParts_cons_error found, List.length_cons]
      omega

theorem mem_readParts {segments : List σ} {segment : σ} {part : τ} (mem : segment ∈ segments)
    (found : read segment = .ok part) : part ∈ readParts read segments :=
  List.mem_filterMap.2 ⟨segment, mem, by rw [found]; rfl⟩

theorem mem_faultyParts {segments : List σ} {segment : σ} {fault : ε} (mem : segment ∈ segments)
    (found : read segment = .error fault) : (segment, fault) ∈ faultyParts read segments :=
  List.mem_filterMap.2 ⟨segment, mem, by rw [found]⟩

/-- What is read are the good segments, one by one. -/
theorem forall₂_readParts {good : σ → Bool}
    (reads : ∀ segment, good segment = true ↔ ∃ part, read segment = .ok part) (segments : List σ) :
    List.Forall₂ (fun segment part => read segment = .ok part) (segments.filter good)
      (readParts read segments) := by
  induction segments with
  | nil => exact .nil
  | cons segment segments ih =>
    cases found : read segment with
    | ok part =>
      rw [List.filter_cons_of_pos ((reads segment).2 ⟨part, found⟩), readParts_cons_ok found]
      exact .cons found ih
    | error fault =>
      have bad : ¬ good segment = true := fun isGood => by
        obtain ⟨part, read⟩ := (reads segment).1 isGood
        cases found.symm.trans read
      rw [List.filter_cons_of_neg bad, readParts_cons_error found]
      exact ih

/-- What has a fault are the bad segments, one by one. -/
theorem forall₂_faultyParts {bad : σ → Bool}
    (fails : ∀ segment, bad segment = true ↔ ∃ fault, read segment = .error fault) (segments : List σ) :
    List.Forall₂ (fun segment part => part.1 = segment ∧ read segment = .error part.2) (segments.filter bad)
      (faultyParts read segments) := by
  induction segments with
  | nil => exact .nil
  | cons segment segments ih =>
    cases found : read segment with
    | ok part =>
      have good : ¬ bad segment = true := fun isBad => by
        obtain ⟨fault, read⟩ := (fails segment).1 isBad
        cases found.symm.trans read
      rw [List.filter_cons_of_neg good, faultyParts_cons_ok found]
      exact ih
    | error fault =>
      rw [List.filter_cons_of_pos ((fails segment).2 ⟨fault, found⟩), faultyParts_cons_error found]
      exact .cons ⟨rfl, found⟩ ih

/-- What is put together from the last segment to the first, the part or the fault of each before those of the
later ones, is what is read and what has a fault. -/
theorem collected_eq {β : Type} (collect : List σ → List τ × List β) (bad : σ → ε → β)
    (nil : collect [] = ([], []))
    (ok : ∀ {segment part} segments, read segment = .ok part →
      collect (segment :: segments) = (part :: (collect segments).1, (collect segments).2))
    (error : ∀ {segment fault} segments, read segment = .error fault →
      collect (segment :: segments) = ((collect segments).1, bad segment fault :: (collect segments).2))
    (segments : List σ) : collect segments =
      (readParts read segments, (faultyParts read segments).map fun part => bad part.1 part.2) := by
  induction segments with
  | nil => exact nil
  | cons segment segments ih =>
    cases found : read segment with
    | ok part => rw [ok segments found, ih, readParts_cons_ok found, faultyParts_cons_ok found]
    | error fault =>
      rw [error segments found, ih, readParts_cons_error found, faultyParts_cons_error found, List.map_cons]

/-- What is refused for something bad is refused just then, and with the failure given. -/
theorem ite_isEmpty_eq_error_iff {β φ : Type} {bad : List β} {accepted : τ} {given failure : φ} :
    (if bad.isEmpty then Except.ok accepted else .error given) = .error failure ↔ bad ≠ [] ∧ failure = given := by
  cases bad <;> simp [eq_comm]

end

namespace FilterText

theorem collectSegments_eq (segments : List (List Char)) :
    collectSegments segments = (readParts FilterSegment.read segments,
      (faultyParts FilterSegment.read segments).map fun part => ⟨String.ofList part.1, part.2⟩) :=
  collected_eq collectSegments (fun segment fault => ⟨String.ofList segment, fault⟩) rfl
    (fun _ found => by simp only [collectSegments, found]) (fun _ found => by simp only [collectSegments, found])
    segments

theorem criteria_eq (text : String) :
    (collect text).1 = readParts FilterSegment.read (FilterSegment.ofText text.toList) := by
  rw [collect, collectSegments_eq]

theorem bad_eq (text : String) :
    (collect text).2 = (faultyParts FilterSegment.read (FilterSegment.ofText text.toList)).map
      fun part => ⟨String.ofList part.1, part.2⟩ := by
  rw [collect, collectSegments_eq]

theorem read_eq_ok_iff {text : String} {criteria : List Criterion} : read text = .ok criteria ↔
    List.Forall₂ (fun segment criterion => FilterSegment.read segment = .ok criterion)
      (FilterSegment.ofText text.toList) criteria := by
  rw [forall₂_read_iff, read, collect, collectSegments_eq]
  cases faultyParts FilterSegment.read (FilterSegment.ofText text.toList) with
  | nil => simp
  | cons => simp

end FilterText

namespace SortText

theorem collectSegments_eq (segments : List (List Char)) :
    collectSegments segments = (readParts readSegment segments,
      (faultyParts readSegment segments).map fun part => ⟨String.ofList part.1, part.2⟩) :=
  collected_eq collectSegments (fun segment fault => ⟨String.ofList segment, fault⟩) rfl
    (fun _ found => by simp only [collectSegments, found]) (fun _ found => by simp only [collectSegments, found])
    segments

theorem read_eq_ok_iff {text : String} {keys : List SortKey} : read text = .ok keys ↔
    List.Forall₂ (fun segment key => readSegment segment = .ok key) (segments text.toList) keys := by
  rw [forall₂_read_iff, read, collect, collectSegments_eq]
  cases faultyParts readSegment (segments text.toList) with
  | nil => simp
  | cons => simp

end SortText

end QueryFilter
