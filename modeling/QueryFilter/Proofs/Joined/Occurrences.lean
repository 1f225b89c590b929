/-
First occurrences.

The elements of a list without those that occurred before are the list without its repetitions, in the order in
which the elements first occur (`collapses_firstOccurrences`). Leaving elements out, going on with another list and
stopping early do to them what they do to the list (`firstOccurrences_filter`, `firstOccurrences_append`,
`firstOccurrences_take`).
-/
import Mathlib.Data.List.Basic
import QueryFilter.Joined.Plan

namespace QueryFilter

variable {ρ κ : Type} [DecidableEq κ]

/-- A list without its repetitions: its elements, each once, in the order in which they first occur in it. -/
structure Collapses (keys distinct : List κ) : Prop where
  nodup : distinct.Nodup
  mem : ∀ key, key ∈ distinct ↔ key ∈ keys
  ordered : distinct.Pairwise fun key key' => keys.idxOf key < keys.idxOf key'
  erased : distinct = keys.eraseDups

theorem firstOccurrences_isEmpty (keys : List κ) : (firstOccurrences keys).isEmpty = keys.isEmpty := by
  cases keys <;> rfl

theorem firstOccurrences_eq_self {keys : List κ} (distinct : keys.Nodup) : firstOccurrences keys = keys := by
  induction keys with
  | nil => rfl
  | cons key keys ih =>
    obtain ⟨absent, others⟩ := List.nodup_cons.1 distinct
    have kept : keys.filter (fun other => other ≠ key) = keys :=
      List.filter_eq_self.2 fun other mem => by
        have ne : other ≠ key := fun same => absent (same ▸ mem)
        simpa using ne
    rw [firstOccurrences, ih others, kept]

theorem firstOccurrences_filter (p : κ → Bool) (keys : List κ) :
    firstOccurrences (keys.filter p) = (firstOccurrences keys).filter p := by
  induction keys with
  | nil => rfl
  | cons key keys ih =>
    by_cases kept : p key = true
    · rw [List.filter_cons_of_pos kept, firstOccurrences, firstOccurrences, List.filter_cons_of_pos kept, ih,
        List.filter_filter, List.filter_filter]
      congr 1
      exact List.filter_congr fun other _ => Bool.and_comm _ _
    · -- A key that is left out takes nothing with it that would have been kept.
      rw [List.filter_cons_of_neg kept, firstOccurrences, List.filter_cons_of_neg kept, ih, List.filter_filter]
      refine List.filter_congr fun other _ => ?_
      by_cases same : other = key
      · simp [same, kept]
      · simp [same]

theorem firstOccurrences_eq_eraseDups (keys : List κ) : firstOccurrences keys = keys.eraseDups := by
  induction hlen : keys.length using Nat.strongRecOn generalizing keys with
  | ind n ih =>
    cases keys with
    | nil => rfl
    | cons key keys =>
      have shorter : (keys.filter fun other => other ≠ key).length < n := by
        have bound := List.length_filter_le (fun other => decide (other ≠ key)) keys
        rw [← hlen, List.length_cons]
        omega
      rw [List.eraseDups_cons, firstOccurrences, ← firstOccurrences_filter, ih _ shorter _ rfl]
      congr 2
      exact List.filter_congr fun other _ => by by_cases same : other = key <;> simp [same]

theorem firstOccurrences_append (keys keys' : List κ) :
    firstOccurrences (keys ++ keys') =
      firstOccurrences keys ++ (firstOccurrences keys').filter fun key => key ∉ keys := by
  induction keys with
  | nil => simp [firstOccurrences]
  | cons key keys ih =>
    rw [List.cons_append, firstOccurrences, firstOccurrences, ih, List.filter_append, List.filter_filter,
      List.cons_append]
    congr 2
    refine List.filter_congr fun other _ => ?_
    by_cases same : other = key <;> simp [same]

/-- The first occurrences in a part from the beginning come first in the whole. -/
theorem firstOccurrences_take (keys : List κ) (n : Nat) :
    firstOccurrences (keys.take n) <+: firstOccurrences keys := by
  conv_rhs => rw [← List.take_append_drop n keys, firstOccurrences_append]
  exact List.prefix_append _ _

/-- First occurrences stand in the order in which they occur. -/
theorem pairwise_firstOccurrences (keys : List κ) :
    (firstOccurrences keys).Pairwise fun key key' => keys.idxOf key < keys.idxOf key' := by
  induction keys with
  | nil => exact .nil
  | cons first keys ih =>
    have other {key : κ} (mem : key ∈ (firstOccurrences keys).filter fun other => other ≠ first) : first ≠ key :=
      Ne.symm (by simpa using (List.mem_filter.1 mem).2)
    rw [firstOccurrences, List.pairwise_cons]
    constructor
    · intro key mem
      rw [List.idxOf_cons_self, List.idxOf_cons_ne _ (other mem)]
      exact Nat.succ_pos _
    · refine (ih.filter _).imp_of_mem fun mem mem' before => ?_
      rw [List.idxOf_cons_ne _ (other mem), List.idxOf_cons_ne _ (other mem')]
      exact Nat.succ_lt_succ before

theorem collapses_firstOccurrences (keys : List κ) : Collapses keys (firstOccurrences keys) where
  nodup := nodup_firstOccurrences keys
  mem _ := mem_firstOccurrences
  ordered := pairwise_firstOccurrences keys
  erased := firstOccurrences_eq_eraseDups keys

/-- The keys of sorted rows stand in the order of the first row of each. -/
theorem pairwise_firstOccurrences_map {R : ρ → ρ → Prop} (key : ρ → κ) {rows : List ρ} (sorted : rows.Pairwise R) :
    (firstOccurrences (rows.map key)).Pairwise fun k k' =>
      ∃ r ∈ rows, key r = k ∧ ∀ s ∈ rows, key s = k' → R r s := by
  induction rows with
  | nil => exact .nil
  | cons row rows ih =>
    obtain ⟨first, others⟩ := List.pairwise_cons.1 sorted
    rw [List.map_cons, firstOccurrences, List.pairwise_cons]
    constructor
    · intro k' mem
      have other : k' ≠ key row := by simpa using (List.mem_filter.1 mem).2
      refine ⟨row, List.mem_cons_self, rfl, fun s there same => ?_⟩
      rcases List.mem_cons.1 there with rfl | later
      · exact absurd same.symm other
      · exact first s later
    · refine ((ih others).filter _).imp_of_mem fun {k k'} _ mem' leads => ?_
      obtain ⟨r, there, same, before⟩ := leads
      have other : k' ≠ key row := by simpa using (List.mem_filter.1 mem').2
      refine ⟨r, List.mem_cons_of_mem _ there, same, fun s mem same' => ?_⟩
      rcases List.mem_cons.1 mem with rfl | later
      · exact absurd same'.symm other
      · exact before s later same'

end QueryFilter
