/-
Page sizes within limits.

A limit that is wanted and positive is lowered to the maximum; otherwise the default is taken as it is. So the
maximum bounds every page of the limits whose default it bounds: the standard ones and those that are built
(`PageLimits.Configured`). Settings that are read are taken as they stand, each part alone, and a lowered maximum
may fall below the standard default: then the maximum is kept exactly for the limits that were wanted, and
bringing the others within the limits once more changes them (`Request.within_limits_iff`).
-/
import QueryFilter.Json.Read
import QueryFilter.Service

namespace QueryFilter

/-! ## Limits -/

/-- The limits that settings give are at least one, whatever else they give. -/
def Json.GivesPositive : Json → Prop
  | .object members => ∀ name ∈ ["default_limit", "max_limit"], ∀ n, member? name members = some (.integer n) → 1 ≤ n
  | .array items => ∀ n, .integer n ∈ items → 1 ≤ n
  | _ => True

theorem Json.integer?_eq_some {json : Json} {n : Int} (read : json.integer? = some n) : json = .integer n := by
  cases json with
  | integer m =>
    obtain ⟨rfl, -⟩ := Whole.inRange?_eq_some_iff.1 read
    rfl
  | _ => cases read

/-- A limit of settings is given, or it is the standard one. -/
theorem Json.memberOr?_positive {name : String} {members : List (String × Json)} {standard n : Int}
    (given : ∀ n, member? name members = some (.integer n) → 1 ≤ n) (positive : 1 ≤ standard)
    (read : memberOr? name standard integer? members = some n) : 1 ≤ n := by
  unfold memberOr? at read
  split at read
  · rename_i json found
    exact given n (by rw [found, Json.integer?_eq_some read])
  · cases read
    exact positive

namespace PageLimits

theorem positive_of_ofJson? {json : Json} {limits : PageLimits} (given : json.GivesPositive)
    (read : ofJson? json = some limits) : 1 ≤ limits.default ∧ 1 ≤ limits.maximum := by
  unfold ofJson? at read
  split at read
  · rename_i members
    simp only [bind, Option.bind_eq_some_iff] at read
    obtain ⟨default, hasDefault, maximum, hasMaximum, made⟩ := read
    cases made
    exact ⟨Json.memberOr?_positive (given _ (by simp)) (by decide) hasDefault,
      Json.memberOr?_positive (given _ (by simp)) (by decide) hasMaximum⟩
  · cases read
    decide
  · simp only [bind, Option.bind_eq_some_iff] at read
    obtain ⟨default, hasDefault, made⟩ := read
    cases made
    exact ⟨given _ (by simp [Json.integer?_eq_some hasDefault]), by simp [standard]⟩
  · simp only [bind, Option.bind_eq_some_iff] at read
    obtain ⟨default, hasDefault, maximum, hasMaximum, made⟩ := read
    cases made
    exact ⟨given _ (by simp [Json.integer?_eq_some hasDefault]), given _ (by simp [Json.integer?_eq_some hasMaximum])⟩
  · cases read

/-- How limits come about: as the standard ones, by being built, or by being read from settings that give at least
one. -/
inductive Configured : PageLimits → Prop where
  | standard : Configured .standard
  | built (default maximum : Option Int) : Configured (build default maximum)
  | read {json : Json} {limits : PageLimits} (given : json.GivesPositive) (read : ofJson? json = some limits) :
    Configured limits

theorem Configured.positive {limits : PageLimits} (configured : limits.Configured) :
    1 ≤ limits.default ∧ 1 ≤ limits.maximum := by
  cases configured with
  | standard => decide
  | built default maximum =>
    have bounds := build_bounds default maximum
    exact ⟨bounds.1, Int.le_trans bounds.1 bounds.2⟩
  | read given read => exact positive_of_ofJson? given read

variable {limits : PageLimits}

/-- The default of limits that were not read is within their maximum. -/
theorem default_le_of_built (built : limits = .standard ∨ ∃ default maximum, limits = build default maximum) :
    limits.default ≤ limits.maximum := by
  obtain rfl | ⟨default, maximum, rfl⟩ := built
  · decide
  · exact (build_bounds default maximum).2

/-- A limit that is wanted and can be had, up to the maximum. -/
def IsWanted (wanted : Option Int) : Prop :=
  ∃ limit, wanted = some limit ∧ 0 < limit

theorem clampLimit_of_isWanted {limit : Int} (positive : 0 < limit) :
    limits.clampLimit (some limit) = min limit limits.maximum := by
  rw [clampLimit, if_pos positive]

theorem clampLimit_of_not_isWanted {wanted : Option Int} (not : ¬ IsWanted wanted) :
    limits.clampLimit wanted = limits.default := by
  cases wanted with
  | none => rfl
  | some limit =>
    rw [clampLimit, if_neg]
    exact fun positive => not ⟨limit, rfl, positive⟩

theorem one_le_clampLimit (configured : limits.Configured) (wanted : Option Int) : 1 ≤ limits.clampLimit wanted := by
  obtain ⟨default, maximum⟩ := configured.positive
  by_cases isWanted : IsWanted wanted
  · obtain ⟨limit, rfl, positive⟩ := isWanted
    rw [clampLimit_of_isWanted positive]
    omega
  · rwa [clampLimit_of_not_isWanted isWanted]

theorem clampLimit_le_iff (wanted : Option Int) :
    limits.clampLimit wanted ≤ limits.maximum ↔ IsWanted wanted ∨ limits.default ≤ limits.maximum := by
  by_cases isWanted : IsWanted wanted
  · obtain ⟨limit, rfl, positive⟩ := isWanted
    rw [clampLimit_of_isWanted positive]
    exact ⟨fun _ => .inl ⟨limit, rfl, positive⟩, fun _ => Int.min_le_right _ _⟩
  · rw [clampLimit_of_not_isWanted isWanted, or_iff_right isWanted]

/-- Of positive limits, those within the maximum stay as they are. -/
theorem clampLimit_eq_self_iff {limit : Int} (positive : 1 ≤ limit) :
    limits.clampLimit (some limit) = limit ↔ limit ≤ limits.maximum := by
  rw [clampLimit_of_isWanted (by omega)]
  omega

theorem clampOffset_nonneg (offset : Option Int) : 0 ≤ limits.clampOffset offset :=
  Int.le_max_right _ _

theorem clampOffset_eq_self {offset : Int} (nonneg : 0 ≤ offset) : limits.clampOffset (some offset) = offset :=
  Int.max_eq_left nonneg

end PageLimits

/-! ## Requests -/

namespace Request

open PageLimits (IsWanted)

/-- How a request gets its window from limits, and the limit that was wanted: the request is made with it, or read
with it and brought within the limits, or made with it by a service. -/
inductive Limited (limits : PageLimits) : Option Int → Request → Prop where
  | new (limit offset : Option Int) : Limited limits limit (Request.new limits limit offset)
  | clamped (request : Request) : Limited limits (some request.limit) (request.clamped limits)
  | service (catalog : Catalog) (limit offset : Option Int) (filter sort : Option String) :
    Limited limits limit (Service.request ⟨catalog, limits⟩ limit offset filter sort)

variable {limits : PageLimits} {wanted : Option Int} {request : Request}

theorem Limited.window (limited : Limited limits wanted request) :
    request.limit = limits.clampLimit wanted ∧ ∃ offset, request.offset = limits.clampOffset offset := by
  cases limited with
  | new limit offset => exact ⟨rfl, offset, rfl⟩
  | clamped request => exact ⟨rfl, some request.offset, rfl⟩
  | service catalog limit offset filter sort => cases filter <;> cases sort <;> exact ⟨rfl, offset, rfl⟩

theorem clamped_eq_self_iff :
    request.clamped limits = request ↔ limits.clampLimit (some request.limit) = request.limit
      ∧ limits.clampOffset (some request.offset) = request.offset := by
  obtain ⟨limit, offset, filterText, sortText, filters, sorts⟩ := request
  simp [clamped]

/-- **Pages within limits.** The page of a request has at least one row and begins at a row. It is within the maximum,
and stays as it is when it is brought within the limits again, exactly when a limit was wanted or the default is
within the maximum; and so it is unless the limits were read. -/
theorem within_limits_iff (configured : limits.Configured) (limited : Limited limits wanted request) :
    1 ≤ request.limit ∧ 0 ≤ request.offset
      ∧ (request.limit ≤ limits.maximum ↔ IsWanted wanted ∨ limits.default ≤ limits.maximum)
      ∧ (request.clamped limits = request ↔ IsWanted wanted ∨ limits.default ≤ limits.maximum)
      ∧ ((limits = .standard ∨ ∃ default maximum, limits = PageLimits.build default maximum) →
        limits.default ≤ limits.maximum) := by
  obtain ⟨limit, start, offset⟩ := limited.window
  have positive : 1 ≤ request.limit := limit ▸ PageLimits.one_le_clampLimit configured wanted
  have nonneg : 0 ≤ request.offset := offset ▸ PageLimits.clampOffset_nonneg start
  have bounded : request.limit ≤ limits.maximum ↔ IsWanted wanted ∨ limits.default ≤ limits.maximum := by
    rw [limit]
    exact PageLimits.clampLimit_le_iff wanted
  refine ⟨positive, nonneg, bounded, ?_, PageLimits.default_le_of_built⟩
  rw [clamped_eq_self_iff, PageLimits.clampLimit_eq_self_iff positive, bounded]
  exact and_iff_left (PageLimits.clampOffset_eq_self nonneg)

end Request

namespace Sample

/-- Settings that lower the maximum below the standard default and leave the default out. -/
def loweredSettings : Json :=
  .object [("max_limit", .integer 10)]

def loweredLimits : PageLimits :=
  ⟨20, 10⟩

theorem loweredLimits_configured : loweredLimits.Configured := by
  have given : loweredSettings.GivesPositive := by
    intro name known n found
    simp only [List.mem_cons, List.not_mem_nil, or_false] at known
    rcases known with rfl | rfl
    · cases found
    · cases found
      decide
  exact .read given (by decide +kernel)

end Sample

open Sample in
/-- Thirty rows were wanted, ten are had. -/
theorem Request.within_limits_iff_lowered :
    loweredLimits.Configured
      ∧ Limited loweredLimits (some 30) (Request.new loweredLimits (some 30) (some (-5)))
      ∧ (Request.new loweredLimits (some 30) (some (-5))).limit ≤ 10
      ∧ (Request.new loweredLimits (some 30) (some (-5))).clamped loweredLimits
        = Request.new loweredLimits (some 30) (some (-5)) := by
  have limited : Limited loweredLimits (some 30) (Request.new loweredLimits (some 30) (some (-5))) :=
    .new (some 30) (some (-5))
  have wanted : PageLimits.IsWanted (some 30) := ⟨30, rfl, by decide⟩
  obtain ⟨-, -, bounded, again, -⟩ := within_limits_iff loweredLimits_configured limited
  exact ⟨loweredLimits_configured, limited, bounded.2 (.inl wanted), again.2 (.inl wanted)⟩

open Sample in
/-- When no limit is wanted, the lowered limits give twenty rows, and ten when they are asked again. -/
theorem Request.exceeds_lowered_maximum :
    loweredLimits.Configured
      ∧ ¬ (Request.new loweredLimits none none).limit ≤ loweredLimits.maximum
      ∧ (Request.new loweredLimits none none).clamped loweredLimits ≠ Request.new loweredLimits none none :=
  ⟨loweredLimits_configured, by decide, by decide⟩

end QueryFilter
