import GranuleMonitor.Region

/-!
# Which regions are accepted

A requested range is accepted exactly if its base is aligned, it has a granule, and its end is a
word, all in exact arithmetic (`RegionSpec.exists_check_iff`), and otherwise it is refused for the
first of these conditions that it fails (`RegionSpec.check_eq_error_iff`). Every region is the
outcome for the range that it covers, so a region and an accepted range are the same thing
(`RegionSpec.check_eq_ok_iff`).
-/

namespace GranuleMonitor

variable {region : Region}

/-- A region is known by the range that it covers. -/
theorem Region.spec_injective : Function.Injective Region.spec := by
  rintro ⟨base, count, _, _, _⟩ ⟨base', count', _, _, _⟩ same
  obtain ⟨rfl, rfl⟩ := RegionSpec.mk.inj same
  rfl

/-- Two granules right below the highest one of the address space. -/
def Region.highest : Region := ⟨0xffffffffffffd000, 2, by decide, by decide, by decide⟩

namespace RegionSpec

variable {spec : RegionSpec}

/-- The range of granules that is checked is the one that is asked for. -/
theorem spec_of_check (checked : spec.check = .ok region) : region.spec = spec := by
  unfold check at checked
  split at checked
  case isFalse => contradiction
  split at checked
  case isFalse => contradiction
  split at checked
  case h_2 => contradiction
  obtain rfl := Except.ok.inj checked
  rfl

/-- The size of a range is given exactly if it is a word. -/
theorem bytes?_eq_some_iff {bytes : UInt64} :
    spec.bytes? = some bytes ↔ granuleSize * spec.count.toNat = bytes.toNat := by
  rw [bytes?, Word.mul?_eq_some_iff, toNat_granuleBytes, Nat.mul_comm]

/-- The end of a range is missing exactly if it is no word. -/
theorem limit?_eq_none_iff :
    spec.limit? = none ↔ UInt64.size ≤ spec.base.toNat + granuleSize * spec.count.toNat := by
  cases limit : spec.limit? with
  | some last =>
    have exact := limit?_eq_some_iff.mp limit
    have bound := last.toNat_lt
    simp only [UInt64.size, reduceCtorEq, false_iff]
    omega
  | none =>
    refine iff_of_true rfl (Nat.le_of_not_lt fun fits => ?_)
    have given : spec.limit? =
        some (UInt64.ofNat (spec.base.toNat + granuleSize * spec.count.toNat)) := by
      rw [limit?_eq_some_iff, UInt64.toNat_ofNat', Nat.mod_eq_of_lt fits]
    rw [limit] at given
    contradiction

/-- A range that a table can keep, in exact arithmetic. -/
def Proper (spec : RegionSpec) : Prop :=
  spec.base.toNat % granuleSize = 0 ∧ 0 < spec.count.toNat ∧
    spec.base.toNat + granuleSize * spec.count.toNat < UInt64.size

/-- The condition that a range fails when it is refused for a reason: those before it hold. -/
def Violates (spec : RegionSpec) : RangeError → Prop
  | .unaligned => spec.base.toNat % granuleSize ≠ 0
  | .empty => spec.base.toNat % granuleSize = 0 ∧ spec.count.toNat = 0
  | .overflow =>
    spec.base.toNat % granuleSize = 0 ∧ 0 < spec.count.toNat ∧
      UInt64.size ≤ spec.base.toNat + granuleSize * spec.count.toNat

/-- A range is refused for a condition that it fails. -/
theorem violates_of_check {reason : RangeError} (refused : spec.check = .error reason) :
    spec.Violates reason := by
  unfold check at refused
  split at refused
  case isFalse unaligned =>
    obtain rfl := Except.error.inj refused
    exact unaligned
  case isTrue aligned =>
    split at refused
    case isFalse empty =>
      obtain rfl := Except.error.inj refused
      exact ⟨aligned, Nat.eq_zero_of_not_pos empty⟩
    case isTrue nonempty =>
      split at refused
      case h_1 => contradiction
      case h_2 overflows =>
        obtain rfl := Except.error.inj refused
        exact ⟨aligned, nonempty, limit?_eq_none_iff.mp overflows⟩

/-- A proper range fails no condition. -/
theorem Proper.not_violates (proper : spec.Proper) (reason : RangeError) :
    ¬ spec.Violates reason := by
  obtain ⟨aligned, nonempty, fits⟩ := proper
  intro violated
  cases reason with
  | unaligned => exact violated aligned
  | empty => exact Nat.ne_of_gt nonempty violated.2
  | overflow => exact Nat.not_le_of_lt fits violated.2.2

/-- The first condition that fails is a single one. -/
theorem Violates.unique {reason other : RangeError} (violated : spec.Violates reason)
    (violatedOther : spec.Violates other) : reason = other := by
  cases reason <;> cases other <;> simp only [Violates] at violated violatedOther <;>
    first | rfl | (exfalso; omega)

/-- A range is accepted exactly if it is proper. -/
theorem exists_check_iff : (∃ region, spec.check = .ok region) ↔ spec.Proper := by
  constructor
  · rintro ⟨region, checked⟩
    obtain rfl := spec_of_check checked
    exact ⟨region.aligned, region.nonempty, region.fits⟩
  · intro proper
    cases checked : spec.check with
    | ok region => exact ⟨region, rfl⟩
    | error reason => exact absurd (violates_of_check checked) (proper.not_violates reason)

/-- An aligned range with a granule that ends at a word is accepted. -/
theorem exists_check (aligned : spec.base.toNat % granuleSize = 0)
    (nonempty : 0 < spec.count.toNat)
    (fits : spec.base.toNat + granuleSize * spec.count.toNat < UInt64.size) :
    ∃ region, spec.check = .ok region :=
  exists_check_iff.mpr ⟨aligned, nonempty, fits⟩

/-- A range is refused for the first condition that it fails. -/
theorem check_eq_error_iff {reason : RangeError} :
    spec.check = .error reason ↔ spec.Violates reason := by
  refine ⟨violates_of_check, fun violated => ?_⟩
  cases checked : spec.check with
  | ok region => exact absurd violated ((exists_check_iff.mp ⟨region, checked⟩).not_violates reason)
  | error other => rw [(violates_of_check checked).unique violated]

/-- A range is accepted as a region exactly if the region covers that range. -/
theorem check_eq_ok_iff : spec.check = .ok region ↔ region.spec = spec := by
  refine ⟨spec_of_check, ?_⟩
  rintro rfl
  obtain ⟨accepted, checked⟩ : ∃ accepted, region.spec.check = .ok accepted :=
    exists_check region.aligned region.nonempty region.fits
  rw [checked, Region.spec_injective (spec_of_check checked)]

end RegionSpec

end GranuleMonitor
