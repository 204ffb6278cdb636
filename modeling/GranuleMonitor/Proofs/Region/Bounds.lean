import GranuleMonitor.Layout
import GranuleMonitor.Proofs.Benchmark.Selection
import GranuleMonitor.Proofs.Region.Check

/-!
# Addresses that do not wrap

The check of a range is the only one. Behind it, all addresses of a table are computed by plain word
arithmetic, which would wrap or, in a build that watches over it, break the operation off. Here each
computation has a twin in which every sum, difference and product is checked. `Region.Unwrapped`
says that the twins always come to their end, with what the plain computation gives. Every region
that is accepted is unwrapped, up to the very end of the address space, which is
`RegionSpec.check_prevents_wrapping`.
-/

namespace GranuleMonitor

/-- The address that lies a number of granules behind a base, with every step checked. -/
def granuleBehind? (base : Address) (index : UInt64) : Option Address :=
  (Word.mul? index granuleBytes).bind (Word.add? base)

/-- Behind a base, an address is given exactly if it is one in exact arithmetic. -/
theorem granuleBehind?_eq_some_iff {base addr : Address} {index : UInt64} :
    granuleBehind? base index = some addr ↔
      base.toNat + granuleSize * index.toNat = addr.toNat := by
  have exact := @RegionSpec.limit?_eq_some_iff ⟨base, index⟩ addr
  exact exact

namespace Region

variable (region : Region)

/-- Looking an address up, with every step checked. -/
def checkedIndex? (addr : Address) : Option (Option (Fin region.size)) :=
  if addr % granuleBytes ≠ 0 ∨ addr < region.base then some none
  else
    (Word.sub? addr region.base).map fun distance =>
      let index := (distance / granuleBytes).toNat
      if within : index < region.size then some ⟨index, within⟩ else none

/-- The address of the granule that a random word selects, with every step checked. -/
def checkedRandomAddress? (word : UInt32) : Option Address :=
  if region.count = 0 then none else granuleBehind? region.base (word.toUInt64 % region.count)

/-- An address that is not that of a granule, with every step checked. -/
def checkedRandomInvalidAddress? (word : UInt32) : Option Address :=
  let offset := word.toUInt64 % granuleBytes
  if offset = 0 then granuleBehind? region.base region.count else Word.add? region.base offset

end Region

/-- The address that a pointer to a descriptor leads to, with every step checked. -/
def Layout.checkedAddressAt? {region : Region} (layout : Layout region)
    (pointer : UInt64) : Option (Except PointerError Address) :=
  if pointer < layout.first then some (.error .below)
  else
    (Word.sub? pointer layout.first).bind fun offset =>
      if offset % stride ≠ 0 then some (.error (.misaligned (offset % stride)))
      else
        let index := offset / stride
        if index.toNat < region.size then (granuleBehind? region.base index).map .ok
        else some (.error .above)

/-- All computations of addresses go without wrapping. -/
structure Region.Unwrapped (region : Region) : Prop where
  /-- The end of the region. -/
  limit : granuleBehind? region.base region.count = some region.limit
  /-- The addresses of its granules, as they are listed. -/
  address : ∀ index : Fin region.size,
    granuleBehind? region.base (UInt64.ofNat index) = some (region.address index)
  /-- The index of any address whatsoever. -/
  index : ∀ addr, region.checkedIndex? addr = some (region.index? addr)
  /-- What is reported of an address that is not that of a granule: it names the end. -/
  report : ∀ addr cause, region.entryAt addr = .error cause →
    (granuleBehind? region.base region.count).map (.notAGranule addr region.base) = some cause
  /-- The address of the granule that a pointer is about, wherever the descriptors lie. -/
  pointer : ∀ (layout : Layout region) pointer,
    layout.checkedAddressAt? pointer = some (layout.addressAt pointer)
  /-- The address that is looked up by a workload. -/
  random : ∀ word, region.checkedRandomAddress? word = some (region.randomAddress word)
  /-- The address that a workload wants to be turned down. -/
  randomInvalid : ∀ word,
    region.checkedRandomInvalidAddress? word = some (region.randomInvalidAddress word)
  /-- The addresses of a set that a workload locks. -/
  randomSet : ∀ {σ : Type} (source : Source σ UInt32) (state : σ) (size : Nat), 0 < size →
    size ≤ region.size → ∀ request ∈ (region.randomSet size source state).1.toList,
      ∃ index < region.size,
        granuleBehind? region.base (UInt64.ofNat index) = some request.addr

namespace Region

variable (region : Region)

theorem toNat_ofNat_index (index : Fin region.size) :
    (UInt64.ofNat index).toNat = index := by
  have bound := region.count.toNat_lt
  have within := index.isLt
  rw [UInt64.toNat_ofNat', Nat.mod_eq_of_lt (Nat.lt_trans within bound)]

theorem granuleBehind?_count : granuleBehind? region.base region.count = some region.limit :=
  granuleBehind?_eq_some_iff.mpr region.toNat_limit.symm

theorem granuleBehind?_index (index : Fin region.size) :
    granuleBehind? region.base (UInt64.ofNat index) = some (region.address index) := by
  rw [granuleBehind?_eq_some_iff, region.toNat_ofNat_index, region.toNat_address]

theorem checkedIndex?_eq (addr : Address) :
    region.checkedIndex? addr = some (region.index? addr) := by
  unfold checkedIndex? index?
  split
  · rfl
  · next accepted =>
    have above : region.base ≤ addr := UInt64.not_lt.mp fun below => accepted (.inr below)
    rw [Word.sub?, if_pos above]
    rfl

theorem checkedRandomInvalidAddress?_eq (word : UInt32) :
    region.checkedRandomInvalidAddress? word = some (region.randomInvalidAddress word) := by
  unfold checkedRandomInvalidAddress? randomInvalidAddress
  dsimp only
  split
  · exact region.granuleBehind?_count
  · -- the first granule alone leaves room for the offset
    have fits := region.fits
    have nonempty := region.nonempty
    have offset := toNat_offset_lt word
    refine if_pos ?_
    simp only [granuleSize_eq] at fits offset
    omega

end Region

namespace Layout

variable {region : Region}

theorem checkedAddressAt?_eq (layout : Layout region) (pointer : UInt64) :
    layout.checkedAddressAt? pointer = some (layout.addressAt pointer) := by
  unfold checkedAddressAt? addressAt
  split
  · rfl
  next accepted =>
  rw [Word.sub?, if_pos (UInt64.not_lt.mp accepted), Option.bind_some]
  dsimp only
  split
  · rfl
  split
  · next within =>
    have exact := region.granuleBehind?_index ⟨_, within⟩
    dsimp only at exact
    rw [UInt64.ofNat_toNat] at exact
    rw [exact]
    rfl
  · rfl

end Layout

/-- No computation of addresses wraps in a region. -/
theorem Region.unwrapped (region : Region) : region.Unwrapped where
  limit := region.granuleBehind?_count
  address := region.granuleBehind?_index
  index := region.checkedIndex?_eq
  report addr cause failed := by
    rw [entryAt] at failed
    rw [region.granuleBehind?_count, Option.map_some]
    cases known : region.index? addr with
    | some index => simp [known] at failed
    | none =>
      rw [known] at failed
      exact congrArg some (Except.error.inj failed)
  pointer layout := layout.checkedAddressAt?_eq
  random word := by
    obtain ⟨index, -, same, selected⟩ := region.randomAddress_eq word
    have nonempty : region.count ≠ 0 := by
      intro empty
      have positive := region.nonempty
      rw [empty] at positive
      exact absurd positive (by decide)
    rw [checkedRandomAddress?, if_neg nonempty, ← same, selected, region.granuleBehind?_index]
  randomInvalid := region.checkedRandomInvalidAddress?_eq
  randomSet source state size positive enough request member := by
    obtain ⟨index, rfl⟩ := mem_randomSet positive enough member
    exact ⟨index, index.isLt, region.granuleBehind?_index index⟩

/-- A range is accepted exactly if it is aligned, not empty and ends at a word, and otherwise the
first of these conditions that fails is reported. Size and end of any range are given exactly if
they are words. In a region that is accepted, no computation of addresses wraps. -/
theorem RegionSpec.check_prevents_wrapping (spec : RegionSpec) :
    ((∃ region, spec.check = .ok region) ↔
      spec.base.toNat % granuleSize = 0 ∧ 1 ≤ spec.count.toNat ∧
        spec.base.toNat + granuleSize * spec.count.toNat ≤ UInt64.size - 1) ∧
    (spec.check = .error .unaligned ↔ spec.base.toNat % granuleSize ≠ 0) ∧
    (spec.check = .error .empty ↔
      spec.base.toNat % granuleSize = 0 ∧ spec.count.toNat = 0) ∧
    (spec.check = .error .overflow ↔
      spec.base.toNat % granuleSize = 0 ∧ 1 ≤ spec.count.toNat ∧
        UInt64.size - 1 < spec.base.toNat + granuleSize * spec.count.toNat) ∧
    (spec.bytes?.isSome ↔ granuleSize * spec.count.toNat < UInt64.size) ∧
    (∀ bytes, spec.bytes? = some bytes → bytes.toNat = granuleSize * spec.count.toNat) ∧
    (spec.limit?.isSome ↔ spec.base.toNat + granuleSize * spec.count.toNat < UInt64.size) ∧
    (∀ limit, spec.limit? = some limit →
      limit.toNat = spec.base.toNat + granuleSize * spec.count.toNat) ∧
    ∀ region, spec.check = .ok region → region.spec = spec ∧ region.Unwrapped := by
  refine ⟨?accepted, RegionSpec.check_eq_error_iff, RegionSpec.check_eq_error_iff, ?overflow,
    ?bytesGiven, ?bytes, ?limitGiven, ?limit, ?unwrapped⟩
  case accepted =>
    rw [RegionSpec.exists_check_iff]
    refine and_congr_right fun _ => and_congr_right fun _ => ?_
    simp only [UInt64.size]
    omega
  case overflow =>
    rw [RegionSpec.check_eq_error_iff]
    refine and_congr_right fun _ => and_congr_right fun _ => ?_
    simp only [UInt64.size]
    omega
  case bytesGiven =>
    rw [Option.isSome_iff_exists]
    constructor
    · rintro ⟨bytes, given⟩
      rw [RegionSpec.bytes?_eq_some_iff.mp given]
      exact bytes.toNat_lt
    · intro fits
      exact ⟨_, RegionSpec.bytes?_eq_some_iff.mpr (UInt64.toNat_ofNat_of_lt fits).symm⟩
  case bytes => exact fun _ given => (RegionSpec.bytes?_eq_some_iff.mp given).symm
  case limitGiven =>
    rw [Option.isSome_iff_ne_none, ne_eq, RegionSpec.limit?_eq_none_iff, Nat.not_le]
  case limit => exact fun _ given => (RegionSpec.limit?_eq_some_iff.mp given).symm
  case unwrapped =>
    exact fun region accepted => ⟨RegionSpec.spec_of_check accepted, region.unwrapped⟩

/-- The highest granules that are accepted end one granule below the end of the address space, where
nothing wraps. With one granule more, the exact end is no word any more. -/
theorem Region.highest_prevents_wrapping :
    highest.spec.check = .ok highest ∧ highest.Unwrapped ∧
      (RegionSpec.mk highest.base 3).check = .error .overflow ∧
      (RegionSpec.mk highest.base 3).limit?.isSome = false := by
  have ⟨accepted, _, _, _, _, _, _, _, unwrapped⟩ :=
    RegionSpec.check_prevents_wrapping highest.spec
  have ⟨_, _, _, overflow, _, _, limit, _, _⟩ :=
    RegionSpec.check_prevents_wrapping ⟨highest.base, 3⟩
  obtain ⟨region, checked⟩ := accepted.mpr (by decide)
  obtain ⟨same, unwrapped⟩ := unwrapped region checked
  obtain rfl := Region.spec_injective same
  refine ⟨checked, unwrapped, overflow.mpr (by decide), ?_⟩
  rw [Bool.eq_false_iff, ne_eq, limit]
  decide

end GranuleMonitor
