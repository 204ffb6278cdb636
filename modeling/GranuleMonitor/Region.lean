import GranuleMonitor.Address

/-!
# Regions

A region is the range of granules that one table keeps. A `RegionSpec` is what somebody asks for;
`RegionSpec.check` turns it into a `Region` or names what is wrong with it. A `Region` carries the
proof that its bounds are proper, so none of the word computations below wraps: `toNat_address` and
`toNat_limit` give them in exact arithmetic, and `index?_eq_some_iff` says that looking an address
up inverts `address`.
-/

namespace GranuleMonitor

/-- A requested range of granules: where it begins and how many granules it has. -/
structure RegionSpec where
  base : Address
  count : UInt64
deriving DecidableEq, Repr

/-- Why a requested range is refused. -/
inductive RangeError where
  /-- The range does not begin at a granule boundary. -/
  | unaligned
  /-- The range has no granule. -/
  | empty
  /-- The range does not end within the address space. -/
  | overflow
deriving DecidableEq, Repr

namespace RangeError

/-- The text of a range error. -/
def message : RangeError → String
  | .unaligned => s!"base address is not aligned to {granuleSize} bytes"
  | .empty => "granule count is zero"
  | .overflow => "granule range exceeds the address space"

end RangeError

/-- A range of granules that a table can keep: aligned, not empty, and with an end that is still an
address. -/
structure Region where
  base : Address
  count : UInt64
  aligned : base.toNat % granuleSize = 0
  nonempty : 0 < count.toNat
  fits : base.toNat + granuleSize * count.toNat < UInt64.size
deriving DecidableEq

namespace RegionSpec

/-- The number of bytes in the range, if it is a word. -/
def bytes? (spec : RegionSpec) : Option UInt64 :=
  Word.mul? spec.count granuleBytes

/-- The first address behind the range, if it is a word. -/
def limit? (spec : RegionSpec) : Option Address :=
  spec.bytes?.bind (Word.add? spec.base)

/-- The range as diagnostics show it. -/
def describe (spec : RegionSpec) : String :=
  s!"GranuleConfig \x7b base: {spec.base}, count: {spec.count} \x7d"

/-- The end of a range is given exactly if it is a word. -/
theorem limit?_eq_some_iff {spec : RegionSpec} {limit : Address} :
    spec.limit? = some limit ↔
      spec.base.toNat + granuleSize * spec.count.toNat = limit.toNat := by
  have bound := limit.toNat_lt
  unfold limit? bytes?
  cases product : Word.mul? spec.count granuleBytes with
  | some bytes =>
    have exact := Word.mul?_eq_some_iff.mp product
    simp only [Option.bind_some, Word.add?_eq_some_iff, ← exact, toNat_granuleBytes, granuleSize_eq]
    omega
  | none =>
    simp only [Option.bind_none, reduceCtorEq, false_iff]
    intro sum
    have fits : spec.count.toNat * granuleBytes.toNat < UInt64.size := by
      simp only [toNat_granuleBytes, granuleSize_eq, UInt64.size] at sum ⊢
      omega
    rw [Word.mul?, if_pos fits] at product
    contradiction

/-- Checks a requested range. An unaligned base is reported before an empty range, and that before
one that is too long. -/
def check (spec : RegionSpec) : Except RangeError Region :=
  if aligned : spec.base.toNat % granuleSize = 0 then
    if nonempty : 0 < spec.count.toNat then
      match limit : spec.limit? with
      | some last =>
        .ok ⟨spec.base, spec.count, aligned, nonempty,
          limit?_eq_some_iff.mp limit ▸ last.toNat_lt⟩
      | none => .error .overflow
    else .error .empty
  else .error .unaligned

end RegionSpec

namespace Region

variable (region : Region)

/-- The number of granules in the region. -/
def size : Nat := region.count.toNat

/-- The region as a request for it. -/
def spec : RegionSpec := ⟨region.base, region.count⟩

/-- The first address behind the region. -/
def limit : Address := region.base + region.count * granuleBytes

/-- The address of the granule at an index. -/
def address (index : Fin region.size) : Address :=
  region.base + UInt64.ofNat index * granuleBytes

/-- The index of the granule at an address. An address that does not lie on a granule boundary of
the region has none. -/
def index? (addr : Address) : Option (Fin region.size) :=
  if addr % granuleBytes ≠ 0 ∨ addr < region.base then none
  else
    let index := ((addr - region.base) / granuleBytes).toNat
    if within : index < region.size then some ⟨index, within⟩ else none

theorem size_pos : 0 < region.size := region.nonempty

/-- The end of a region is computed without wrapping. -/
theorem toNat_limit : region.limit.toNat = region.base.toNat + granuleSize * region.size := by
  have fits := region.fits
  simp only [limit, size, UInt64.toNat_add, UInt64.toNat_mul, toNat_granuleBytes,
    granuleSize_eq, UInt64.size] at fits ⊢
  omega

/-- The address of a granule is computed without wrapping. -/
theorem toNat_address (index : Fin region.size) :
    (region.address index).toNat = region.base.toNat + granuleSize * index := by
  have fits := region.fits
  have within := index.isLt
  simp only [size, granuleSize_eq, UInt64.size] at within fits
  have small : (index : Nat) < 2 ^ 64 := by omega
  simp only [address, UInt64.toNat_add, UInt64.toNat_mul, toNat_granuleBytes, granuleSize_eq,
    UInt64.toNat_ofNat', Nat.mod_eq_of_lt small]
  omega

/-- Granules lie in memory in the order of their indices. -/
theorem address_lt_address_iff {index other : Fin region.size} :
    region.address index < region.address other ↔ index < other := by
  rw [UInt64.lt_iff_toNat_lt, toNat_address, toNat_address, Fin.lt_def]
  simp only [granuleSize_eq]
  omega

/-- Looking an address up finds the granule whose address it is, and no other. -/
theorem index?_eq_some_iff {addr : Address} {index : Fin region.size} :
    region.index? addr = some index ↔ addr = region.address index := by
  have aligned := region.aligned
  have atIndex := region.toNat_address index
  have within := index.isLt
  rw [← UInt64.toNat_inj, atIndex]
  unfold index?
  split
  · next rejected =>
    simp only [reduceCtorEq, false_iff]
    intro equal
    rcases rejected with unaligned | below
    · apply unaligned
      rw [← UInt64.toNat_inj, UInt64.toNat_mod, toNat_granuleBytes]
      simp only [granuleSize_eq, UInt64.toNat_zero] at aligned equal ⊢
      omega
    · have := UInt64.lt_iff_toNat_lt.mp below
      omega
  · next accepted =>
    simp only [not_or, Decidable.not_not, UInt64.not_lt] at accepted
    obtain ⟨onBoundary, above⟩ := accepted
    have boundary : addr.toNat % granuleSize = 0 := by
      have := congrArg UInt64.toNat onBoundary
      simpa only [UInt64.toNat_mod, toNat_granuleBytes, UInt64.toNat_zero] using this
    have aboveNat := UInt64.le_iff_toNat_le.mp above
    have quotient : ((addr - region.base) / granuleBytes).toNat
        = (addr.toNat - region.base.toNat) / granuleSize := by
      simp only [UInt64.toNat_div, UInt64.toNat_sub_of_le _ _ above, toNat_granuleBytes]
    simp only [quotient]
    split
    · next inside =>
      rw [Option.some.injEq, Fin.ext_iff]
      simp only [granuleSize_eq] at aligned boundary ⊢
      omega
    · next outside =>
      simp only [granuleSize_eq, reduceCtorEq, false_iff] at aligned boundary outside ⊢
      omega

/-- The address of a granule leads back to it. -/
theorem index?_address (index : Fin region.size) :
    region.index? (region.address index) = some index :=
  region.index?_eq_some_iff.mpr rfl

end Region

end GranuleMonitor
