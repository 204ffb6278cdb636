import GranuleMonitor.Lock
import GranuleMonitor.Notice

/-!
# Where descriptors lie

The descriptors of a table lie in memory one after the other, so a pointer to one of them tells
which granule it is about. `Layout.addressAt` computes that from the pointer alone, and turns
down a pointer below the table, into a descriptor or behind the table.
-/

namespace GranuleMonitor

/-- Where the descriptors of a region's granules lie: the first one at a pointer, and each other one
right behind the one before it. -/
structure Layout (region : Region) where
  first : UInt64
  fits : first.toNat + Notice.descriptorBytes * region.size ≤ UInt64.size

/-- Why a pointer is not that of a descriptor of a table. -/
inductive PointerError where
  | below
  /-- It points into a descriptor, so many bytes behind where that begins. -/
  | misaligned (excess : UInt64)
  | above
deriving DecidableEq, Repr

/-- The text of a pointer error. -/
def PointerError.message : PointerError → String
  | .below => "granule descriptor below the table"
  | .misaligned excess =>
    Fault.comparisonText "==" ": misaligned granule descriptor" (toString excess) "0"
  | .above => "granule descriptor above the table"

namespace Layout

variable {region : Region} (layout : Layout region)

/-- The size of a descriptor as a word, for pointer arithmetic. -/
abbrev stride : UInt64 := 16

theorem toNat_stride : stride.toNat = Notice.descriptorBytes := rfl

/-- The pointer to the descriptor of the granule at an index. -/
def pointer (index : Fin region.size) : UInt64 :=
  layout.first + UInt64.ofNat index * stride

/-- The address of the granule whose descriptor a pointer leads to. -/
def addressAt (pointer : UInt64) : Except PointerError Address :=
  if pointer < layout.first then .error .below
  else
    let offset := pointer - layout.first
    if offset % stride ≠ 0 then .error (.misaligned (offset % stride))
    else
      let index := (offset / stride).toNat
      if within : index < region.size then .ok (region.address ⟨index, within⟩)
      else .error .above

/-- The pointer to a descriptor is computed without wrapping. -/
theorem toNat_pointer (index : Fin region.size) :
    (layout.pointer index).toNat =
      layout.first.toNat + Notice.descriptorBytes * index := by
  have fits := layout.fits
  have within := index.isLt
  simp only [Notice.descriptorBytes, UInt64.size] at fits
  have small : (index : Nat) < 2 ^ 64 := by omega
  simp only [pointer, UInt64.toNat_add, UInt64.toNat_mul, toNat_stride, Notice.descriptorBytes,
    UInt64.toNat_ofNat', Nat.mod_eq_of_lt small]
  omega

/-- A pointer leads to an address exactly if it is the pointer to a descriptor of the table, and
then to the address of that descriptor's granule. -/
theorem addressAt_eq_ok_iff {pointer : UInt64} {addr : Address} :
    layout.addressAt pointer = .ok addr ↔
      ∃ index, pointer = layout.pointer index ∧ addr = region.address index := by
  have atIndex (index : Fin region.size) : pointer = layout.pointer index ↔
      pointer.toNat = layout.first.toNat + Notice.descriptorBytes * index := by
    rw [← UInt64.toNat_inj, layout.toNat_pointer]
  simp only [atIndex, Notice.descriptorBytes]
  unfold addressAt
  split
  · next below =>
    have belowNat := UInt64.lt_iff_toNat_lt.mp below
    simp only [reduceCtorEq, false_iff]
    rintro ⟨index, exact, -⟩
    omega
  next above =>
  have difference := UInt64.toNat_sub_of_le _ _ (UInt64.not_lt.mp above)
  have aboveNat := UInt64.le_iff_toNat_le.mp (UInt64.not_lt.mp above)
  have boundary : (pointer - layout.first) % stride = 0 ↔
      (pointer.toNat - layout.first.toNat) % 16 = 0 := by
    rw [← UInt64.toNat_inj, UInt64.toNat_mod, difference, UInt64.toNat_zero]
    rfl
  have quotient : ((pointer - layout.first) / stride).toNat =
      (pointer.toNat - layout.first.toNat) / 16 := by
    rw [UInt64.toNat_div, difference]
    rfl
  dsimp only
  split
  · next inside =>
    rw [ne_eq, boundary] at inside
    simp only [reduceCtorEq, false_iff]
    rintro ⟨index, exact, -⟩
    omega
  next aligned =>
  rw [ne_eq, boundary, Decidable.not_not] at aligned
  simp only [quotient]
  split
  · next within =>
    constructor
    · intro found
      exact ⟨⟨_, within⟩, by dsimp only; omega, (Except.ok.inj found).symm⟩
    · rintro ⟨index, exact, rfl⟩
      have same : (⟨(pointer.toNat - layout.first.toNat) / 16, within⟩ : Fin region.size) =
          index := Fin.ext (by dsimp only; omega)
      rw [same]
  · next behind =>
    simp only [reduceCtorEq, false_iff]
    rintro ⟨index, exact, -⟩
    have within := index.isLt
    omega

end Layout

end GranuleMonitor
