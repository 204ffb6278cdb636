import GranuleMonitor.Fault
import GranuleMonitor.Region

/-!
# Memory

The content of a range of granules. Memory is obtained from a `Host`, which places it at a fixed
address and can provide only so many granules. New memory is zero. Memory is as large as its number
of bytes says, and does its own check of addresses: `index?` compares byte addresses with the bounds
of the range, and `index?_eq_some_iff` says that exactly the granule boundaries inside are accepted.
-/

namespace GranuleMonitor

/-- The content of one granule. -/
abbrev Page := Vector UInt8 granuleSize

/-- Where memory can be had: the address it will have, and the largest number of granules. -/
structure Host where
  base : Address
  capacity : Nat
  base_pos : 0 < base.toNat
  aligned : base.toNat % granuleSize = 0
  fits : base.toNat + granuleSize * capacity < UInt64.size

/-- A host whose memory begins at 64 GiB and is limited to 48-bit addresses. -/
def Host.desktop : Host where
  base := 0x1000000000
  capacity := 0xfffffffff
  base_pos := by decide
  aligned := by decide
  fits := by decide

/-- Why memory could not be had. -/
inductive MemoryError where
  /-- No memory has this number of granules. -/
  | invalidCount
  /-- The host has no room for so many granules. -/
  | outOfMemory
deriving DecidableEq, Repr

namespace MemoryError

/-- The text of a memory error. -/
def message : MemoryError → String
  | .invalidCount => "invalid granule count"
  | .outOfMemory => "Cannot allocate memory (os error 12)"

end MemoryError

/-- The content of consecutive granules. -/
structure Memory where
  base : Address
  pages : Array Page
  aligned : base.toNat % granuleSize = 0
  fits : base.toNat + granuleSize * pages.size < UInt64.size

namespace Memory

/-- A page that holds one value throughout. -/
def page (value : UInt8) : Page := .replicate granuleSize value

/-- No memory at all. -/
def absent : Memory where
  base := 0
  pages := #[]
  aligned := by decide
  fits := by decide

/-- The number of bytes in a number of granules, if it is a word other than zero. -/
def bytes? (count : UInt64) : Option UInt64 :=
  (Word.mul? count granuleBytes).filter (0 < ·)

/-- The number of bytes is exact, and given whenever it is a word other than zero. -/
theorem bytes?_eq_some_iff {count bytes : UInt64} :
    bytes? count = some bytes ↔ 0 < count.toNat ∧ granuleSize * count.toNat = bytes.toNat := by
  simp only [bytes?, Option.filter_eq_some_iff, Word.mul?_eq_some_iff, toNat_granuleBytes,
    granuleSize_eq, decide_eq_true_eq, UInt64.lt_iff_toNat_lt, UInt64.toNat_zero]
  omega

/-- Obtains zeroed memory of a number of granules. -/
def obtain (host : Host) (count : UInt64) : Except MemoryError Memory :=
  match bytes? count with
  | none => .error .invalidCount
  | some bytes =>
    if within : bytes.toNat / granuleSize ≤ host.capacity then
      .ok {
        base := host.base
        pages := .replicate (bytes.toNat / granuleSize) (page 0)
        aligned := host.aligned
        fits := by
          have fits := host.fits
          simp only [granuleSize_eq, Array.size_replicate] at fits within ⊢
          omega }
    else .error .outOfMemory

variable (memory : Memory)

/-- The number of bytes in memory. -/
def size : UInt64 := UInt64.ofNat (granuleSize * memory.pages.size)

/-- The number of granules in memory. -/
def granuleCount : UInt64 := memory.size / granuleBytes

/-- The range of granules that the memory backs. -/
def spec : RegionSpec := ⟨memory.base, memory.granuleCount⟩

/-- The first address behind the memory. -/
def limit : Address := memory.base + memory.size

/-- The size of memory is a word. -/
theorem toNat_size : memory.size.toNat = granuleSize * memory.pages.size := by
  have fits := memory.fits
  simp only [size, UInt64.toNat_ofNat', granuleSize_eq, UInt64.size] at fits ⊢
  omega

theorem toNat_granuleCount : memory.granuleCount.toNat = memory.pages.size := by
  rw [granuleCount, UInt64.toNat_div, toNat_size, toNat_granuleBytes]
  simp only [granuleSize_eq]
  omega

/-- The end of memory is computed without wrapping. -/
theorem toNat_limit :
    memory.limit.toNat = memory.base.toNat + granuleSize * memory.pages.size := by
  have fits := memory.fits
  simp only [limit, UInt64.toNat_add, toNat_size, granuleSize_eq, UInt64.size] at fits ⊢
  omega

/-- The place of the granule at an address of the memory. -/
def index? (addr : Address) : Option (Fin memory.pages.size) :=
  if backed : addr % granuleBytes = 0 ∧ memory.base ≤ addr ∧ addr < memory.limit then
    some ⟨((addr - memory.base) / granuleBytes).toNat, by
      obtain ⟨_, above, below⟩ := backed
      have belowNat := UInt64.lt_iff_toNat_lt.mp below
      have aboveNat := UInt64.le_iff_toNat_le.mp above
      rw [memory.toNat_limit] at belowNat
      simp only [UInt64.toNat_div, UInt64.toNat_sub_of_le _ _ above, toNat_granuleBytes,
        granuleSize_eq] at belowNat ⊢
      omega⟩
  else none

/-- Exactly the granule boundaries inside the memory are accepted. -/
theorem index?_eq_some_iff {addr : Address} {index : Fin memory.pages.size} :
    memory.index? addr = some index ↔
      addr.toNat = memory.base.toNat + granuleSize * index := by
  have aligned := memory.aligned
  have fits := memory.fits
  have within := index.isLt
  have limit := memory.toNat_limit
  have boundary : addr % granuleBytes = 0 ↔ addr.toNat % granuleSize = 0 := by
    rw [← UInt64.toNat_inj, UInt64.toNat_mod, toNat_granuleBytes, UInt64.toNat_zero]
  unfold index?
  split
  · next backed =>
    obtain ⟨onBoundary, above, _⟩ := backed
    rw [boundary] at onBoundary
    have aboveNat := UInt64.le_iff_toNat_le.mp above
    rw [Option.some.injEq, Fin.ext_iff]
    simp only [UInt64.toNat_div, UInt64.toNat_sub_of_le _ _ above, toNat_granuleBytes,
      granuleSize_eq] at aligned onBoundary ⊢
    omega
  · next unbacked =>
    simp only [reduceCtorEq, false_iff]
    intro equal
    apply unbacked
    rw [boundary, UInt64.le_iff_toNat_le, UInt64.lt_iff_toNat_lt, limit]
    simp only [granuleSize_eq] at aligned equal ⊢
    omega

/-- Where the host has the granule at an address: as far behind the beginning of the memory as the
address is. -/
def pointer (addr : Address) : Except Fault Address :=
  match memory.index? addr with
  | some _ => .ok (memory.base + (addr - memory.base))
  | none => .error (.unbacked addr)

/-- Replaces the content of a granule. -/
def setPage (index : Fin memory.pages.size) (content : Page) : Memory where
  base := memory.base
  pages := memory.pages.set index content
  aligned := memory.aligned
  fits := by simpa only [Array.size_set] using memory.fits

/-- Sets every byte of a granule. -/
def fill (addr : Address) (value : UInt8) : Except Fault Memory :=
  match memory.index? addr with
  | some index => .ok (memory.setPage index (page value))
  | none => .error (.unbacked addr)

/-- Overwrites the beginning of a buffer with the content of a granule, as far as both go. -/
def read (addr : Address) (buffer : Array UInt8) : Except Fault (Array UInt8) :=
  match memory.index? addr with
  | some index =>
    .ok (memory.pages[index].toArray.take buffer.size ++ buffer.drop granuleSize)
  | none => .error (.unbacked addr)

/-- Whether every byte of a granule is zero. -/
def isZeroed (addr : Address) : Except Fault Bool :=
  match memory.index? addr with
  | some index => .ok (memory.pages[index].all (· == 0))
  | none => .error (.unbacked addr)

/-- The byte at an address, on a granule boundary or behind one. -/
def byte? (addr : Address) : Option UInt8 :=
  if backed : memory.base ≤ addr ∧ addr < memory.limit then
    let offset := (addr - memory.base).toNat
    have within : offset / granuleSize < memory.pages.size := by
      have below := UInt64.lt_iff_toNat_lt.mp backed.2
      rw [memory.toNat_limit] at below
      have above := UInt64.le_iff_toNat_le.mp backed.1
      simp only [offset, UInt64.toNat_sub_of_le _ _ backed.1, granuleSize_eq] at below above ⊢
      omega
    have inside : offset % granuleSize < granuleSize := Nat.mod_lt _ (by decide)
    some memory.pages[offset / granuleSize][offset % granuleSize]
  else none

/-- The first byte of a granule. -/
def firstByte (addr : Address) : Except Fault UInt8 :=
  match memory.index? addr with
  | some index => .ok memory.pages[index][0]
  | none => .error (.unbacked addr)

end Memory

/-- Zeroes a window, which has to span one granule. -/
def zeroWindow {length : Nat} (window : Vector UInt8 length) : Except Fault (Vector UInt8 length) :=
  if length = granuleSize then .ok (window.map fun _ => 0) else .error (.partialWindow length)

end GranuleMonitor
