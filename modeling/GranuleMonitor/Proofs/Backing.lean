import GranuleMonitor.Proofs.Frame
import GranuleMonitor.Proofs.Region.Check
import GranuleMonitor.Proofs.Zeroing
import GranuleMonitor.Setting

/-!
# Memory behind a table

A table that is created for memory covers exactly the granules of it: `Setting.create_backed`. Memory
that `Backs` a region has one page for each of its granules, so every content operation at the
address of a granule succeeds and concerns that page alone. `Guard.zero_apply` puts this together
for a granule that is zeroed through an empty slot: the page is zero, and the slot is empty again.
-/

namespace GranuleMonitor

variable {region : Region}

namespace Memory

/-- The content of the granule at an address is zero. -/
def Zeroed (memory : Memory) (addr : Address) : Prop := memory.isZeroed addr = .ok true

/-- The memory has one page for each granule of the region, in their order. -/
structure Backs (memory : Memory) (region : Region) : Prop where
  base : memory.base = region.base
  size : memory.pages.size = region.size

namespace Backs

variable {memory : Memory} (backs : memory.Backs region)
include backs

/-- The page behind a granule. -/
def page (index : Fin region.size) : Fin memory.pages.size :=
  ⟨index, by rw [backs.size]; exact index.isLt⟩

/-- Memory finds the page of a granule at its address. -/
theorem index?_address (index : Fin region.size) :
    memory.index? (region.address index) = some (backs.page index) := by
  rw [index?_eq_some_iff, region.toNat_address, backs.base]
  rfl

/-- What a page is replaced by does not matter to what the memory is behind. -/
theorem setPage (place : Fin memory.pages.size) (content : Page) :
    (memory.setPage place content).Backs region where
  base := backs.base
  size := by rw [Memory.setPage, Array.size_set, backs.size]

theorem isZeroed_address (index : Fin region.size) :
    memory.isZeroed (region.address index) =
      .ok (memory.pages[backs.page index].all (· == 0)) := by
  rw [isZeroed, backs.index?_address index]

/-- Replacing the page of one granule leaves those of all others as they are. -/
theorem getElem_setPage (index other : Fin region.size) (content : Page) :
    (memory.setPage (backs.page index) content).pages[(backs.setPage
        (backs.page index) content).page other] =
      if other = index then content else memory.pages[backs.page other] := by
  by_cases same : other = index
  · subst same
    rw [if_pos rfl]
    exact Array.getElem_set_self (backs.page other).isLt
  · have differs : (index : Nat) ≠ other := fun equal => same (Fin.ext equal.symm)
    rw [if_neg same]
    exact Array.getElem_set_ne (backs.page index).isLt _ differs

/-- Replacing the page of one granule decides about that granule and no other. -/
theorem isZeroed_setPage (index other : Fin region.size) (content : Page) :
    (memory.setPage (backs.page index) content).isZeroed (region.address other) =
      if other = index then .ok (content.all (· == 0))
      else memory.isZeroed (region.address other) := by
  rw [(backs.setPage _ _).isZeroed_address, backs.isZeroed_address, backs.getElem_setPage]
  split <;> rfl

/-- Zeroing a granule of the region concerns its page. -/
theorem scrub_address (index : Fin region.size) :
    memory.scrub (region.address index) =
      memory.setPage (backs.page index) (Memory.page 0) := by
  rw [scrub, backs.index?_address]

/-- A granule of the region can be filled. -/
theorem fill_address (index : Fin region.size) (value : UInt8) :
    memory.fill (region.address index) value =
      .ok (memory.setPage (backs.page index) (Memory.page value)) := by
  rw [fill, backs.index?_address]

end Backs

end Memory

/-- Memory is behind the table that is created for it. -/
theorem Memory.backs_of_check {memory : Memory} (checked : memory.spec.check = .ok region) :
    memory.Backs region := by
  have spec := RegionSpec.spec_of_check checked
  refine ⟨(congrArg RegionSpec.base spec).symm, ?_⟩
  rw [← memory.toNat_granuleCount]
  exact congrArg (fun spec => spec.count.toNat) spec.symm

/-- Memory that is obtained from a host lies where the host has it, and is zero. -/
theorem Memory.obtain_spec {host : Host} {count : UInt64} {memory : Memory}
    (obtained : Memory.obtain host count = .ok memory) :
    memory.base = host.base ∧ memory.pages = .replicate count.toNat (Memory.page 0) := by
  unfold obtain at obtained
  split at obtained
  · contradiction
  next bytes sized =>
  split at obtained
  case isFalse => contradiction
  obtain rfl := Except.ok.inj obtained
  have pages : bytes.toNat / granuleSize = count.toNat := by
    have exact := (bytes?_eq_some_iff.mp sized).2
    simp only [granuleSize_eq] at exact ⊢
    omega
  exact ⟨rfl, congrArg (Array.replicate · (page 0)) pages⟩

/-- A host has room for any number of granules up to its capacity. -/
theorem Memory.exists_obtain {host : Host} {count : UInt64} (positive : 0 < count.toNat)
    (within : count.toNat ≤ host.capacity) :
    ∃ memory, Memory.obtain host count = .ok memory := by
  have fits := host.fits
  have small : granuleSize * count.toNat < UInt64.size := by
    simp only [granuleSize_eq, UInt64.size] at fits ⊢
    omega
  have size : (UInt64.ofNat (granuleSize * count.toNat)).toNat = granuleSize * count.toNat :=
    UInt64.toNat_ofNat_of_lt' small
  have sized := bytes?_eq_some_iff.mpr ⟨positive, size.symm⟩
  have granules : granuleSize * count.toNat / granuleSize = count.toNat :=
    Nat.mul_div_cancel_left _ (by decide)
  rw [obtain, sized]
  dsimp only
  rw [dif_pos (by rwa [size, granules])]
  exact ⟨_, rfl⟩

/-- A table can be created for as many granules as a host has room for. -/
theorem Setting.exists_create_backed {host : Host} {count : UInt64} (positive : 0 < count.toNat)
    (within : count.toNat ≤ host.capacity) :
    ∃ (region : Region) (monitor : Monitor region),
      (Setting.backed count).create host = .ok ⟨region, monitor⟩ := by
  obtain ⟨memory, obtained⟩ := Memory.exists_obtain positive within
  obtain ⟨-, pages⟩ := Memory.obtain_spec obtained
  have nonempty : 0 < memory.spec.count.toNat := by
    change 0 < memory.granuleCount.toNat
    rw [memory.toNat_granuleCount, pages, Array.size_replicate]
    exact positive
  have fits : memory.spec.base.toNat + granuleSize * memory.spec.count.toNat < UInt64.size := by
    change memory.base.toNat + granuleSize * memory.granuleCount.toNat < UInt64.size
    rw [memory.toNat_granuleCount]
    exact memory.fits
  obtain ⟨region, checked⟩ := RegionSpec.exists_check memory.aligned nonempty fits
  exact ⟨region, .create region memory, by simp only [create, obtained, checked]⟩

/-- A table that is created for memory has exactly the granules of the memory, all of them zero, and
begins where the host has it. -/
theorem Setting.create_backed {host : Host} {count : UInt64} {monitor : Monitor region}
    (created : (Setting.backed count).create host = .ok ⟨region, monitor⟩) :
    ∃ memory : Memory, monitor = .create region memory ∧ memory.Backs region ∧
      region.size = count.toNat ∧ region.base = host.base ∧
      ∀ index, memory.Zeroed (region.address index) := by
  unfold create at created
  cases obtained : Memory.obtain host count with
  | error reason => simp [obtained] at created
  | ok memory =>
    cases checked : memory.spec.check with
    | error reason => simp [obtained, checked] at created
    | ok found =>
      simp only [obtained, checked] at created
      obtain ⟨rfl, same⟩ := Sigma.mk.inj (Except.ok.inj created)
      obtain rfl := eq_of_heq same
      obtain ⟨base, pages⟩ := Memory.obtain_spec obtained
      have backs := Memory.backs_of_check checked
      refine ⟨memory, rfl, backs, ?_, ?_, fun index => ?_⟩
      · rw [← backs.size, pages, Array.size_replicate]
      · exact backs.base.symm.trans base
      · rw [Memory.Zeroed, backs.isZeroed_address]
        simp [pages, Memory.page]

/-- A granule is zeroed through an empty slot of the current processor. Its page is zero afterwards,
and the slot is empty again. -/
theorem Guard.zero_apply {monitor : Monitor region} (backs : monitor.memory.Backs region)
    (index : Fin region.size) {slot : WindowSlot} (allowed : slot ≠ .nonsecure)
    (mappable : region.address index ≠ 0)
    (empty : monitor.windows.occupant? monitor.cpu slot = none) :
    (⟨.entry index⟩ : Guard region).zero slot monitor =
      .ok () { monitor with
        memory := monitor.memory.setPage (backs.page index)
          (monitor.memory.pages[backs.page index].map fun _ => 0)
        windows := (monitor.windows.put monitor.cpu slot (some (region.address index))).put
          monitor.cpu slot none } := by
  have unstopped : (⟨.entry index⟩ : Guard region).zeroFault? slot monitor = none := by
    simp [zeroFault?, allowed, Target.address, mappable, empty]
  rw [zero_eq, unstopped, Windows.put_put, Windows.put_occupant? empty, Memory.map_zero,
    ← backs.scrub_address]
  rfl

end GranuleMonitor
