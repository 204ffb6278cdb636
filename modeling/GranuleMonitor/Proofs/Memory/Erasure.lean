import GranuleMonitor.Proofs.Memory.Content

/-!
# Zeroing one granule and nothing else

Zeroing a granule goes through a window that is opened and given back. Four things can be in the
way, `Guard.Obstructed`, and all of them are noticed before anything is done. So a granule is zeroed
down to its last byte, or the monitor is as before. `Guard.ZeroesAlone` lists what follows. Windows
of other processors have no part in it.
-/

namespace GranuleMonitor

variable {region : Region}

/-- All bytes of a granule are zero in the second memory, and all others are as in the first. -/
structure Memory.Erased (memory last : Memory) (region : Region) (index : Fin region.size) :
    Prop where
  inside : ∀ addr, region.Spans index addr → last.byte? addr = some 0
  outside : ∀ addr, ¬ region.Spans index addr → last.byte? addr = memory.byte? addr

/-- The page of zeros erases a granule. -/
theorem Memory.Backs.erased_scrub {memory : Memory} (backs : memory.Backs region)
    (index : Fin region.size) :
    memory.Erased (memory.scrub (region.address index)) region index := by
  rw [backs.scrub_address]
  exact ⟨fun _ spans => backs.byte?_setPage_of_spans 0 spans,
    fun _ apart => backs.byte?_setPage_of_not_spans (Memory.page 0) apart⟩

namespace Guard

/-- What is in the way of zeroing: the slot is kept for the non-secure world, the descriptor is not
one of the table, its address has no window, or the slot of the current processor is occupied. -/
def Obstructed (guard : Guard region) (slot : WindowSlot) (monitor : Monitor region) : Prop :=
  slot = .nonsecure ∨ guard.target = .detached ∨ guard.target.address = .ok 0 ∨
    ∃ occupant, monitor.windows.occupant? monitor.cpu slot = some occupant

section Obstacles

variable {guard : Guard region} {slot : WindowSlot} {monitor : Monitor region}

/-- Zeroing goes ahead exactly if nothing is in its way. -/
theorem zeroFault?_eq_none_iff :
    guard.zeroFault? slot monitor = none ↔ ¬ guard.Obstructed slot monitor := by
  obtain ⟨target⟩ := guard
  unfold zeroFault? Obstructed
  by_cases reserved : slot = .nonsecure
  · simp [reserved]
  cases target with
  | detached => simp [reserved, Target.address]
  | entry index =>
    by_cases null : region.address index = 0
    · simp [reserved, Target.address, null]
    · simp [reserved, Target.address, null, Option.eq_none_iff_forall_ne_some]

/-- Of all windows only the one in the slot of the current processor can be in the way. -/
theorem zeroFault?_congr {windows : Windows}
    (same : windows.occupant? monitor.cpu slot = monitor.windows.occupant? monitor.cpu slot) :
    guard.zeroFault? slot { monitor with windows } = guard.zeroFault? slot monitor := by
  simp only [zeroFault?, same]

theorem zero_of_obstructed (obstructed : guard.Obstructed slot monitor) :
    ∃ cause, guard.zero slot monitor = .error (.fault cause) monitor := by
  rw [zero_eq]
  cases fault : guard.zeroFault? slot monitor with
  | some cause => exact ⟨cause, rfl⟩
  | none => exact absurd obstructed (zeroFault?_eq_none_iff.mp fault)

theorem zero_of_not_obstructed (unobstructed : ¬ guard.Obstructed slot monitor) :
    guard.zero slot monitor =
      .ok () { monitor with memory := guard.scrubbed monitor.memory } := by
  rw [zero_eq, zeroFault?_eq_none_iff.mpr unobstructed]

/-- What is zeroed has an address, -/
theorem exists_index_of_not_obstructed (unobstructed : ¬ guard.Obstructed slot monitor) :
    ∃ index, guard.target = .entry index ∧
      guard.scrubbed monitor.memory = monitor.memory.scrub (region.address index) := by
  obtain ⟨target⟩ := guard
  cases target with
  | detached => exact absurd (.inr (.inl rfl)) unobstructed
  | entry index => exact ⟨index, rfl, rfl⟩

/-- and is reached through an empty slot. -/
theorem vacant_of_not_obstructed (unobstructed : ¬ guard.Obstructed slot monitor) :
    monitor.windows.occupant? monitor.cpu slot = none := by
  simp only [Obstructed, not_or, not_exists] at unobstructed
  exact Option.eq_none_iff_forall_ne_some.mpr unobstructed.2.2.2

end Obstacles

/-- What zeroing a granule comes to. -/
structure ZeroesAlone (guard : Guard region) (slot : WindowSlot) (monitor : Monitor region) :
    Prop where
  /-- There is a fault exactly if something is in the way, -/
  faults_iff : (∃ cause, (guard.zero slot).result monitor = .error (.fault cause)) ↔
    guard.Obstructed slot monitor
  /-- and otherwise zeroing comes to its end. -/
  completes_iff : (guard.zero slot).result monitor = .ok () ↔ ¬ guard.Obstructed slot monitor
  /-- A fault leaves everything as it was. -/
  untouched : guard.Obstructed slot monitor → (guard.zero slot).after monitor = monitor
  /-- In memory that the table was created for, the granule is erased. -/
  erased : monitor.memory.spec.check = .ok region → ¬ guard.Obstructed slot monitor →
    ∃ index, guard.target = .entry index ∧
      monitor.memory.Erased ((guard.zero slot).after monitor).memory region index
  /-- The slot is empty then, -/
  emptied : ¬ guard.Obstructed slot monitor →
    ((guard.zero slot).after monitor).windows.occupant? monitor.cpu slot = none
  /-- and what is in the slots of all processors is as before. -/
  windows : ∀ cpu other, ((guard.zero slot).after monitor).windows.occupant? cpu other =
    monitor.windows.occupant? cpu other
  /-- So is every descriptor. -/
  descriptors : ∀ target,
    ((guard.zero slot).after monitor).store.get target = monitor.store.get target
  /-- With other windows, as long as the slot of the current processor holds the same, there is the
  same result, and memory is the same afterwards. -/
  alone : ∀ windows,
    windows.occupant? monitor.cpu slot = monitor.windows.occupant? monitor.cpu slot →
      (guard.zero slot).result { monitor with windows } = (guard.zero slot).result monitor ∧
      (guard.zero slot).after { monitor with windows } =
        { (guard.zero slot).after monitor with windows }

variable (guard : Guard region) (slot : WindowSlot) (monitor : Monitor region)

/-- Zeroing does not look at other windows. -/
theorem zero_congr {windows : Windows}
    (same : windows.occupant? monitor.cpu slot = monitor.windows.occupant? monitor.cpu slot) :
    (guard.zero slot).result { monitor with windows } = (guard.zero slot).result monitor ∧
      (guard.zero slot).after { monitor with windows } =
        { (guard.zero slot).after monitor with windows } := by
  simp only [Act.result, Act.after, zero_eq, zeroFault?_congr same]
  cases guard.zeroFault? slot monitor with
  | some cause => exact ⟨rfl, rfl⟩
  | none => exact ⟨rfl, rfl⟩

/-- Whatever the windows of all processors hold, a granule is zeroed and nothing else has changed,
or there is a fault and nothing has changed at all. -/
theorem zeroes_alone : guard.ZeroesAlone slot monitor := by
  by_cases obstructed : guard.Obstructed slot monitor
  · obtain ⟨cause, ended⟩ := zero_of_obstructed obstructed
    have result : (guard.zero slot).result monitor = .error (.fault cause) := by
      rw [Act.result, ended]
    have after : (guard.zero slot).after monitor = monitor := by rw [Act.after, ended]
    exact {
      faults_iff := iff_of_true ⟨cause, result⟩ obstructed
      completes_iff := by simp [result, obstructed]
      untouched := fun _ => after
      erased := fun _ unobstructed => absurd obstructed unobstructed
      emptied := fun unobstructed => absurd obstructed unobstructed
      windows := fun _ _ => by rw [after]
      descriptors := fun _ => by rw [after]
      alone := fun _ => guard.zero_congr slot monitor }
  · have ended := zero_of_not_obstructed obstructed
    have result : (guard.zero slot).result monitor = .ok () := by rw [Act.result, ended]
    have after : (guard.zero slot).after monitor =
        { monitor with memory := guard.scrubbed monitor.memory } := by rw [Act.after, ended]
    exact {
      faults_iff := by simp [result, obstructed]
      completes_iff := iff_of_true result obstructed
      untouched := fun blocked => absurd blocked obstructed
      erased := fun checked _ => by
        obtain ⟨index, here, scrubbed⟩ := exists_index_of_not_obstructed obstructed
        rw [after, scrubbed]
        exact ⟨index, here, (Memory.backs_of_check checked).erased_scrub index⟩
      emptied := fun _ => by rw [after]; exact vacant_of_not_obstructed obstructed
      windows := fun _ _ => by rw [after]
      descriptors := fun _ => by rw [after]
      alone := fun _ => guard.zero_congr slot monitor }

end Guard

namespace Custody

/-- Fills two granules, uses one slot of the processor, and lets another processor use the slot that
is meant for zeroing. -/
def crowding : List (Operation twoGranules) :=
  [.fill 0x1000000000 0x5a, .fill 0x1000001000 0x77, .mapWindow .realm 0x1000000000,
    .selectCpu 3, .mapWindow .delegated 0x1000001000, .selectCpu 0]

/-- The monitor after that. -/
def crowded : Monitor twoGranules :=
  ((start (Monitor.create twoGranules twoPages)).play crowding).2.monitor

/-- The upper granule is zeroed through the slot that only the other processor uses, and cannot be
zeroed through the occupied one. -/
theorem upper_zeroed_alone :
    crowded.memory.spec.check = .ok twoGranules ∧
      (upper.zero .delegated).result crowded = .ok () ∧
      ((upper.zero .delegated).after crowded).memory.byte? 0x1000001fff = some 0 ∧
      ((upper.zero .delegated).after crowded).memory.byte? 0x1000000fff = some 0x5a ∧
      (upper.zero .realm).after crowded = crowded := by
  have zeroed := upper.zeroes_alone .delegated crowded
  have checked : crowded.memory.spec.check = .ok twoGranules := by rfl
  have unobstructed : ¬ upper.Obstructed .delegated crowded :=
    Guard.zeroFault?_eq_none_iff.mp (by rfl)
  have obstructed : upper.Obstructed .realm crowded :=
    .inr (.inr (.inr ⟨0x1000000000, by rfl⟩))
  obtain ⟨index, here, erased⟩ := zeroed.erased checked unobstructed
  obtain rfl : ⟨1, by decide⟩ = index := Target.entry.inj here
  refine ⟨checked, zeroed.completes_iff.mpr unobstructed, ?_, ?_, ?_⟩
  · exact erased.inside _ ⟨by decide, by decide⟩
  · have apart : ¬ twoGranules.Spans ⟨1, by decide⟩ 0x1000000fff := fun spans =>
      absurd spans.1 (by decide)
    exact (erased.outside _ apart).trans (by decide +kernel)
  · exact (upper.zeroes_alone .realm crowded).untouched obstructed

end Custody

end GranuleMonitor
