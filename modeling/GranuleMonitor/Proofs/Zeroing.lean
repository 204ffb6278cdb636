import GranuleMonitor.Monitor
import GranuleMonitor.Zeroing

/-!
# What zeroing a granule does

Zeroing opens a window and gives it back, and in between it writes to memory. Whether that can be
done is clear beforehand: `Guard.zeroFault?` is what stops it, and then it has no effect at all.
Otherwise the slot was empty and is empty again, so that all windows are as before and only memory
has changed: `Guard.zero_eq`.
-/

namespace GranuleMonitor

/-- Every number of a slot is that of one. -/
theorem WindowSlot.exists_number (place : Fin count) :
    ∃ slot : WindowSlot, slot.number = place := by
  have listed : ∀ place : Fin count, ∃ slot ∈ all, slot.number = place := by decide
  obtain ⟨slot, -, found⟩ := listed place
  exact ⟨slot, found⟩

namespace Windows

/-- Windows are known by what is in each slot. -/
theorem ext_occupant? {left right : Windows}
    (same : ∀ cpu slot, left.occupant? cpu slot = right.occupant? cpu slot) : left = right := by
  obtain ⟨left⟩ := left
  obtain ⟨right⟩ := right
  congr 1
  refine Vector.ext fun cpu within => Vector.ext fun place placeWithin => ?_
  obtain ⟨slot, found⟩ := WindowSlot.exists_number ⟨place, placeWithin⟩
  have cell := same ⟨cpu, within⟩ slot
  simp only [occupant?, found] at cell
  exact cell

/-- A slot that was filled and emptied is as if it had only been emptied. -/
theorem put_put (windows : Windows) (cpu : Cpu) (slot : WindowSlot)
    (first second : Option Address) :
    (windows.put cpu slot first).put cpu slot second = windows.put cpu slot second := by
  refine ext_occupant? fun other otherSlot => ?_
  simp only [occupant?_put]
  split <;> rfl

/-- Putting into a slot what is in it changes nothing. -/
theorem put_occupant? {windows : Windows} {cpu : Cpu} {slot : WindowSlot}
    {occupant : Option Address} (present : windows.occupant? cpu slot = occupant) :
    windows.put cpu slot occupant = windows := by
  refine ext_occupant? fun other otherSlot => ?_
  rw [occupant?_put]
  split
  · next here => rw [here.1, here.2, present]
  · rfl

/-- A window that was just opened may be given back. -/
theorem unmapFault?_put (windows : Windows) (cpu : Cpu) (slot : WindowSlot) (window : Address) :
    (windows.put cpu slot (some window)).unmapFault? cpu slot window = none := by
  simp [unmapFault?, occupant?_put]

end Windows

/-- A page whose bytes all become zero is the page of zeros. -/
theorem Memory.map_zero (content : Page) : (content.map fun _ => 0) = Memory.page 0 := by
  refine Vector.ext fun place within => ?_
  simp [Memory.page]

/-- A page can be zeroed. -/
theorem zeroWindow_page (content : Page) : zeroWindow content = .ok (Memory.page 0) := by
  rw [zeroWindow, if_pos rfl, Memory.map_zero]

/-- The memory after the granule at an address was zeroed, if there is one. -/
def Memory.scrub (memory : Memory) (addr : Address) : Memory :=
  match memory.index? addr with
  | some index => memory.setPage index (page 0)
  | none => memory

variable {region : Region}

/-- Zeroing what is behind a window never fails. -/
theorem Act.scrubWindow_apply (window : Address) (monitor : Monitor region) :
    scrubWindow window monitor =
      .ok () { monitor with memory := monitor.memory.scrub window } := by
  unfold scrubWindow Memory.scrub
  cases monitor.memory.index? window with
  | none => rfl
  | some index => simp only [zeroWindow_page]

namespace Guard

variable (guard : Guard region) (slot : WindowSlot)

/-- What stops a granule from being zeroed: the slot is kept for the non-secure world, the granule
has no address or none that can be mapped, or the slot of the current processor is occupied. -/
def zeroFault? (monitor : Monitor region) : Option Fault :=
  if slot = .nonsecure then some .nonsecureWindow
  else
    match guard.target.address with
    | .error cause => some cause
    | .ok addr =>
      if addr = 0 then some (.unmappable addr slot)
      else
        (monitor.windows.occupant? monitor.cpu slot).map fun occupant =>
          .windowOccupied slot monitor.cpu occupant

/-- The memory after the granule was zeroed. -/
def scrubbed (memory : Memory) : Memory :=
  match guard.target.address with
  | .ok addr => memory.scrub addr
  | .error _ => memory

/-- Zeroing a granule changes nothing but memory, or has no effect at all. -/
theorem zero_eq (monitor : Monitor region) :
    guard.zero slot monitor =
      match guard.zeroFault? slot monitor with
      | some cause => .error (.fault cause) monitor
      | none => .ok () { monitor with memory := guard.scrubbed monitor.memory } := by
  unfold zero zeroFault? scrubbed
  by_cases reserved : slot = .nonsecure
  · simp [reserved]
  cases leads : guard.target.address with
  | error cause => simp [reserved, Act.ofExcept]
  | ok addr =>
    by_cases null : addr = 0
    · simp [reserved, null, Act.ofExcept, Act.mapWindow, Windows.map]
    cases present : monitor.windows.occupant? monitor.cpu slot with
    | some occupant => simp [reserved, null, Act.ofExcept, Act.mapWindow, Windows.map, present]
    | none =>
      -- the slot is emptied again, and it was empty before
      simp [reserved, null, Act.ofExcept, Act.mapWindow, Windows.map, present,
        Act.scrubWindow_apply, Act.unmapWindow, Windows.unmapFault?_put, Windows.put_put,
        Windows.put_occupant? present]

end Guard

end GranuleMonitor
