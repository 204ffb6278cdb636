import GranuleMonitor.Fault

/-!
# Which windows are in use

Physical addresses are reached under the same number, so a window in use is recorded by the address
of the granule behind it. Each processor has its own row of slots, and `occupant?_put` says that a
change of one slot leaves all others alone. Address zero can have no window.
-/

namespace GranuleMonitor

/-- A processor. -/
abbrev Cpu := Fin maxCpus

/-- The address behind each window of each processor. -/
structure Windows where
  rows : Vector (Vector (Option Address) WindowSlot.count) maxCpus
deriving DecidableEq

namespace Windows

/-- No window is in use. -/
def empty : Windows := ⟨.replicate maxCpus (.replicate WindowSlot.count none)⟩

/-- The address behind a window, if the slot is occupied. -/
def occupant? (windows : Windows) (cpu : Cpu) (slot : WindowSlot) : Option Address :=
  windows.rows[cpu][slot.number]

/-- Records what is behind a window. -/
def put (windows : Windows) (cpu : Cpu) (slot : WindowSlot) (occupant? : Option Address) :
    Windows :=
  ⟨windows.rows.set cpu (windows.rows[cpu].set slot.number occupant?)⟩

/-- Opens a window on a granule; the window's address is the granule's. Without a window, as for
address zero, there is nothing to record. -/
def map (windows : Windows) (cpu : Cpu) (slot : WindowSlot) (addr : Address) :
    Except Fault (Option Address × Windows) :=
  if addr = 0 then .ok (none, windows)
  else match windows.occupant? cpu slot with
    | some occupant => .error (.windowOccupied slot cpu occupant)
    | none => .ok (some addr, windows.put cpu slot (some addr))

/-- What is wrong with giving a window back: the slot should hold that very window. -/
def unmapFault? (windows : Windows) (cpu : Cpu) (slot : WindowSlot) (window : Address) :
    Option Fault :=
  let occupant := (windows.occupant? cpu slot).getD 0
  if occupant = window then none else some (.windowMismatch slot cpu occupant window)

/-- All occupied slots, by processor and slot number. -/
def occupied (windows : Windows) : List (Cpu × WindowSlot) :=
  (List.finRange maxCpus).flatMap fun cpu =>
    (WindowSlot.all.filter fun slot => (windows.occupant? cpu slot).isSome).map (cpu, ·)

/-- A slot holds what was put there last, and no other slot is touched. -/
theorem occupant?_put (windows : Windows) (cpu other : Cpu) (slot otherSlot : WindowSlot)
    (occupant : Option Address) :
    (windows.put cpu slot occupant).occupant? other otherSlot =
      if other = cpu ∧ otherSlot = slot then occupant else windows.occupant? other otherSlot := by
  by_cases sameCpu : other = cpu
  · subst sameCpu
    by_cases sameSlot : otherSlot = slot
    · subst sameSlot
      simp [occupant?, put]
    · have differs : ¬ (slot.number : Nat) = otherSlot.number := fun same =>
        sameSlot (WindowSlot.number_injective (Fin.ext same)).symm
      simp [occupant?, put, sameSlot, differs]
  · have differs : ¬ (cpu : Nat) = other := fun same => sameCpu (Fin.ext same).symm
    simp [occupant?, put, sameCpu, differs]

/-- At first no slot is occupied. -/
theorem occupant?_empty (cpu : Cpu) (slot : WindowSlot) : empty.occupant? cpu slot = none := by
  simp [occupant?, empty]

end Windows

end GranuleMonitor
