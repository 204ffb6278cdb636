import GranuleMonitor.Lock

/-!
# Zeroing

A granule that changes hands is zeroed while it is locked, through a window that is open only for
that time.
-/

namespace GranuleMonitor

/-- Zeroes the content of a locked granule through a window slot of the current processor. The slot
that is kept for the non-secure world is not allowed. -/
def Guard.zero {region : Region} (guard : Guard region) (slot : WindowSlot) :
    Act region Unit := do
  if slot = .nonsecure then Act.fail .nonsecureWindow
  let addr ← Act.ofExcept guard.target.address
  match ← Act.mapWindow slot addr with
  | none => Act.fail (.unmappable addr slot)
  | some window =>
    Act.scrubWindow window
    Act.unmapWindow slot window

end GranuleMonitor
