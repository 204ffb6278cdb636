import GranuleMonitor.Lock

/-!
# Observing a monitor

What an operator can see: what a guard shows, the records, the windows in use, and every descriptor
that differs from a fresh one.
-/

namespace GranuleMonitor

/-- What can be seen through a guard. -/
structure GuardView where
  /-- The address of the granule; the descriptor that stands alone has none. -/
  addr? : Option Address
  role : Role
  references : UInt64
deriving DecidableEq, Repr

/-- A guard as diagnostics show it. -/
def GuardView.describe (view : GuardView) : String :=
  s!"GranuleGuard \x7b state: {view.role.label}, refcount: {view.references} \x7d"

/-- What can be seen of a monitor from outside. -/
structure Observation (region : Region) where
  log : Array Notice
  /-- The descriptors that are not fresh, with the addresses of their granules. The descriptor that
  stands alone comes first and has no address. -/
  descriptors : List (Option Address × Descriptor)
  windows : List (Cpu × WindowSlot)

namespace Monitor

variable {region : Region} (monitor : Monitor region)

/-- The address of a descriptor, unless it stands alone. -/
def addressOf? : Target region → Option Address
  | .entry index => some (region.address index)
  | .detached => none

/-- What can be seen through a guard. -/
def view (guard : Guard region) : GuardView :=
  let descriptor := monitor.store.get guard.target
  ⟨addressOf? guard.target, descriptor.role, descriptor.references⟩

/-- All descriptors that are not fresh. -/
def claimed : List (Option Address × Descriptor) :=
  let entries := (List.finRange region.size).filterMap fun index =>
    let descriptor := monitor.store.get (.entry index)
    if descriptor = .fresh then none else some (some (region.address index), descriptor)
  if monitor.store.detached = .fresh then entries
  else (none, monitor.store.detached) :: entries

/-- Observes the monitor. -/
def observe : Observation region :=
  ⟨monitor.log, monitor.claimed, monitor.windows.occupied⟩

/-- The addresses of a part of the table, each with the address that its descriptor leads back
to. -/
def entries (region : Region) (skip take : Nat) : List (Address × Address) :=
  (((List.finRange region.size).drop skip).take take).filterMap fun index =>
    match (Target.entry index).address with
    | .ok addr => some (region.address index, addr)
    | .error _ => none

end Monitor

end GranuleMonitor
