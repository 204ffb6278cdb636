import GranuleMonitor.Session.Run

/-!
# Custody of guards

Guards belong to callers, and a caller may do with a guard what it likes: use it, give it back, or
lose it when it is broken off. A `Custody` is a monitor together with all guards that are alive,
whoever has them. Its steps are `Operation`s of any callers in any order, each carried out as a
whole. An operation needs its guard to be alive, and an operation that would have to wait is not
begun; in both cases nothing happens. An operation that halts with a fault keeps its effects, and a
guard that was given back is gone also if the release found a fault.
-/

namespace GranuleMonitor

/-- An operation of some caller. -/
inductive Operation (region : Region) where
  | acquire (call : Acquisition)
  | useGuard (guard : Guard region) (call : GuardCall)
  /-- Give a guard back, after giving the granule a role if there is one. -/
  | release (guard : Guard region) (next? : Option Role)
  /-- Lose a guard because its owner is broken off by a fault. -/
  | abandon (guard : Guard region)
  /-- Count a reference without the lock. -/
  | count (call : CountCall) (place : Place)
  | references (place : Place)
  | fill (addr : Address) (value : UInt8)
  | isZeroed (addr : Address)
  | read (addr : Address) (buffer : Array UInt8)
  | selectCpu (cpu : UInt64)
  | mapWindow (slot : WindowSlot) (addr : Address)
  | unmapWindow (slot : WindowSlot) (window : Address)
deriving DecidableEq, Repr

/-- How an operation ends. -/
inductive Outcome (region : Region) where
  | acquired (result : Acquired region)
  | replied (reply : Reply region)
  | halted (halt : Halt region)
  /-- The guard is not alive. -/
  | noGuard
deriving DecidableEq, Repr

/-- The guards that come to life with an outcome. -/
def Outcome.guards {region : Region} : Outcome region → List (Guard region)
  | .acquired result => result.toList
  | .replied _ | .halted _ | .noGuard => []

/-- The number of references at a place, read without the lock. -/
def Place.references {region : Region} (place : Place) : Act region UInt64 := do
  (← Act.ofExcept (place.target region)).references

/-- Counts a reference at a place without the lock. -/
def CountCall.perform {region : Region} (place : Place) (call : CountCall) : Act region Unit := do
  Session.countOnce (← Act.ofExcept (place.target region)) call

/-- Reads a granule's content in memory into a buffer. -/
def Act.readInto {region : Region} (addr : Address) (buffer : Array UInt8) :
    Act region (Array UInt8) := fun monitor =>
  ofExcept (monitor.memory.read addr buffer) monitor

namespace Operation

variable {region : Region}

/-- Carries out an operation. -/
def perform : Operation region → Act region (Outcome region)
  | .acquire call => do return .acquired (← call.perform)
  | .useGuard guard call => do return .replied (← call.perform guard)
  | .release guard next? => do
    Session.releaseGuard guard next?
    return .replied .done
  | .abandon guard => do
    guard.abandon
    return .replied .done
  | .count call place => do
    call.perform place
    return .replied .done
  | .references place => do return .replied (.references (← place.references))
  | .fill addr value => do
    Act.fill addr value
    return .replied .done
  | .isZeroed addr => do return .replied (.flag (← Act.isZeroed addr))
  | .read addr buffer => do return .replied (.bytes (← Act.readInto addr buffer))
  | .selectCpu cpu => do
    Act.selectCpu cpu
    return .replied .done
  | .mapWindow slot addr => do return .replied (.address (← Act.mapWindow slot addr))
  | .unmapWindow slot window => do
    Act.unmapWindow slot window
    return .replied .done

/-- The guard that an operation needs. -/
def guard? : Operation region → Option (Guard region)
  | .useGuard guard _ | .release guard _ | .abandon guard => some guard
  | _ => none

/-- The guard that an operation gives back or loses. -/
def returned? : Operation region → Option (Guard region)
  | .release guard _ | .abandon guard => some guard
  | _ => none

/-- The guards that stay alive, apart from new ones. -/
def remaining (live : List (Guard region)) (operation : Operation region) : List (Guard region) :=
  match operation.returned? with
  | some guard => live.erase guard
  | none => live

end Operation

/-- An operation and how it ended. -/
structure Event (region : Region) where
  operation : Operation region
  outcome : Outcome region
deriving DecidableEq, Repr

/-- A monitor and the guards that are alive. -/
structure Custody (region : Region) where
  monitor : Monitor region
  live : List (Guard region)

namespace Custody

variable {region : Region}

/-- Begins with a monitor that nobody has a guard of. -/
def start (monitor : Monitor region) : Custody region := ⟨monitor, []⟩

/-- Carries out an operation of some caller. -/
def step (custody : Custody region) (operation : Operation region) :
    Outcome region × Custody region :=
  if operation.guard?.all custody.live.contains then
    match operation.perform custody.monitor with
    | .ok outcome monitor =>
      (outcome, ⟨monitor, operation.remaining custody.live ++ outcome.guards⟩)
    | .error (.fault cause) monitor =>
      (.halted (.fault cause), ⟨monitor, operation.remaining custody.live⟩)
    | .error (.waiting target) _ => (.halted (.waiting target), custody)
  else (.noGuard, custody)

/-- Carries out operations one after the other, and records how they ended. -/
def play (custody : Custody region) :
    List (Operation region) → List (Event region) × Custody region
  | [] => ([], custody)
  | first :: rest =>
    let (outcome, custody) := custody.step first
    let (later, custody) := custody.play rest
    (⟨first, outcome⟩ :: later, custody)

end Custody

end GranuleMonitor
