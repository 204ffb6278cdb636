import GranuleMonitor.Monitor
import GranuleMonitor.Refusal

/-!
# Locks and guards

Whoever locks a descriptor receives a `Guard` for it, and gives the lock back through the guard.
Trusted callers lock by `Target.lock`, which takes a wrong role for a fault. Callers that act on
behalf of somebody else use `Target.lockOnMatch`, `lockAt` or `lockUnreferenced`, which turn the
request down and record why.

Before a lock is given back, `Guard.release` checks that a delegated granule has no references. The
check comes too late to keep the lock: a guard that fails it is gone as well. An operation that is
broken off gives the locks it holds back by `Guard.abandon`, without that check.
-/

namespace GranuleMonitor

variable {region : Region}

/-- The right to change a locked descriptor. -/
structure Guard (region : Region) where
  target : Target region
deriving DecidableEq, Repr

namespace Target

/-- Locks a descriptor whose role is known to the caller. -/
def lock (target : Target region) (expected : Role) : Act region (Guard region) := do
  let descriptor ← Act.read target
  match descriptor.attempt expected with
  | .held => throw (.waiting target)
  | .mismatch actual => Act.fail (.roleMismatch actual expected)
  | .taken =>
    Act.write target descriptor.lock
    return ⟨target⟩

/-- Locks a descriptor if it has the expected role. -/
def lockOnMatch (target : Target region) (expected : Role) :
    Act region (Option (Guard region)) := do
  let descriptor ← Act.read target
  match descriptor.attempt expected with
  | .held => throw (.waiting target)
  | .mismatch actual =>
    Act.note (.roleMismatch actual expected)
    return none
  | .taken =>
    Act.write target descriptor.lock
    return some ⟨target⟩

/-- The number of references, read without the lock. -/
def references (target : Target region) : Act region UInt64 := do
  return (← Act.read target).references

/-- Adds a reference without the lock. -/
def gain (target : Target region) : Act region Unit := do
  Act.write target (← Act.read target).gain

/-- Gives a reference back without the lock. The count is one lower afterwards, also if there was
no reference to give back. -/
def drop (target : Target region) : Act region Unit := do
  let descriptor ← Act.read target
  Act.write target descriptor.drop
  Act.failIf descriptor.dropFault?

/-- The address that leads to a descriptor. -/
def address : Target region → Except Fault Address
  | .entry index => .ok (region.address index)
  | .detached => .error .foreignDescriptor

end Target

namespace Guard

/-- The role of the locked granule. -/
def role (guard : Guard region) : Act region Role := do
  return (← Act.read guard.target).role

/-- The number of references to the locked granule. -/
def references (guard : Guard region) : Act region UInt64 :=
  guard.target.references

/-- Gives the locked granule a role; any role may follow any other. -/
def setRole (guard : Guard region) (role : Role) : Act region Unit := do
  Act.write guard.target { ← Act.read guard.target with role }

/-- Adds references under the lock. -/
def raise (guard : Guard region) (added : UInt64) : Act region Unit := do
  Act.write guard.target (← Act.ofExcept ((← Act.read guard.target).raise added))

/-- Gives references back under the lock. -/
def lower (guard : Guard region) (removed : UInt64) : Act region Unit := do
  Act.write guard.target (← Act.ofExcept ((← Act.read guard.target).lower removed))

/-- Gives the lock back without a check. -/
def abandon (guard : Guard region) : Act region Unit := do
  Act.write guard.target (← Act.read guard.target).unlock

/-- Gives the lock back, and stops if the granule should not have been left like this. -/
def release (guard : Guard region) : Act region Unit := do
  let descriptor ← Act.read guard.target
  Act.write guard.target descriptor.unlock
  Act.failIf descriptor.releaseFault?

/-- Gives the granule a role and the lock back. -/
def transition (guard : Guard region) (next : Role) : Act region Unit := do
  guard.setRole next
  guard.release

/-- Gives several locks back, in the order of the list. After a guard that fails the check the
others are given back without one. -/
def releaseAll : List (Guard region) → Act region Unit
  | [] => pure ()
  | guard :: rest => do
    let fault? := (← Act.read guard.target).releaseFault?
    guard.abandon
    match fault? with
    | none => releaseAll rest
    | some cause =>
      rest.forM abandon
      Act.fail cause

end Guard

/-- Runs an action that the caller performs while holding guards: if it halts, their locks are
given back without a check. -/
def Act.holding {α : Type} (guards : List (Guard region)) (action : Act region α) :
    Act region α := fun monitor =>
  match action monitor with
  | .ok value next => .ok value next
  | .error halt next =>
    match (guards.forM Guard.abandon : Act region Unit) next with
    | .ok _ last => .error halt last
    | .error _ last => .error halt last

/-- The descriptor of a granule by an address that a trusted caller gives. -/
def Region.entryAt (region : Region) (addr : Address) : Except Fault (Target region) :=
  match region.index? addr with
  | some index => .ok (.entry index)
  | none => .error (.notAGranule addr region.base region.limit)

/-- The descriptor of a granule by any address. -/
def Region.entryAt? (region : Region) (addr : Address) : Option (Target region) :=
  (region.index? addr).map .entry

/-- Locks the granule at an address if it has the expected role. -/
def lockAt (addr : Address) (expected : Role) :
    Act region (Except Refusal (Guard region)) := do
  match region.entryAt? addr with
  | none =>
    Act.note (.unknownAddress addr)
    return .error .input
  | some target =>
    match ← target.lockOnMatch expected with
    | none => return .error .input
    | some guard => return .ok guard

/-- Locks the granule at an address if it has the expected role and nobody refers to it. -/
def lockUnreferenced (addr : Address) (expected : Role) :
    Act region (Except Refusal (Guard region)) := do
  match ← lockAt addr expected with
  | .error reason => return .error reason
  | .ok guard =>
    let references ← guard.references
    if references ≠ 0 then
      Act.note (.stillReferenced addr references)
      guard.release
      return .error .inUse
    else return .ok guard

end GranuleMonitor
