import GranuleMonitor.LockSet

/-!
# Ways to lock granules

An `Acquisition` is a call of one of the locking operations, as a value. `Acquisition.perform`
carries it out, and `Acquisition.targets?` says which descriptors it has to lock to succeed: none if
it is turned down before the first lock, because an address is not that of a granule or a granule is
named twice.
-/

namespace GranuleMonitor

/-- Leads to a descriptor: an address, or nothing for the descriptor that stands alone. -/
inductive Place where
  | granule (addr : Address)
  | detached
deriving DecidableEq, Repr

/-- The descriptor at a place that a trusted caller gives. -/
def Place.target (region : Region) : Place → Except Fault (Target region)
  | .granule addr => region.entryAt addr
  | .detached => .ok .detached

/-- A call of a locking operation. -/
inductive Acquisition where
  /-- Lock a descriptor whose role is known. -/
  | lock (place : Place) (role : Role)
  /-- Lock a descriptor if it has a role. -/
  | lockOnMatch (place : Place) (role : Role)
  /-- Lock the granule at an untrusted address. -/
  | lockAt (request : Request)
  /-- Lock the granule at an untrusted address if nobody refers to it. -/
  | lockUnreferenced (request : Request)
  /-- Lock two granules or none. -/
  | lockPair (first second : Request)
  /-- Lock several granules or none. -/
  | lockSet (requests : List Request)
deriving DecidableEq, Repr

/-- What a locking operation gives. -/
inductive Acquired (region : Region) where
  /-- The guards of all granules that were asked for, in the order of the requests. -/
  | granted (guards : List (Guard region))
  /-- No guard, without a reason. -/
  | nothing
  /-- No guard, for a reason that the caller is told. -/
  | refused (reason : Refusal)
deriving DecidableEq, Repr

namespace Acquired

variable {region : Region}

/-- The guards that were given. -/
def toList : Acquired region → List (Guard region)
  | .granted guards => guards
  | .nothing | .refused _ => []

/-- One guard or nothing. -/
def ofOption : Option (Guard region) → Acquired region
  | some guard => .granted [guard]
  | none => .nothing

/-- One guard or a refusal. -/
def ofExcept : Except Refusal (Guard region) → Acquired region
  | .ok guard => .granted [guard]
  | .error reason => .refused reason

end Acquired

namespace Acquisition

variable {region : Region}

/-- Carries out a locking operation. -/
def perform : Acquisition → Act region (Acquired region)
  | .lock place role => do
    let guard ← (← Act.ofExcept (place.target region)).lock role
    return .granted [guard]
  | .lockOnMatch place role => do
    return .ofOption (← (← Act.ofExcept (place.target region)).lockOnMatch role)
  | .lockAt request => do
    return .ofExcept (← GranuleMonitor.lockAt request.addr request.role)
  | .lockUnreferenced request => do
    return .ofExcept (← GranuleMonitor.lockUnreferenced request.addr request.role)
  | .lockPair first second => do
    match ← GranuleMonitor.lockPair first second with
    | some (one, other) => return .granted [one, other]
    | none => return .nothing
  | .lockSet requests => do
    match ← GranuleMonitor.lockSet requests.toArray.toVector with
    | some guards => return .granted guards.toList
    | none => return .nothing

/-- The places that a locking operation names. -/
def places : Acquisition → List Place
  | .lock place _ | .lockOnMatch place _ => [place]
  | .lockAt request | .lockUnreferenced request => [.granule request.addr]
  | .lockPair first second => [.granule first.addr, .granule second.addr]
  | .lockSet requests => requests.map fun request => .granule request.addr

/-- The descriptors at all places of a list. -/
def resolvePlaces? (region : Region) : List Place → Option (List (Target region))
  | [] => some []
  | place :: rest =>
    match place.target region, resolvePlaces? region rest with
    | .ok target, some targets => some (target :: targets)
    | _, _ => none

/-- The descriptors that a locking operation has to lock to succeed. It locks none if a place leads
nowhere or a descriptor is named twice. -/
def targets? (region : Region) (acquisition : Acquisition) : Option (List (Target region)) :=
  (resolvePlaces? region acquisition.places).filter fun targets => targets.Nodup

end Acquisition

end GranuleMonitor
