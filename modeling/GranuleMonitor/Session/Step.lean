import GranuleMonitor.Acquisition
import GranuleMonitor.Observation

/-!
# The steps of a session

A session is a sequence of monitor operations in which guards go by names. Its steps are values, so
that sessions can be recorded, replayed and reasoned about. A step may name a guard that does not
exist; it is then answered as such.
-/

namespace GranuleMonitor

/-- An operation on a guard that leaves the granule locked. -/
inductive GuardCall where
  /-- Show which granule is locked, its role and its references. -/
  | view
  /-- Show the role and the references as text. -/
  | describe
  /-- Ask for the address of the locked descriptor. -/
  | address
  | setRole (role : Role)
  | raise (added : UInt64)
  | lower (removed : UInt64)
  | zero (slot : WindowSlot)
deriving DecidableEq, Repr

/-- How a reference is counted without the lock. -/
inductive CountCall where
  | gain
  | drop
deriving DecidableEq, Repr

/-- One step of a session. -/
inductive Step where
  /-- Lock granules and keep the first guards under names. The others are released. -/
  | acquire (call : Acquisition) (names : List String)
  /-- Another caller starts to wait for a lock that is then given back, and gets it. -/
  | contend (name : String) (next? : Option Role) (waiter : Acquisition)
  | useGuard (name : String) (call : GuardCall)
  /-- Give a guard back, after giving the granule a role if there is one. -/
  | release (name : String) (next? : Option Role)
  /-- Show the bounds of the table. -/
  | bounds
  /-- List entries of the table. -/
  | entries (skip take : Nat)
  /-- Look up the index of an address. -/
  | index (addr : Address)
  /-- Look up the granule at an untrusted address. -/
  | find (addr : Address)
  /-- Look up the granule at a trusted address. -/
  | entryAt (addr : Address)
  /-- Ask for the address of the descriptor that stands alone. -/
  | detachedAddress
  /-- Count references without the lock, one by one. -/
  | count (call : CountCall) (place : Place) (times : Nat)
  | references (place : Place)
  | memoryInfo
  | fill (addr : Address) (value : UInt8)
  | isZeroed (addr : Address)
  /-- Read a granule's content into a buffer of a length, all of whose bytes are `0xee`. -/
  | read (addr : Address) (length : Nat)
  | selectCpu (cpu : UInt64)
  | currentCpu
  | mapWindow (slot : WindowSlot) (addr : Address)
  | unmapWindow (slot : WindowSlot) (window : Address)
  | isMapped (cpu : UInt64) (slot : WindowSlot)
deriving DecidableEq, Repr

/-- The answer to a locking operation. -/
inductive AcquireReply (region : Region) where
  /-- What the guards showed, and what was wrong with releasing those that were not kept. -/
  | granted (views : List GuardView) (releaseFaults : List Fault)
  | nothing
  | refused (reason : Refusal)
  | halted (halt : Halt region)
deriving DecidableEq, Repr

/-- The answer to a step. -/
inductive Reply (region : Region) where
  | done
  | halted (halt : Halt region)
  | unknownGuard (name : String)
  | acquired (reply : AcquireReply region)
  /-- What was wrong with the release, and how the waiting caller fared. -/
  | contended (releaseFault? : Option Fault) (waiter : AcquireReply region)
  | view (view : GuardView)
  | text (content : String)
  | address (addr? : Option Address)
  | index (index? : Option Nat)
  | bounds (base limit : Address) (size : Nat)
  /-- Addresses of granules, each with the address that its descriptor leads back to. -/
  | entries (pairs : List (Address × Address))
  | references (references : UInt64)
  | flag (value : Bool)
  | bytes (content : Array UInt8)
  /-- The processor of the caller, and the one whose windows are used. -/
  | cpus (caller windows : Cpu)
  | memoryInfo (base : Address) (granules : UInt64) (spec : RegionSpec)
deriving DecidableEq, Repr

end GranuleMonitor
