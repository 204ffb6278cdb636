import GranuleMonitor.LockSet
import GranuleMonitor.Random.Shuffle
import GranuleMonitor.Random.Xoshiro128
import GranuleMonitor.Text.Json
import GranuleMonitor.Zeroing

/-!
# What is measured

A workload is an operation that is executed many times while a timer runs. Each has a name and
options, which go into the report. Workloads that need random numbers draw them from a generator. Any
generator will do, but it begins anew for each workload, so that runs can be compared.

The state of a measurement is a `Bench`. One execution of a workload is `Workload.execute`; it gives
the time that the timer showed. After the last execution, or when one is broken off,
`Workload.conclude` makes up for what the executions left behind.
-/

namespace GranuleMonitor

/-- An operation that is measured. -/
inductive Workload where
  /-- Lock and unlock a granule whose role is known. -/
  | lockUnlock
  /-- Lock a granule in the role it should have, and unlock it in the next role. -/
  | lockTransition
  /-- Look up and lock a random granule. -/
  | findLock
  /-- Turn down a random address that is not that of a granule. -/
  | findLockInvalid
  /-- Count a reference and give it back, without the lock. -/
  | atomicReferences
  /-- Count a reference and give it back, under the lock. -/
  | lockedReferences
  /-- Zero a locked granule. -/
  | zeroing
  /-- Lock a number of granules that are named in a random order. -/
  | lockSet (size : Nat)
deriving DecidableEq, Repr

/-- A timer: what it shows the `k`-th time it is stopped, and how fast it runs. -/
structure Timer where
  reading : Nat → UInt32
  ticksPerMs : UInt32

/-- A timer that shows listed readings over and over again, or zero if none is listed. -/
def Timer.replay (readings : Array UInt32) (ticksPerMs : UInt32) : Timer where
  reading k := readings.getD (k % readings.size) 0
  ticksPerMs := ticksPerMs

/-- A timer that shows how many times it has been stopped before. -/
def Timer.counting (ticksPerMs : UInt32) : Timer where
  reading := UInt32.ofNat
  ticksPerMs := ticksPerMs

/-- A generator of random words: the state in which it begins, and how it gives a word. -/
structure Generator (σ : Type) where
  first : σ
  next : Source σ UInt32

/-- The state of a measurement. If nothing else is said, the generator is xoshiro128**. -/
structure Bench (region : Region) (σ : Type := Xoshiro128) where
  monitor : Monitor region
  /-- The role in which `Workload.lockTransition` expects the granule. -/
  role : Role
  generator : Generator σ
  dice : σ
  /-- How many times the timer has been stopped. -/
  stops : Nat
  /-- Where measurements are stored. -/
  room : Array UInt32
  /-- What has been printed. -/
  output : String

/-- An action of a measurement. -/
abbrev Trial (region : Region) (σ : Type) := EStateM (Halt region) (Bench region σ)

/-- The state in which the generator of the benchmark program begins. -/
def benchDice : Xoshiro128 := ⟨0x6e617267, 0x2d656c75, 0x6c626174, 0x2a112165⟩

namespace Trial

variable {region : Region} {σ α : Type}

/-- Performs an action on the monitor. -/
def onMonitor (action : Act region α) : Trial region σ α := fun bench =>
  let ⟨monitor, role, generator, dice, stops, room, output⟩ := bench
  match action monitor with
  | .ok value monitor => .ok value ⟨monitor, role, generator, dice, stops, room, output⟩
  | .error halt monitor => .error halt ⟨monitor, role, generator, dice, stops, room, output⟩

/-- Stops with a fault. -/
def fail (cause : Fault) : Trial region σ α := fun bench => .error (.fault cause) bench

/-- Stops the timer. -/
def stop (timer : Timer) : Trial region σ UInt32 := fun bench =>
  .ok (timer.reading bench.stops) { bench with stops := bench.stops + 1 }

/-- Draws a random word. -/
def random : Trial region σ UInt32 := fun bench =>
  let (word, dice) := bench.generator.next bench.dice
  .ok word { bench with dice }

/-- Prints text. -/
def print (text : String) : Trial region σ Unit := fun bench =>
  .ok () { bench with output := bench.output ++ text }

/-- Forgets what earlier workloads did: the generator begins anew. -/
def prepare : Trial region σ Unit := fun bench =>
  .ok () { bench with role := .initial, dice := bench.generator.first }

end Trial

/-- The descriptor of the first granule. -/
def Region.first (region : Region) : Target region := .entry ⟨0, region.size_pos⟩

/-- The address of the granule that a random word selects. -/
def Region.randomAddress (region : Region) (word : UInt32) : Address :=
  region.base + word.toUInt64 % region.count * granuleBytes

/-- An address selected by a random word that is not that of a granule: one inside the first
granule, or the end of the region. -/
def Region.randomInvalidAddress (region : Region) (word : UInt32) : Address :=
  let offset := word.toUInt64 % granuleBytes
  if offset = 0 then region.limit else region.base + offset

/-- Draws a number of granules that are spread evenly over a region, in a random order. The region
must have at least one and at least as many granules. -/
def Region.randomSet {σ : Type} (region : Region) (size : Nat) (source : Source σ UInt32)
    (state : σ) : Vector Request size × σ :=
  let stride := region.size / size
  let (word, state) := source state
  let start := word.toNat % stride
  let spread : Vector Nat size := .ofFn fun place => start + place * stride
  let (places, state) := shuffle source spread state
  (places.map fun index => ⟨region.base + UInt64.ofNat index * granuleBytes, .nonsecure⟩, state)

namespace Workload

variable {region : Region} {σ : Type}

/-- The name of a workload in reports. -/
def name : Workload → String
  | .lockUnlock => "lock_unlock"
  | .lockTransition => "lock_transition"
  | .findLock => "find_lock"
  | .findLockInvalid => "find_lock_invalid"
  | .atomicReferences => "atomic_refcount"
  | .lockedReferences => "locked_refcount"
  | .zeroing => "memzero"
  | .lockSet _ => "lock_set"

/-- The options of a workload in reports. -/
def options (region : Region) : Workload → String
  | .lockUnlock => Json.object [("state", Json.string Role.nonsecure.name)]
  | .lockTransition => Json.object [("states", Json.number Role.count)]
  | .findLock | .findLockInvalid => Json.object [("granule_count", Json.number region.size)]
  | .atomicReferences => Json.object [("operations", Json.number 2)]
  | .lockedReferences => Json.object [("operations", Json.number 4)]
  | .zeroing =>
    Json.object [("granule_size", Json.number granuleSize),
      ("slot", Json.string WindowSlot.delegated.name)]
  | .lockSet size => Json.object [("set_size", Json.number size)]

/-- What is wrong with measuring a workload on a region. -/
def setupFault? (region : Region) : Workload → Option Fault
  | .lockSet size => if size ≤ region.size then none else some .setTooLarge
  | _ => none

/-- Executes a workload once. -/
def execute (timer : Timer) : Workload → Trial region σ UInt32
  | .lockUnlock => do
    Trial.onMonitor do
      let guard ← region.first.lock .nonsecure
      guard.release
    Trial.stop timer
  | .lockTransition => do
    let role := (← get).role
    Trial.onMonitor do
      match ← region.first.lockOnMatch role with
      | some guard => guard.transition role.next
      | none => pure ()
    let time ← Trial.stop timer
    modify ({ · with role := role.next })
    return time
  | .findLock => do
    let addr := region.randomAddress (← Trial.random)
    Trial.onMonitor (tryOut addr)
    Trial.stop timer
  | .findLockInvalid => do
    let addr := region.randomInvalidAddress (← Trial.random)
    Trial.onMonitor (tryOut addr)
    Trial.stop timer
  | .atomicReferences => do
    Trial.onMonitor do
      region.first.gain
      region.first.drop
    Trial.stop timer
  | .lockedReferences => do
    Trial.onMonitor do
      let guard ← region.first.lock .nonsecure
      Act.holding [guard] do
        guard.raise 1
        guard.lower 1
      guard.release
    Trial.stop timer
  | .zeroing => do
    let guard ← Trial.onMonitor (region.first.lock .nonsecure)
    Trial.onMonitor (Act.holding [guard] (guard.zero .delegated))
    let time ← Trial.stop timer
    Trial.onMonitor guard.release
    return time
  | .lockSet size => do
    if size = 0 then Trial.fail .emptySet
    let requests ← modifyGet fun bench =>
      let (requests, dice) := region.randomSet size bench.generator.next bench.dice
      (requests, { bench with dice })
    Trial.onMonitor do
      match ← GranuleMonitor.lockSet requests with
      | some guards => Guard.releaseAll guards.toList
      | none => pure ()
    Trial.stop timer
where
  /-- Locks the granule at an address and unlocks it again, if that is possible. -/
  tryOut (addr : Address) : Act region Unit := do
    match ← lockAt addr .nonsecure with
    | .ok guard => guard.release
    | .error _ => pure ()

/-- Ends the measurement of a workload. The granule whose role has been changed becomes non-secure
again, if it has the role that the next execution would expect. -/
def conclude : Workload → Trial region σ Unit
  | .lockTransition => do
    let role := (← get).role
    Trial.onMonitor do
      match ← region.first.lockOnMatch role with
      | some guard => guard.transition .nonsecure
      | none => pure ()
  | _ => pure ()

end Workload

end GranuleMonitor
