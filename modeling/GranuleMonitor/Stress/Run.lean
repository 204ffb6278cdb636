import GranuleMonitor.Setting
import GranuleMonitor.Stress.Call

/-!
# Stress runs on one processor after the other

Each processor does its rounds with random numbers of its own, so that a run is determined by the
processor number and the state of the table.
-/

namespace GranuleMonitor.Stress

variable {region : Region}

/-- Performs the calls of a task. -/
def runCalls : List (Call region) → Xoshiro256 → Exercise region Xoshiro256
  | [], dice => pure dice
  | call :: later, dice => do
    let (byte, dice) := call.draw dice
    call.performBefore later byte
    runCalls later dice

/-- Does a number of rounds. -/
def runRounds : Nat → Xoshiro256 → Exercise region Unit
  | 0, _ => pure ()
  | left + 1, dice => do
    let (task, dice) := Task.draw dice
    let calls ← Exercise.onMonitor task.attempt
    let dice ← runCalls calls dice
    runRounds left dice

/-- Does all rounds of a processor. -/
def runCpu (cpu : UInt64) : Exercise region Unit := do
  Exercise.onMonitor (Act.selectCpu cpu)
  runRounds rounds (Xoshiro256.ofSeed cpu)
  Exercise.onMonitor (Act.note (.cpuFinished cpu.toNat))

/-- Runs processors one after the other, also after one that was broken off, and gives the fault of
each. -/
def runCpus (arena : Arena region) : List UInt64 → List (Except (Halt region) Unit) × Arena region
  | [] => ([], arena)
  | cpu :: rest =>
    match runCpu cpu arena with
    | .ok _ arena =>
      let (results, arena) := runCpus arena rest
      (.ok () :: results, arena)
    | .error halt arena =>
      let (results, arena) := runCpus arena rest
      (.error halt :: results, arena)

/-- A state in which a granule is put before a run. -/
structure Placement where
  index : Nat
  role : Role
  references : UInt64
  content : UInt8
deriving DecidableEq, Repr

/-- Brings a granule into a state. The lock is given back whatever the state is. -/
def Placement.apply (placement : Placement) : Act region Unit := do
  let addr ← Act.ofExcept (granuleAddress (← get).memory placement.index)
  let guard ← (← Act.ofExcept (region.entryAt addr)).lock .nonsecure
  guard.raise placement.references
  Act.fill addr placement.content
  guard.setRole placement.role
  guard.abandon

/-- Brings granules into states, one after the other. -/
def placeAll (monitor : Monitor region) (placements : List Placement) : Monitor region :=
  placements.foldl
    (fun monitor placement =>
      match (placement.apply : Act region Unit) monitor with
      | .ok _ monitor => monitor
      | .error _ monitor => monitor)
    monitor

/-- Begins a run on a monitor. -/
def Arena.start (monitor : Monitor region) : Arena region :=
  ⟨{ monitor with log := #[] }, .zero⟩

end GranuleMonitor.Stress
