import GranuleMonitor.Benchmark.Statistics
import GranuleMonitor.Benchmark.Workload

/-!
# Measuring

A workload is executed a number of times to warm up, and then once for each place in the room for
measurements. What was measured is printed as one line of JSON and summarized in another line. If an
execution is broken off, the measurements so far stay in the room.
-/

namespace GranuleMonitor

/-- How a workload is measured. -/
structure BenchOptions where
  repetitions : UInt32
  coldStart : UInt32
  machine : String
deriving DecidableEq, Repr

namespace Workload

variable {region : Region} {σ : Type}

/-- Executes a workload a number of times without keeping the measurements. -/
def warmUp (timer : Timer) (workload : Workload) : Nat → Trial region σ Unit
  | 0 => pure ()
  | more + 1 => do
    let _ ← workload.execute timer
    warmUp timer workload more

/-- Stores a measurement. -/
def store (place : Nat) (time : UInt32) : Trial region σ Unit :=
  modify fun bench => { bench with room := bench.room.setIfInBounds place time }

/-- Executes a workload once for each of the last places in the room. -/
def fillRoom (timer : Timer) (workload : Workload) : Nat → Trial region σ Unit
  | 0 => pure ()
  | left + 1 => do
    let time ← workload.execute timer
    let size := (← get).room.size
    store (size - (left + 1)) time
    fillRoom timer workload left

/-- The line of a report that holds all measurements. -/
def infoLine (region : Region) (timer : Timer) (options : BenchOptions) (workload : Workload)
    (room : Array UInt32) : String :=
  "[BENCH-INFO] " ++ Json.object [
    ("bench_name", Json.string workload.name),
    ("bench_options", workload.options region),
    ("machine_name", Json.string options.machine),
    ("cold_start", Json.number options.coldStart.toNat),
    ("repetitions", Json.number options.repetitions.toNat),
    ("ticks_per_ms", Json.number timer.ticksPerMs.toNat),
    ("data", Json.array (room.toList.map fun time => Json.number time.toNat))] ++ "\n"

/-- The line of a report that holds the summary. -/
def finishLine (workload : Workload) (summary : Summary) : String :=
  s!"-> Finished {workload.name}: mean={summary.mean}, min={summary.least}, " ++
    s!"max={summary.greatest}\n\n"

/-- Measures a workload, without making up for its executions. -/
def trial (timer : Timer) (options : BenchOptions) (workload : Workload) :
    Trial region σ Summary := do
  let size := (← get).room.size
  if options.repetitions.toNat ≠ size then
    Trial.fail (.roomMismatch options.repetitions.toNat size)
  Trial.print s!"Running Benchmark \"{workload.name}\" with options "
  Trial.print (workload.options region ++ "\n")
  workload.warmUp timer options.coldStart.toNat
  workload.fillRoom timer size
  let room := (← get).room
  Trial.print (workload.infoLine region timer options room)
  let summary := Summary.ofSeries room.toList
  Trial.print (workload.finishLine summary)
  return summary

/-- Performs an action, and then another one to finish, also if the first one was broken off. -/
def concluding {α : Type} (action : Trial region σ α) (finish : Trial region σ Unit) :
    Trial region σ α := fun bench =>
  match action bench with
  | .ok value bench =>
    match finish bench with
    | .ok _ bench => .ok value bench
    | .error halt bench => .error halt bench
  | .error halt bench =>
    match finish bench with
    | .ok _ bench => .error halt bench
    | .error _ bench => .error halt bench

/-- Measures a workload from scratch. -/
def measure (timer : Timer) (options : BenchOptions) (workload : Workload) :
    Trial region σ Summary := do
  match workload.setupFault? region with
  | some cause => Trial.fail cause
  | none =>
    Trial.prepare
    concluding (workload.trial timer options) workload.conclude

end Workload

namespace Bench

variable {region : Region} {σ : Type}

/-- Begins measurements on a monitor, with a generator and a room. -/
def startWith (generator : Generator σ) (monitor : Monitor region) (room : Array UInt32) :
    Bench region σ where
  monitor := monitor
  role := .initial
  generator := generator
  dice := generator.first
  stops := 0
  room := room
  output := ""

/-- Begins measurements on a monitor as the benchmark program does. -/
def start (monitor : Monitor region) (room : Array UInt32) : Bench region :=
  startWith ⟨benchDice, Xoshiro128.next⟩ monitor room

end Bench

end GranuleMonitor
