import GranuleMonitor.Benchmark.Harness
import GranuleMonitor.Setting

/-!
# Measuring everything

The suite measures selected groups of workloads one after the other on one table, and prints the
progress before each of them.
-/

namespace GranuleMonitor

/-- Which groups of workloads are measured. -/
structure Selection where
  lock : Bool
  findLock : Bool
  lockSet : Bool
  references : Bool
  zeroing : Bool
deriving DecidableEq, Repr

namespace Suite

/-- The number of granules of the table that the suite runs on. -/
def granules : Nat := 1024

/-- The size of the largest set of granules that is locked. -/
def largestSet : Nat := 8

/-- No group at all. -/
def nothing : Selection := ⟨false, false, false, false, false⟩

/-- All groups. -/
def everything : Selection := ⟨true, true, true, true, true⟩

/-- The workloads of the selected groups. -/
def workloads (selection : Selection) : List Workload :=
  (if selection.lock then [.lockUnlock, .lockTransition] else []) ++
  (if selection.findLock then [.findLock, .findLockInvalid] else []) ++
  (if selection.lockSet then (List.range largestSet).map fun size => .lockSet (size + 1)
    else []) ++
  (if selection.references then [.atomicReferences, .lockedReferences] else []) ++
  (if selection.zeroing then [.zeroing] else [])

/-- How the benchmark program measures. -/
def programOptions : BenchOptions := ⟨100, 10, "desktop"⟩

/-- How fast the timer of the benchmark program runs: it counts nanoseconds. -/
def programTicksPerMs : UInt32 := 1000000

variable {region : Region} {σ : Type}

/-- Measures workloads. The first number is how many have been measured, the second how many there
are altogether. -/
def measureAll (timer : Timer) (options : BenchOptions) (measured total : Nat) :
    List Workload → Trial region σ Unit
  | [] => pure ()
  | workload :: rest => do
    Trial.print s!"[{100 * measured / total}%] "
    let _ ← workload.measure timer options
    measureAll timer options (measured + 1) total rest

/-- Measures the selected groups. -/
def run (timer : Timer) (options : BenchOptions) (selection : Selection) : Trial region σ Unit :=
  match workloads selection with
  | [] => Trial.onMonitor (Act.note .nothingSelected)
  | first :: rest => measureAll timer options 0 (rest.length + 1) (first :: rest)

/-- Begins the suite on new memory. -/
def start (host : Host) (room : Array UInt32) :
    Except SettingError (Σ region : Region, Bench region) :=
  match (Setting.backed (UInt64.ofNat granules)).create host with
  | .error reason => .error reason
  | .ok ⟨region, monitor⟩ => .ok ⟨region, .start monitor room⟩

end Suite

end GranuleMonitor
