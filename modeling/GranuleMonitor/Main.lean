import GranuleMonitor.Benchmark.Suite
import GranuleMonitor.Stress.Report

/-!
# The command line

`stress` runs the stress program on two processors or on a given number of them, and `benchmark`
measures everything. Workloads are pure functions, so they cannot read a clock: the readings of the
timer are taken before they run.
-/

namespace GranuleMonitor.Program

/-- Prints a line of a report. -/
def printLine (line : Stress.Line) : IO Unit :=
  IO.eprintln (line.1.name ++ " " ++ line.2)

/-- Prints why there is no monitor. -/
def printSettingError : SettingError → IO Unit
  | .memory reason => printLine (.error, "Could not map host memory: " ++ reason.message)
  | .range reason => printLine (.error, "Could not create granule table: " ++ reason.message)

/-- Runs the stress program. -/
@[noinline]
def stress (cpus : Nat) : IO UInt32 := do
  let before ← IO.monoMsNow
  match Stress.report .desktop cpus with
  | .error reason =>
    printSettingError reason
    return 1
  | .ok report =>
    let after ← IO.monoMsNow
    (report.lines s!"{after - before}ms").forM printLine
    return if report.clean then 0 else 1

/-- One reading of the timer. -/
def readTimer : IO UInt32 := do
  let before ← IO.monoNanosNow
  let after ← IO.monoNanosNow
  return (after - before).toUInt32

/-- Runs the benchmark program. -/
def benchmark : IO UInt32 := do
  let readings ← (List.range 128).mapM fun _ => readTimer
  let timer : Timer := .replay readings.toArray Suite.programTicksPerMs
  let room := Array.replicate Suite.programOptions.repetitions.toNat 0
  match Suite.start .desktop room with
  | .error reason =>
    printSettingError reason
    return 1
  | .ok ⟨_, start⟩ =>
    match Suite.run timer Suite.programOptions Suite.everything start with
    | .ok _ last =>
      IO.print last.output
      return 0
    | .error _ last =>
      IO.print last.output
      printLine (.error, "Benchmark thread panicked")
      return 1

end GranuleMonitor.Program

open GranuleMonitor in
/-- Runs the program that the arguments name. -/
def main : List String → IO UInt32
  | ["stress"] => Program.stress 2
  | ["stress", cpus] => Program.stress (Nat.max 2 (Nat.min (cpus.toNat?.getD 2) maxCpus))
  | ["benchmark"] => Program.benchmark
  | _ => do
    IO.eprintln "usage: stress [processors] | benchmark"
    return 2
