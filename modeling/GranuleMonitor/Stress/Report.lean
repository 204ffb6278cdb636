import GranuleMonitor.Stress.Run

/-!
# The stress program

The program runs all processors, reports what they did, and then checks each granule: nobody may
hold its lock or refer to it, and it must be non-secure or delegated. If a processor was broken off,
the report says only that.
-/

namespace GranuleMonitor.Stress

variable {region : Region}

/-- Whether the granule at an address can be locked in one of two roles; it is unlocked again. -/
def isReleased (addr : Address) : Act region Bool := do
  match ← lockAt addr .nonsecure with
  | .ok guard =>
    guard.release
    return true
  | .error _ =>
    match ← lockAt addr .delegated with
    | .ok guard =>
      guard.release
      return true
    | .error _ => return false

/-- The addresses of the granules that somebody still uses. -/
def leaks : List (Fin region.size) → Act region (List Address)
  | [] => return []
  | index :: rest => do
    let addr := region.address index
    let released ← isReleased addr
    let references ← (Target.entry index : Target region).references
    let later ← leaks rest
    return if released ∧ references = 0 then later else addr :: later

/-- A line of the report. -/
abbrev Line := Level × String

/-- The line that says what is about to be run. -/
def startLine (cpus : Nat) : Line :=
  (.info, s!"Running {rounds} iterations on {cpus} cpus with {granules} granules")

/-- The line that says how long the run took. -/
def durationLine (duration : String) : Line := (.info, s!"Finished after {duration}")

/-- The line that holds all counts. -/
def tallyLine (tally : Tally) : Line :=
  (.info, s!"delegated={tally.delegated} undelegated={tally.undelegated} pairs={tally.pairs} " ++
    s!"atomic={tally.atomic} rejected={tally.rejected} busy={tally.busy}")

/-- The lines about the granules that are still used; without any, one line says so. -/
def leakLines : List Address → List Line
  | [] => [(.info, "All granules released")]
  | leaked => leaked.map fun addr =>
    (.error,
      s!"Granule {hexText addr} is still locked, referenced or in an unexpected state")

/-- The line after a run in which a processor was broken off. -/
def brokenLine : Line := (.error, "At least one cpu panicked")

/-- How a run of the program went. -/
structure Report where
  cpus : Nat
  tally : Tally
  /-- Some processor was broken off. -/
  broken : Bool
  /-- The addresses of the granules that somebody still uses. -/
  leaked : List Address
deriving DecidableEq, Repr

namespace Report

/-- No processor was broken off and no granule is still used. -/
def clean (report : Report) : Bool := !report.broken && report.leaked.isEmpty

/-- The lines of a report on a run that took a certain time. -/
def lines (report : Report) (duration : String) : List Line :=
  if report.broken then [startLine report.cpus, brokenLine]
  else [startLine report.cpus, durationLine duration, tallyLine report.tally] ++
    leakLines report.leaked

end Report

/-- Runs the program with a number of processors, one after the other. -/
def report (host : Host) (cpus : Nat) : Except SettingError Report :=
  match (Setting.backed (UInt64.ofNat granules)).create host with
  | .error reason => .error reason
  | .ok ⟨region, monitor⟩ =>
    let (results, arena) := runCpus (.start monitor) ((List.range cpus).map UInt64.ofNat)
    match (leaks (List.finRange region.size) : Act region (List Address)) arena.monitor with
    | .ok leaked _ => .ok ⟨cpus, arena.tally, !results.all (·.isOk), leaked⟩
    | .error _ _ => .ok ⟨cpus, arena.tally, true, []⟩

end GranuleMonitor.Stress
