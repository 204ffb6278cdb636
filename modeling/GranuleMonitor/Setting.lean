import GranuleMonitor.Monitor

/-!
# Settings

A setting says what a monitor is created for: a range of addresses that nothing needs to stand
behind, or memory of a number of granules, which the table then covers exactly.
-/

namespace GranuleMonitor

/-- What a monitor is created for. -/
inductive Setting where
  /-- A range of addresses. -/
  | range (spec : RegionSpec)
  /-- Memory of a number of granules. -/
  | backed (granules : UInt64)
deriving DecidableEq, Repr

/-- Why a monitor could not be created. -/
inductive SettingError where
  | range (reason : RangeError)
  | memory (reason : MemoryError)
deriving DecidableEq, Repr

namespace Setting

/-- Creates the monitor for a setting. -/
def create (host : Host) : Setting → Except SettingError (Σ region : Region, Monitor region)
  | .range spec =>
    match spec.check with
    | .ok region => .ok ⟨region, .create region .absent⟩
    | .error reason => .error (.range reason)
  | .backed granules =>
    match Memory.obtain host granules with
    | .error reason => .error (.memory reason)
    | .ok memory =>
      match memory.spec.check with
      | .ok region => .ok ⟨region, .create region memory⟩
      | .error reason => .error (.range reason)

end Setting

end GranuleMonitor
