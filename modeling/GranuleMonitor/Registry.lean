import GranuleMonitor.Lock

/-!
# The table of the process

A process has at most one table, and it is never replaced. Creating it takes two steps, between
which other callers may come in: `look` checks that there is none yet and that the range is proper,
and `put` puts the new table in place unless somebody was faster. `create` is both in a row.
-/

namespace GranuleMonitor

/-- The place for the table of a process. -/
structure Registry where
  table? : Option (Σ region : Region, Store region)
  log : Array Notice

/-- Why the table of a process was not created. -/
inductive CreationError where
  /-- The range is not proper. -/
  | range (reason : RangeError)
  /-- There is a table already. -/
  | alreadyCreated
deriving DecidableEq, Repr

/-- The text of a creation error. -/
def CreationError.message : CreationError → String
  | .range reason => reason.message
  | .alreadyCreated => "granule table is already initialized"

/-- How an attempt to give a granule of the process another role ended. -/
inductive RoleChange where
  | done
  | refused (reason : Refusal)
  /-- The granule is locked, and nothing has happened. -/
  | waiting
deriving DecidableEq, Repr

namespace Registry

/-- A process without a table. -/
def empty : Registry := ⟨none, #[]⟩

/-- Records a notice. -/
def note (registry : Registry) (notice : Notice) : Registry :=
  { registry with log := registry.log.push notice }

/-- Checks that a table may be created, and gives its region. -/
def look (registry : Registry) (spec : RegionSpec) : Except CreationError Region × Registry :=
  if registry.table?.isSome then (.error .alreadyCreated, registry)
  else match spec.check with
    | .error reason => (.error (.range reason), registry)
    | .ok region => (.ok region, registry.note (.tableCreated region.base region.count))

/-- Puts a new table in place, unless there is one by now. -/
def put (registry : Registry) (region : Region) : Except CreationError Region × Registry :=
  match registry.table? with
  | some _ => (.error .alreadyCreated, registry)
  | none =>
    (.ok region, { registry with table? := some ⟨region, .fresh region⟩ }.note .tableStored)

/-- Creates the table. -/
def create (registry : Registry) (spec : RegionSpec) : Except CreationError Region × Registry :=
  match registry.look spec with
  | (.error reason, registry) => (.error reason, registry)
  | (.ok region, registry) => registry.put region

/-- The table, which has to exist. -/
def table (registry : Registry) : Except Fault (Σ region : Region, Store region) :=
  match registry.table? with
  | some table => .ok table
  | none => .error .noTable

/-- Uses the table, if there is one, in a way that may change its descriptors and leave records. -/
def use (registry : Registry) (change : (region : Region) → Store region → Store region)
    (log : Array Notice) : Registry :=
  match registry.table? with
  | none => registry
  | some ⟨region, store⟩ => ⟨some ⟨region, change region store⟩, log⟩

/-- Locks the granule at an address if it has the expected role, and gives it another one. -/
def transition (registry : Registry) (addr : Address) (expected next : Role) :
    Except Fault RoleChange × Registry :=
  match registry.table? with
  | none => (.error .noTable, registry)
  | some ⟨region, store⟩ =>
    let action : Act region RoleChange := do
      match ← lockAt addr expected with
      | .error reason => return .refused reason
      | .ok guard =>
        guard.transition next
        return .done
    let monitor : Monitor region :=
      { Monitor.create region .absent with store, log := registry.log }
    match action monitor with
    | .ok change monitor => (.ok change, ⟨some ⟨region, monitor.store⟩, monitor.log⟩)
    | .error (.fault cause) monitor => (.error cause, ⟨some ⟨region, monitor.store⟩, monitor.log⟩)
    | .error (.waiting _) monitor => (.ok .waiting, ⟨some ⟨region, monitor.store⟩, monitor.log⟩)

end Registry

end GranuleMonitor
