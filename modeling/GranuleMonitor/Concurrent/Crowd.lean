import GranuleMonitor.Custody

/-!
# Callers that lock granules at the same time

A crowd is a number of callers that work on one monitor. Each of them, while it holds nothing, asks
for one granule or for a set of granules, and later gives back what it got. Taking one lock is one
step, so other callers may come in between the locks of a set. A caller that needs a lock which
somebody else has makes no step; it is blocked.

`Crowd.Step` is the relation between a crowd and the next one, and `Crowd.Reachable` holds of the
crowds that can come about.
-/

namespace GranuleMonitor

variable {region : Region} {k : Nat}

/-- Where a caller is. -/
inductive Phase (region : Region) where
  /-- It holds nothing and asks for nothing. -/
  | idle
  /-- It asks for one granule. -/
  | seeking (call : Acquisition)
  /-- It is locking the granules of a set; these positions are left. -/
  | collecting {n : Nat} (claims : Vector (Claim region) n) (pending : List (Fin n))
      (holdings : Holdings region n)
  /-- It has got what it asked for. -/
  | holding (guards : List (Guard region))

namespace Phase

/-- The guards that a caller has. -/
def guards : Phase region → List (Guard region)
  | .idle | .seeking _ => []
  | .collecting _ _ holdings => holdings.guards
  | .holding guards => guards

@[simp]
theorem guards_idle : (idle : Phase region).guards = [] := rfl

@[simp]
theorem guards_seeking (call : Acquisition) : (seeking call : Phase region).guards = [] := rfl

@[simp]
theorem guards_collecting {n : Nat} (claims : Vector (Claim region) n) (pending : List (Fin n))
    (holdings : Holdings region n) :
    (collecting claims pending holdings).guards = holdings.guards := rfl

@[simp]
theorem guards_holding (guards : List (Guard region)) : (holding guards).guards = guards := rfl

/-- The phase of a caller that has got guards, or none. -/
def ofGuards : List (Guard region) → Phase region
  | [] => .idle
  | guard :: rest => .holding (guard :: rest)

@[simp]
theorem guards_ofGuards (guards : List (Guard region)) : (ofGuards guards).guards = guards := by
  cases guards <;> rfl

/-- The phase of a caller that is about to lock the granules of claims. -/
def collect {n : Nat} (claims : Vector (Claim region) n) : Phase region :=
  .collecting claims (lockingOrder claims) (.replicate n none)

/-- A descriptor whose lock a caller needs for its next step, while somebody has it. -/
def blockedOn? (phase : Phase region) (monitor : Monitor region) : Option (Target region) :=
  match phase with
  | .idle | .holding _ | .collecting _ [] _ => none
  | .seeking call =>
    match call.perform monitor with
    | .error (.waiting target) _ => some target
    | _ => none
  | .collecting claims (position :: _) holdings =>
    match lockNext claims holdings position monitor with
    | .error (.waiting target) _ => some target
    | _ => none

end Phase

/-- A locking operation that takes at most one lock. -/
def Acquisition.IsSingle : Acquisition → Prop
  | .lock .. | .lockOnMatch .. | .lockAt _ | .lockUnreferenced _ => True
  | .lockPair .. | .lockSet _ => False

/-- Callers that work on one monitor. -/
structure Crowd (region : Region) (k : Nat) where
  monitor : Monitor region
  phases : Vector (Phase region) k

namespace Crowd

/-- The crowd after a caller has made a step. -/
def put (crowd : Crowd region k) (caller : Fin k) (phase : Phase region)
    (monitor : Monitor region) : Crowd region k :=
  ⟨monitor, crowd.phases.set caller phase caller.isLt⟩

/-- One step of one caller. -/
inductive Step : Crowd region k → Crowd region k → Prop where
  /-- A caller begins to ask for one granule. -/
  | seek {crowd} (caller : Fin k) (call : Acquisition) (single : call.IsSingle)
      (idle : crowd.phases.get caller = .idle) :
      Step crowd (crowd.put caller (.seeking call) crowd.monitor)
  /-- The operation for one granule ends. -/
  | seize {crowd} (caller : Fin k) {call : Acquisition} {acquired : Acquired region}
      {monitor : Monitor region} (seeking : crowd.phases.get caller = .seeking call)
      (ended : call.perform crowd.monitor = .ok acquired monitor) :
      Step crowd (crowd.put caller (.ofGuards acquired.toList) monitor)
  /-- The operation for one granule ends with a fault. -/
  | seekFault {crowd} (caller : Fin k) {call : Acquisition} {cause : Fault}
      {monitor : Monitor region} (seeking : crowd.phases.get caller = .seeking call)
      (ended : call.perform crowd.monitor = .error (.fault cause) monitor) :
      Step crowd (crowd.put caller .idle monitor)
  /-- A caller asks for a set and is turned down before it takes a lock. -/
  | refuse {crowd} (caller : Fin k) {n : Nat} (requests : Vector Request n) (notice : Notice)
      (idle : crowd.phases.get caller = .idle)
      (refused : ∀ claims, resolveAll region requests = .ok claims →
        repeatsNext claims (lockingOrder claims) = true) :
      Step crowd
        (crowd.put caller .idle { crowd.monitor with log := crowd.monitor.log.push notice })
  /-- A caller asks for a set, all of whose granules exist and are different. -/
  | ask {crowd} (caller : Fin k) {n : Nat} {requests : Vector Request n}
      {claims : Vector (Claim region) n} (idle : crowd.phases.get caller = .idle)
      (resolved : resolveAll region requests = .ok claims)
      (accepted : repeatsNext claims (lockingOrder claims) = false) :
      Step crowd (crowd.put caller (.collect claims) crowd.monitor)
  /-- The next granule of a set is locked. -/
  | lockNext {crowd} (caller : Fin k) {n : Nat} {claims : Vector (Claim region) n}
      {position : Fin n} {later : List (Fin n)} {holdings next : Holdings region n}
      {monitor : Monitor region}
      (collecting : crowd.phases.get caller = .collecting claims (position :: later) holdings)
      (locked : GranuleMonitor.lockNext claims holdings position crowd.monitor =
        .ok (some next) monitor) :
      Step crowd (crowd.put caller (.collecting claims later next) monitor)
  /-- The next granule of a set has another role, and the set is given up. -/
  | giveUp {crowd} (caller : Fin k) {n : Nat} {claims : Vector (Claim region) n}
      {position : Fin n} {later : List (Fin n)} {holdings : Holdings region n}
      {monitor : Monitor region}
      (collecting : crowd.phases.get caller = .collecting claims (position :: later) holdings)
      (refused : GranuleMonitor.lockNext claims holdings position crowd.monitor =
        .ok none monitor) :
      Step crowd (crowd.put caller .idle monitor)
  /-- A set is given up, and one of its granules should not have been left as it is. -/
  | giveUpFault {crowd} (caller : Fin k) {n : Nat} {claims : Vector (Claim region) n}
      {position : Fin n} {later : List (Fin n)} {holdings : Holdings region n} {cause : Fault}
      {monitor : Monitor region}
      (collecting : crowd.phases.get caller = .collecting claims (position :: later) holdings)
      (refused : GranuleMonitor.lockNext claims holdings position crowd.monitor =
        .error (.fault cause) monitor) :
      Step crowd (crowd.put caller .idle monitor)
  /-- All granules of a set are locked. -/
  | complete {crowd} (caller : Fin k) {n : Nat} {claims : Vector (Claim region) n}
      {holdings : Holdings region n} {guards : Vector (Guard region) n}
      (collecting : crowd.phases.get caller = .collecting claims [] holdings)
      (complete : holdings.complete? = some guards) :
      Step crowd (crowd.put caller (.ofGuards guards.toList) crowd.monitor)
  /-- A caller uses a guard, with or without a fault. -/
  | useGuard {crowd} (caller : Fin k) {guards : List (Guard region)} {guard : Guard region}
      (call : GuardCall) (holding : crowd.phases.get caller = .holding guards)
      (mine : guard ∈ guards) :
      Step crowd
        (crowd.put caller (.holding guards) ((call.perform guard).after crowd.monitor))
  /-- A caller gives a lock back, with or without a fault. -/
  | release {crowd} (caller : Fin k) {guards : List (Guard region)} {guard : Guard region}
      (next? : Option Role) (holding : crowd.phases.get caller = .holding guards)
      (mine : guard ∈ guards) :
      Step crowd
        (crowd.put caller (.ofGuards (guards.erase guard))
          ((Session.releaseGuard guard next?).after crowd.monitor))
  /-- A caller is broken off and loses a guard. -/
  | abandon {crowd} (caller : Fin k) {guards : List (Guard region)} {guard : Guard region}
      (holding : crowd.phases.get caller = .holding guards) (mine : guard ∈ guards) :
      Step crowd
        (crowd.put caller (.ofGuards (guards.erase guard)) (guard.abandon.after crowd.monitor))
  /-- Somebody counts a reference without the lock. -/
  | count {crowd} (call : CountCall) (place : Place) :
      Step crowd ⟨(call.perform place).after crowd.monitor, crowd.phases⟩

/-- At first nothing is locked and all callers are idle. -/
def Initial (crowd : Crowd region k) : Prop :=
  (∀ target, (crowd.monitor.store.get target).locked = false) ∧
    ∀ caller : Fin k, crowd.phases.get caller = .idle

/-- The crowds that can come about. -/
inductive Reachable : Crowd region k → Prop where
  | initial {crowd} (initial : crowd.Initial) : Reachable crowd
  | step {crowd next} (prior : Reachable crowd) (step : Step crowd next) : Reachable next

/-- A caller needs a lock for its next step that somebody has. -/
def BlockedOn (crowd : Crowd region k) (caller : Fin k) (target : Target region) : Prop :=
  (crowd.phases.get caller).blockedOn? crowd.monitor = some target

/-- A caller has the lock of a descriptor. -/
def Holds (crowd : Crowd region k) (caller : Fin k) (target : Target region) : Prop :=
  ⟨target⟩ ∈ (crowd.phases.get caller).guards

/-- A caller is blocked by a lock that another one has. -/
def WaitsFor (crowd : Crowd region k) (caller other : Fin k) : Prop :=
  ∃ target, crowd.BlockedOn caller target ∧ crowd.Holds other target

end Crowd

end GranuleMonitor
