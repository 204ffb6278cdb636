import GranuleMonitor.Observation
import GranuleMonitor.Session.Step
import GranuleMonitor.Zeroing

/-!
# Sessions

`Session.step` carries out one step and answers it; `Session.play` does so for a list of steps and
observes the monitor after each. A session has one caller. A lock that he holds himself would never
be given back while he waits for it, so a step that needs such a lock has no effect and is answered
as waiting. At the end of a session the guards that are left are released, by ascending name.
-/

namespace GranuleMonitor

/-- Uses a guard. -/
def GuardCall.perform {region : Region} (guard : Guard region) :
    GuardCall → Act region (Reply region)
  | .view => fun monitor => .ok (.view (monitor.view guard)) monitor
  | .describe => fun monitor => .ok (.text (monitor.view guard).describe) monitor
  | .address => do return .address (some (← Act.ofExcept guard.target.address))
  | .setRole role => do
    guard.setRole role
    return .done
  | .raise added => do
    guard.raise added
    return .done
  | .lower removed => do
    guard.lower removed
    return .done
  | .zero slot => do
    guard.zero slot
    return .done

/-- A monitor in use, with the guards that are held by name. -/
structure Session (region : Region) where
  monitor : Monitor region
  /-- The guards by ascending name. -/
  held : List (String × Guard region)

namespace Session

variable {region : Region}

/-- Begins a session on a monitor. -/
def start (monitor : Monitor region) : Session region := ⟨monitor, []⟩

/-- Performs an action and keeps its effects, whatever its outcome. -/
def run {α : Type} (session : Session region) (action : Act region α) :
    Except (Halt region) α × Session region :=
  let ⟨monitor, held⟩ := session
  match action monitor with
  | .ok value monitor => (.ok value, ⟨monitor, held⟩)
  | .error halt monitor => (.error halt, ⟨monitor, held⟩)

/-- Performs an action whose outcome makes the reply. -/
def answer {α : Type} (session : Session region) (action : Act region α)
    (reply : α → Reply region) : Reply region × Session region :=
  match session.run action with
  | (.ok value, session) => (reply value, session)
  | (.error halt, session) => (.halted halt, session)

/-- The fault that a release ended with, if any. -/
def faultOf? : Except (Halt region) Unit → Option Fault
  | .error (.fault cause) => some cause
  | .error (.waiting _) | .ok _ => none

/-- Releases guards one by one and lists what was wrong with them. -/
def releaseEach (session : Session region) : List (Guard region) → List Fault × Session region
  | [] => ([], session)
  | guard :: rest =>
    let (outcome, session) := session.run guard.release
    let (faults, session) := session.releaseEach rest
    ((faultOf? outcome).toList ++ faults, session)

/-- Puts a guard under a name into a list that ascends by name. -/
def insertNamed (name : String) (guard : Guard region) :
    List (String × Guard region) → List (String × Guard region)
  | [] => [(name, guard)]
  | (other, held) :: rest =>
    if name < other then (name, guard) :: (other, held) :: rest
    else (other, held) :: insertNamed name guard rest

/-- The guard that is held under a name. -/
def guard? (session : Session region) (name : String) : Option (Guard region) :=
  session.held.lookup name

/-- Forgets a name. -/
def forget (session : Session region) (name : String) : Session region :=
  { session with held := session.held.filter (·.1 != name) }

/-- Keeps a guard under a name. A guard that went by this name before is released. -/
def keep (session : Session region) (name : String) (guard : Guard region) :
    List Fault × Session region :=
  let former := (session.guard? name).toList
  let session := session.forget name
  { session with held := insertNamed name guard session.held }.releaseEach former

/-- Keeps the first guards under names and releases the others. -/
def distribute (session : Session region) :
    List String → List (Guard region) → List Fault × Session region
  | name :: names, guard :: guards =>
    let (faults, session) := session.keep name guard
    let (later, session) := session.distribute names guards
    (faults ++ later, session)
  | _, guards => session.releaseEach guards

/-- Performs a locking operation and hands out the guards. -/
def acquire (session : Session region) (call : Acquisition) (names : List String) :
    AcquireReply region × Session region :=
  match session.run call.perform with
  | (.error halt, session) => (.halted halt, session)
  | (.ok (.granted guards), session) =>
    let views := guards.map session.monitor.view
    let (faults, session) := session.distribute names guards
    (.granted views faults, session)
  | (.ok .nothing, session) => (.nothing, session)
  | (.ok (.refused reason), session) => (.refused reason, session)

/-- A lock that a locking operation needs and that the caller holds himself, not counting the guard
that he is about to give back. -/
def blocker? (session : Session region) (call : Acquisition) (leaving? : Option String) :
    Option (Target region) :=
  let mine := (session.held.filter fun entry => some entry.1 != leaving?).map (·.2.target)
  ((call.targets? region).getD []).find? (mine.contains ·)

/-- Gives a guard back. -/
def releaseGuard (guard : Guard region) : Option Role → Act region Unit
  | some next => guard.transition next
  | none => guard.release

/-- Uses a guard. -/
def useGuard (session : Session region) (guard : Guard region) (call : GuardCall) :
    Reply region × Session region :=
  session.answer (call.perform guard) id

/-- Counts a reference without the lock. -/
def countOnce (target : Target region) : CountCall → Act region Unit
  | .gain => target.gain
  | .drop => target.drop

/-- Counts references without the lock, until one cannot be counted. -/
def countTimes (target : Target region) (call : CountCall) : Nat → Act region Unit
  | 0 => pure ()
  | times + 1 => do
    countOnce target call
    countTimes target call times

/-- Whether a window slot is occupied, for a processor that may not exist. -/
def isMapped (windows : Windows) (cpu : UInt64) (slot : WindowSlot) : Except Fault Bool :=
  if known : cpu.toNat < maxCpus then .ok (windows.occupant? ⟨cpu.toNat, known⟩ slot).isSome
  else .error (.noSuchCpu cpu)

/-- Carries out a step and answers it. -/
def step (session : Session region) : Step → Reply region × Session region
  | .acquire call names =>
    match session.blocker? call none with
    | some target => (.halted (.waiting target), session)
    | none =>
      let (reply, session) := session.acquire call names
      (.acquired reply, session)
  | .contend name next? waiter =>
    match session.guard? name, session.blocker? waiter (some name) with
    | none, _ => (.unknownGuard name, session)
    | some _, some target => (.halted (.waiting target), session)
    | some guard, none =>
      let (released, session) := (session.forget name).run (releaseGuard guard next?)
      let (reply, session) := session.acquire waiter []
      (.contended (faultOf? released) reply, session)
  | .useGuard name call =>
    match session.guard? name with
    | none => (.unknownGuard name, session)
    | some guard => session.useGuard guard call
  | .release name next? =>
    match session.guard? name with
    | none => (.unknownGuard name, session)
    | some guard => (session.forget name).answer (releaseGuard guard next?) fun _ => .done
  | .bounds => (.bounds region.base region.limit region.size, session)
  | .entries skip take => (.entries (Monitor.entries region skip take), session)
  | .index addr => (.index ((region.index? addr).map (·.val)), session)
  | .find addr => (.address ((region.entryAt? addr).bind Monitor.addressOf?), session)
  | .entryAt addr =>
    session.answer (Act.ofExcept (region.entryAt addr)) fun target =>
      .address (Monitor.addressOf? target)
  | .detachedAddress =>
    session.answer (Act.ofExcept (Target.detached : Target region).address) fun addr =>
      .address (some addr)
  | .count call place times =>
    session.answer (do countTimes (← Act.ofExcept (place.target region)) call times)
      fun _ => .done
  | .references place =>
    session.answer (do (← Act.ofExcept (place.target region)).references) .references
  | .memoryInfo =>
    let memory := session.monitor.memory
    (.memoryInfo memory.base memory.granuleCount memory.spec, session)
  | .fill addr value => session.answer (Act.fill addr value) fun _ => .done
  | .isZeroed addr => session.answer (Act.isZeroed addr) .flag
  | .read addr length =>
    session.answer (Act.ofExcept (session.monitor.memory.read addr (.replicate length 0xee))) .bytes
  | .selectCpu cpu => session.answer (Act.selectCpu cpu) fun _ => .done
  | .currentCpu => (.cpus session.monitor.cpu session.monitor.cpu, session)
  | .mapWindow slot addr => session.answer (Act.mapWindow slot addr) .address
  | .unmapWindow slot window => session.answer (Act.unmapWindow slot window) fun _ => .done
  | .isMapped cpu slot =>
    session.answer (Act.ofExcept (isMapped session.monitor.windows cpu slot)) .flag

/-- The session with an empty log. -/
def clearLog (session : Session region) : Session region :=
  { session with monitor := { session.monitor with log := #[] } }

/-- Carries out steps, and observes the monitor after each one. The log of an observation holds
what its step recorded. -/
def play (session : Session region) :
    List Step → List (Reply region × Observation region) × Session region
  | [] => ([], session)
  | first :: rest =>
    let (reply, session) := session.clearLog.step first
    let observation := session.monitor.observe
    let (later, session) := session.play rest
    ((reply, observation) :: later, session)

/-- Releases the guards that are left, and says for each name what was wrong. -/
def finish (session : Session region) : List (String × Option Fault) × Session region :=
  session.held.foldl
    (fun (released, session) (name, guard) =>
      let (outcome, session) := (Session.forget session name).run guard.release
      (released ++ [(name, faultOf? outcome)], session))
    ([], session)

end Session

end GranuleMonitor
