import GranuleMonitor.Memory
import GranuleMonitor.Notice
import GranuleMonitor.Store
import GranuleMonitor.Window.Occupancy

/-!
# The monitor and its actions

A `Monitor` is the whole state that granule operations work on. An `Act` is an operation: it gives a
result, or it halts, and either way it leaves a monitor behind. Effects from before a halt stay.
An operation halts with a fault, or because it needs a lock that nobody is going to give back while
it runs. `bind_apply` says how operations follow one another. `Act.result` is how an operation ends,
and `Act.after` is the monitor that it leaves behind, whatever its outcome.
-/

namespace GranuleMonitor

/-- The state that granule operations work on. -/
structure Monitor (region : Region) where
  store : Store region
  windows : Windows
  /-- The processor that operations run on. -/
  cpu : Cpu
  memory : Memory
  log : Array Notice

namespace Monitor

/-- A monitor with a new table for a region. -/
def create (region : Region) (memory : Memory) : Monitor region where
  store := .fresh region
  windows := .empty
  cpu := 0
  memory := memory
  log := #[.tableCreated region.base region.count]

end Monitor

/-- Why an operation stopped without a result. -/
inductive Halt (region : Region) where
  /-- A rule was broken. -/
  | fault (cause : Fault)
  /-- The lock of a descriptor is needed and somebody has it. -/
  | waiting (target : Target region)
deriving DecidableEq, Repr

/-- An operation on a monitor. -/
abbrev Act (region : Region) := EStateM (Halt region) (Monitor region)

namespace Act

variable {region : Region} {α : Type}

/-- Reads a descriptor. -/
def read (target : Target region) : Act region Descriptor := fun monitor =>
  .ok (monitor.store.get target) monitor

/-- Replaces a descriptor. -/
def write (target : Target region) (descriptor : Descriptor) : Act region Unit := fun monitor =>
  .ok () { monitor with store := monitor.store.set target descriptor }

/-- Records a notice. -/
def note (notice : Notice) : Act region Unit := fun monitor =>
  .ok () { monitor with log := monitor.log.push notice }

/-- Stops with a fault. -/
def fail (cause : Fault) : Act region α := fun monitor => .error (.fault cause) monitor

/-- Stops if something is wrong. -/
def failIf (fault? : Option Fault) : Act region Unit :=
  match fault? with
  | some cause => fail cause
  | none => pure ()

/-- Stops with the fault of a computation, or goes on with its value. -/
def ofExcept : Except Fault α → Act region α
  | .ok value => pure value
  | .error cause => fail cause

/-- Selects the processor that later operations run on. -/
def selectCpu (cpu : UInt64) : Act region Unit := fun monitor =>
  if known : cpu.toNat < maxCpus then .ok () { monitor with cpu := ⟨cpu.toNat, known⟩ }
  else .error (.fault (.unknownCpu cpu)) monitor

/-- Sets every byte of a granule in memory. -/
def fill (addr : Address) (value : UInt8) : Act region Unit := fun monitor =>
  match monitor.memory.fill addr value with
  | .ok memory => .ok () { monitor with memory }
  | .error cause => .error (.fault cause) monitor

/-- Whether every byte of a granule in memory is zero. -/
def isZeroed (addr : Address) : Act region Bool := fun monitor =>
  match monitor.memory.isZeroed addr with
  | .ok zeroed => .ok zeroed monitor
  | .error cause => .error (.fault cause) monitor

/-- Opens a window of the current processor. -/
def mapWindow (slot : WindowSlot) (addr : Address) : Act region (Option Address) := fun monitor =>
  match monitor.windows.map monitor.cpu slot addr with
  | .ok (window?, windows) => .ok window? { monitor with windows }
  | .error cause => .error (.fault cause) monitor

/-- Gives a window of the current processor back. The slot is empty afterwards, also if another
window was in it. -/
def unmapWindow (slot : WindowSlot) (window : Address) : Act region Unit := fun monitor =>
  let fault? := monitor.windows.unmapFault? monitor.cpu slot window
  let monitor := { monitor with windows := monitor.windows.put monitor.cpu slot none }
  match fault? with
  | some cause => .error (.fault cause) monitor
  | none => .ok () monitor

/-- Zeroes what is behind a window. A window with no memory behind it takes the bytes and keeps
nothing. -/
def scrubWindow (window : Address) : Act region Unit := fun monitor =>
  match monitor.memory.index? window with
  | none => .ok () monitor
  | some index =>
    match zeroWindow monitor.memory.pages[index] with
    | .ok content => .ok () { monitor with memory := monitor.memory.setPage index content }
    | .error cause => .error (.fault cause) monitor

/-- How an action ends: with a value, or halted. -/
def result (action : Act region α) (monitor : Monitor region) : Except (Halt region) α :=
  match action monitor with
  | .ok value _ => .ok value
  | .error halt _ => .error halt

/-- The monitor that an action leaves behind. -/
def after (action : Act region α) (monitor : Monitor region) : Monitor region :=
  match action monitor with
  | .ok _ last | .error _ last => last

@[simp]
theorem read_apply (target : Target region) (monitor : Monitor region) :
    read target monitor = .ok (monitor.store.get target) monitor := rfl

@[simp]
theorem write_apply (target : Target region) (descriptor : Descriptor)
    (monitor : Monitor region) :
    write target descriptor monitor =
      .ok () { monitor with store := monitor.store.set target descriptor } := rfl

@[simp]
theorem note_apply (notice : Notice) (monitor : Monitor region) :
    note notice monitor = .ok () { monitor with log := monitor.log.push notice } := rfl

@[simp]
theorem fail_apply (cause : Fault) (monitor : Monitor region) :
    (fail cause : Act region α) monitor = .error (.fault cause) monitor := rfl

@[simp]
theorem throw_apply (halt : Halt region) (monitor : Monitor region) :
    (throw halt : Act region α) monitor = .error halt monitor := rfl

/-- Nothing is stopped as long as nothing is wrong. -/
theorem failIf_apply (fault? : Option Fault) (monitor : Monitor region) :
    failIf fault? monitor =
      match fault? with
      | some cause => .error (.fault cause) monitor
      | none => .ok () monitor := by
  cases fault? <;> rfl

/-- A computation without effects gives its value, or stops with its fault. -/
theorem ofExcept_apply (computed : Except Fault α) (monitor : Monitor region) :
    (ofExcept computed : Act region α) monitor =
      match computed with
      | .ok value => .ok value monitor
      | .error cause => .error (.fault cause) monitor := by
  cases computed <;> rfl

/-- A value alone leaves the monitor as it is. -/
@[simp]
theorem pure_apply (value : α) (monitor : Monitor region) :
    (pure value : Act region α) monitor = .ok value monitor := rfl

/-- An action goes on with the monitor that the one before it leaves behind, unless that halts. -/
@[simp]
theorem bind_apply {β : Type} (action : Act region α) (next : α → Act region β)
    (monitor : Monitor region) :
    (action >>= next) monitor =
      match action monitor with
      | .ok value monitor => next value monitor
      | .error halt monitor => .error halt monitor := by
  simp only [bind, EStateM.bind]
  cases action monitor <;> rfl

/-- An action ends as the last part does that it comes to. -/
theorem result_bind {β : Type} (action : Act region α) (next : α → Act region β)
    (monitor : Monitor region) :
    (action >>= next).result monitor =
      match action monitor with
      | .ok value middle => (next value).result middle
      | .error halt _ => .error halt := by
  unfold result
  rw [bind_apply]
  cases action monitor <;> rfl

/-- What an action leaves behind is left behind by the last part that it comes to. -/
theorem after_bind {β : Type} (action : Act region α) (next : α → Act region β)
    (monitor : Monitor region) :
    (action >>= next).after monitor =
      match action monitor with
      | .ok value middle => (next value).after middle
      | .error _ middle => middle := by
  unfold after
  rw [bind_apply]
  cases action monitor <;> rfl

/-- An action gives a result exactly if both of its parts do. -/
theorem bind_apply_eq_ok_iff {β : Type} {action : Act region α} {next : α → Act region β}
    {monitor last : Monitor region} {result : β} :
    (action >>= next) monitor = .ok result last ↔
      ∃ value middle, action monitor = .ok value middle ∧
        next value middle = .ok result last := by
  rw [bind_apply]
  cases action monitor with
  | ok value middle => simp [and_assoc]
  | error cause middle => simp

end Act

end GranuleMonitor
