import GranuleMonitor.Benchmark.Harness
import GranuleMonitor.Proofs.Locking.Seizure
import GranuleMonitor.Proofs.Zeroing

/-!
# What an execution does

An execution of a workload draws random numbers, performs a task on the monitor and stops the timer:
`Workload.execute_apply`. The task is `Workload.task`, and neither it nor the numbers depend on the
timer, the room for measurements or what has been printed. What is done to the monitor after the
last execution is `Workload.conclusion`.
-/

namespace GranuleMonitor

variable {region : Region} {σ : Type}

/-- Where the executions of a measurement begin. -/
def Bench.prepared (bench : Bench region σ) : Bench region σ :=
  { bench with role := .initial, dice := bench.generator.first }

@[simp]
theorem Bench.monitor_prepared (bench : Bench region σ) : bench.prepared.monitor = bench.monitor :=
  rfl

@[simp]
theorem Bench.stops_prepared (bench : Bench region σ) : bench.prepared.stops = bench.stops := rfl

namespace Trial

variable {α β : Type}

@[simp]
theorem pure_apply (value : α) (bench : Bench region σ) :
    (pure value : Trial region σ α) bench = .ok value bench := rfl

@[simp]
theorem bind_apply (action : Trial region σ α) (next : α → Trial region σ β)
    (bench : Bench region σ) : (action >>= next) bench =
      match action bench with
      | .ok value bench => next value bench
      | .error halt bench => .error halt bench := by
  simp only [bind, EStateM.bind]
  cases action bench <;> rfl

@[simp]
theorem get_apply (bench : Bench region σ) : (get : Trial region σ _) bench = .ok bench bench := rfl

@[simp]
theorem modify_apply (change : Bench region σ → Bench region σ) (bench : Bench region σ) :
    (modify change : Trial region σ _) bench = .ok () (change bench) := rfl

@[simp]
theorem onMonitor_apply (action : Act region α) (bench : Bench region σ) :
    onMonitor action bench =
      match action bench.monitor with
      | .ok value monitor => .ok value { bench with monitor }
      | .error halt monitor => .error halt { bench with monitor } := rfl

@[simp]
theorem stop_apply (timer : Timer) (bench : Bench region σ) :
    stop timer bench = .ok (timer.reading bench.stops) { bench with stops := bench.stops + 1 } :=
  rfl

@[simp]
theorem print_apply (text : String) (bench : Bench region σ) :
    print text bench = .ok () { bench with output := bench.output ++ text } := rfl

@[simp]
theorem prepare_apply (bench : Bench region σ) :
    prepare bench = .ok () bench.prepared := rfl

/-- An action on the monitor while the timer runs. -/
theorem onMonitor_stop (action : Act region Unit) (timer : Timer) (bench : Bench region σ) :
    (do onMonitor action; stop timer : Trial region σ UInt32) bench =
      match action bench.monitor with
      | .ok _ monitor =>
        .ok (timer.reading bench.stops) { bench with monitor, stops := bench.stops + 1 }
      | .error halt monitor => .error halt { bench with monitor } := by
  rw [bind_apply, onMonitor_apply]
  cases action bench.monitor <;> rfl

end Trial

namespace Workload

/-- Gives the first granule of the region a role, if it has the expected one. -/
def exchange (expected next : Role) : Act region Unit := do
  match ← region.first.lockOnMatch expected with
  | some guard => guard.transition next
  | none => pure ()

/-- What an execution does to the monitor, by the role that the granule should have and the random
numbers that are left. -/
def task (generator : Generator σ) (role : Role) (dice : σ) : Workload → Act region Unit
  | .lockUnlock => do
    let guard ← region.first.lock .nonsecure
    guard.release
  | .lockTransition => exchange role role.next
  | .findLock => execute.tryOut (region.randomAddress (generator.next dice).1)
  | .findLockInvalid =>
    execute.tryOut (region.randomInvalidAddress (generator.next dice).1)
  | .atomicReferences => do
    region.first.gain
    region.first.drop
  | .lockedReferences => do
    let guard ← region.first.lock .nonsecure
    Act.holding [guard] do
      guard.raise 1
      guard.lower 1
    guard.release
  | .zeroing => do
    let guard ← region.first.lock .nonsecure
    Act.holding [guard] (guard.zero .delegated)
    guard.release
  | .lockSet size =>
    if size = 0 then Act.fail .emptySet
    else do
      match ← GranuleMonitor.lockSet (region.randomSet size generator.next dice).1 with
      | some guards => Guard.releaseAll guards.toList
      | none => pure ()

/-- The role that the granule should have after an execution. -/
def nextRole (role : Role) : Workload → Role
  | .lockTransition => role.next
  | .lockUnlock | .findLock | .findLockInvalid | .atomicReferences | .lockedReferences | .zeroing
  | .lockSet _ => role

theorem nextRole_of_ne {workload : Workload} (keeps : workload ≠ .lockTransition) (role : Role) :
    workload.nextRole role = role := by
  cases workload with
  | lockTransition => exact absurd rfl keeps
  | lockUnlock | findLock | findLockInvalid | atomicReferences | lockedReferences | zeroing
  | lockSet => rfl

/-- The random numbers that an execution leaves. -/
def nextDice (region : Region) (generator : Generator σ) (dice : σ) : Workload → σ
  | .findLock | .findLockInvalid => (generator.next dice).2
  | .lockSet size =>
    if size = 0 then dice else (region.randomSet size generator.next dice).2
  | .lockUnlock | .lockTransition | .atomicReferences | .lockedReferences | .zeroing => dice

/-- The lock that is taken for zeroing can be given back, since the granule is non-secure. -/
theorem execute_zeroing_apply (timer : Timer) (bench : Bench region σ) :
    execute timer .zeroing bench =
      match task bench.generator bench.role bench.dice .zeroing bench.monitor with
      | .ok _ monitor =>
        .ok (timer.reading bench.stops) { bench with monitor, stops := bench.stops + 1 }
      | .error halt monitor => .error halt { bench with monitor } := by
  simp only [execute, task, Trial.bind_apply, Trial.onMonitor_apply, Act.bind_apply,
    Target.lock_apply]
  cases attempt : (bench.monitor.store.get region.first).attempt .nonsecure with
  | held => rfl
  | mismatch actual => rfl
  | taken =>
    obtain ⟨-, nonsecure⟩ := Descriptor.attempt_eq_taken_iff.mp attempt
    simp only [Act.holding, Guard.zero_eq]
    cases Guard.zeroFault? ⟨region.first⟩ .delegated { bench.monitor with
        store := bench.monitor.store.set region.first
          (bench.monitor.store.get region.first).lock } with
    | some cause => rfl
    | none =>
      have inOrder : (bench.monitor.store.get region.first).lock.releaseFault? = none :=
        Descriptor.releaseFault?_of_nonsecure nonsecure
      simp only [Trial.stop_apply, Guard.release_apply, Store.get_set_self, inOrder]
      rfl

/-- An execution performs the task and stops the timer. If the task is broken off, the timer is not
stopped. -/
theorem execute_apply (timer : Timer) (workload : Workload) (bench : Bench region σ) :
    workload.execute timer bench =
      match workload.task bench.generator bench.role bench.dice bench.monitor with
      | .ok _ monitor =>
        .ok (timer.reading bench.stops) { bench with
          monitor, role := workload.nextRole bench.role,
          dice := workload.nextDice region bench.generator bench.dice, stops := bench.stops + 1 }
      | .error halt monitor =>
        .error halt { bench with
          monitor, dice := workload.nextDice region bench.generator bench.dice } := by
  cases workload with
  | lockUnlock | atomicReferences | lockedReferences => exact Trial.onMonitor_stop _ timer bench
  | findLock | findLockInvalid =>
    exact Trial.onMonitor_stop _ timer
      { bench with dice := (bench.generator.next bench.dice).2 }
  | lockTransition =>
    have executed : execute timer .lockTransition bench = _ :=
      Trial.bind_apply
        (Trial.onMonitor (task bench.generator bench.role bench.dice .lockTransition)) _ bench
    rw [executed, Trial.onMonitor_apply]
    cases task bench.generator bench.role bench.dice .lockTransition bench.monitor <;> rfl
  | zeroing => exact execute_zeroing_apply timer bench
  | lockSet size =>
    by_cases empty : size = 0
    · subst empty
      rfl
    · simp only [execute, task, nextDice, if_neg empty]
      exact Trial.onMonitor_stop _ timer
        { bench with dice := (region.randomSet size bench.generator.next bench.dice).2 }

/-- What is done to the monitor after the last execution. -/
def conclusion (role : Role) : Workload → Act region Unit
  | .lockTransition => exchange role .nonsecure
  | .lockUnlock | .findLock | .findLockInvalid | .atomicReferences | .lockedReferences | .zeroing
  | .lockSet _ => pure ()

/-- The end of a measurement concerns the monitor alone. -/
theorem conclude_apply (workload : Workload) (bench : Bench region σ) :
    workload.conclude bench = Trial.onMonitor (workload.conclusion bench.role) bench := by
  cases workload with
  | lockTransition =>
    simp only [conclude, Trial.bind_apply, Trial.get_apply]
    rfl
  | lockUnlock | findLock | findLockInvalid | atomicReferences | lockedReferences | zeroing
  | lockSet => rfl

end Workload

end GranuleMonitor
