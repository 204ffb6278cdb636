import GranuleMonitor.Proofs.Frame
import GranuleMonitor.Proofs.Locking.Acquisition

/-!
# What an operation may do to a custody

`Custody.Effect` lists what can come of an operation, with everything that decides it, and
`Custody.step_effect` says that nothing else happens. What holds of all custodies that come about
is proved from this list, without a look at the operations themselves.
-/

namespace GranuleMonitor

variable {region : Region}

/-- How an operation without guards ends that has found a fault, or none. -/
def Outcome.ofFault? : Option Fault → Outcome region
  | some cause => .halted (.fault cause)
  | none => .replied .done

namespace Custody

/-- What an operation may do to a custody, and how it then ends. -/
inductive Effect (before : Custody region) :
    Operation region → Outcome region → Custody region → Prop where
  /-- The descriptors and the guards stay as they are. -/
  | kept {operation outcome monitor} (store : monitor.store = before.monitor.store) :
      Effect before operation outcome ⟨monitor, before.live⟩
  /-- Free locks are taken. -/
  | granted {call acquired monitor} (nodup : acquired.toList.Nodup)
      (free : ∀ guard ∈ acquired.toList, (before.monitor.store.get guard.target).locked = false)
      (store : monitor.store = before.monitor.store.adjust .lock acquired.toList) :
      Effect before (.acquire call) (.acquired acquired)
        ⟨monitor, before.live ++ acquired.toList⟩
  /-- A live guard is used. -/
  | used {guard call outcome monitor} (mine : guard ∈ before.live)
      (store : monitor.store = before.monitor.store.afterUse guard call) :
      Effect before (.useGuard guard call) outcome ⟨monitor, before.live⟩
  /-- A live guard is given back, with or without a fault. -/
  | released {guard next? monitor} (mine : guard ∈ before.live)
      (store : monitor.store = before.monitor.store.set guard.target
        ((before.monitor.store.get guard.target).become next?).unlock) :
      Effect before (.release guard next?)
        (.ofFault? ((before.monitor.store.get guard.target).become next?).releaseFault?)
        ⟨monitor, before.live.erase guard⟩
  /-- A live guard is lost. -/
  | abandoned {guard monitor} (mine : guard ∈ before.live)
      (store : monitor.store = before.monitor.store.set guard.target
        (before.monitor.store.get guard.target).unlock) :
      Effect before (.abandon guard) (.replied .done) ⟨monitor, before.live.erase guard⟩
  /-- A reference is counted without the lock. -/
  | counted {call place target outcome monitor} (leads : place.target region = .ok target)
      (store : monitor.store = before.monitor.store.afterCount target call) :
      Effect before (.count call place) outcome ⟨monitor, before.live⟩

variable {custody : Custody region} {operation : Operation region}

/-- A run begins with its first operation and goes on with the others. -/
theorem play_cons (custody : Custody region) (first : Operation region)
    (rest : List (Operation region)) :
    custody.play (first :: rest) =
      (⟨first, (custody.step first).1⟩ :: ((custody.step first).2.play rest).1,
        ((custody.step first).2.play rest).2) := rfl

/-- An operation with a guard that is not alive does nothing. -/
theorem step_of_dead (dead : ¬ operation.guard?.all custody.live.contains) :
    custody.step operation = (.noGuard, custody) := by
  rw [step, if_neg dead]

section Replies

variable {α : Type} {action : Act region α} {reply : α → Reply region}
  {change : Store region → Store region}

/-- An operation whose action gives a value replies with it. -/
theorem step_of_ok (reply : α → Reply region) {value : α} {last : Monitor region}
    (ended : action custody.monitor = .ok value last)
    (alive : operation.guard?.all custody.live.contains)
    (performs : operation.perform = action >>= fun value => pure (.replied (reply value))) :
    custody.step operation =
      (.replied (reply value), ⟨last, operation.remaining custody.live⟩) := by
  unfold step
  rw [if_pos alive, performs, Act.bind_apply, ended]
  simp [Outcome.guards]

/-- An operation whose action faults ends with that fault. -/
theorem step_of_fault (reply : α → Reply region) {cause : Fault} {last : Monitor region}
    (ended : action custody.monitor = .error (.fault cause) last)
    (alive : operation.guard?.all custody.live.contains)
    (performs : operation.perform = action >>= fun value => pure (.replied (reply value))) :
    custody.step operation =
      (.halted (.fault cause), ⟨last, operation.remaining custody.live⟩) := by
  unfold step
  rw [if_pos alive, performs, Act.bind_apply, ended]

/-- An operation that gives no guards and waits for nothing leaves behind what its action does. -/
theorem step_of_turns (turns : action.Turns change)
    (alive : operation.guard?.all custody.live.contains)
    (performs : operation.perform = action >>= fun value => pure (.replied (reply value))) :
    ∃ outcome, custody.step operation =
      (outcome, ⟨action.after custody.monitor, operation.remaining custody.live⟩) := by
  unfold Act.after
  cases ended : action custody.monitor with
  | ok value last => exact ⟨_, step_of_ok reply ended alive performs⟩
  | error halt last =>
    cases halt with
    | fault cause => exact ⟨_, step_of_fault reply ended alive performs⟩
    | waiting target => exact absurd ended turns.not_waiting

/-- An operation that needs no guard and has nothing to do with locks has no effect on the store. -/
theorem effect_of_lockless (lockless : action.Lockless) (guardless : operation.guard? = none)
    (remains : operation.remaining custody.live = custody.live)
    (performs : operation.perform = action >>= fun value => pure (.replied (reply value))) :
    Effect custody operation (custody.step operation).1 (custody.step operation).2 := by
  have alive : operation.guard?.all custody.live.contains := by
    rw [guardless]
    rfl
  obtain ⟨outcome, ended⟩ := step_of_turns lockless alive performs
  rw [ended, remains]
  exact .kept lockless.store_after

end Replies

/-- A live guard that is given back is gone afterwards, and its lock is free. -/
theorem step_release {guard : Guard region} (mine : guard ∈ custody.live) (next? : Option Role) :
    custody.step (.release guard next?) =
      (.ofFault? ((custody.monitor.store.get guard.target).become next?).releaseFault?,
        ⟨{ custody.monitor with
          store := custody.monitor.store.set guard.target
            ((custody.monitor.store.get guard.target).become next?).unlock },
          custody.live.erase guard⟩) := by
  rw [step, if_pos (by simpa [Operation.guard?] using mine)]
  simp only [Operation.perform, Act.bind_apply, Session.releaseGuard_apply, Act.failIf_apply]
  cases ((custody.monitor.store.get guard.target).become next?).releaseFault? with
  | none => simp [Outcome.ofFault?, Outcome.guards, Operation.remaining, Operation.returned?]
  | some cause => rfl

/-- A live guard that is lost is gone afterwards, and its lock is free. -/
theorem step_abandon {guard : Guard region} (mine : guard ∈ custody.live) :
    custody.step (.abandon guard) =
      (.replied .done,
        ⟨{ custody.monitor with
          store := custody.monitor.store.set guard.target
            (custody.monitor.store.get guard.target).unlock },
          custody.live.erase guard⟩) := by
  rw [step, if_pos (by simpa [Operation.guard?] using mine)]
  simp [Operation.perform, Guard.abandon_apply, Outcome.guards, Operation.remaining,
    Operation.returned?]

/-- A locking operation takes free locks, or it has no effect. -/
theorem step_acquire (custody : Custody region) (call : Acquisition) :
    Effect custody (.acquire call) (custody.step (.acquire call)).1
      (custody.step (.acquire call)).2 := by
  have seizes := call.seizes custody.monitor
  simp only [step, Operation.guard?, Option.all_none, if_true, Operation.perform, Act.bind_apply]
  cases ended : call.perform custody.monitor with
  | ok acquired last =>
    obtain ⟨nodup, free, store⟩ := seizes.granted ended
    exact .granted nodup (fun guard member => (free guard member).1) store
  | error halt last =>
    cases halt with
    | fault cause => exact .kept (seizes.faulted ended).1
    | waiting target => exact .kept rfl

/-- Nothing else comes of an operation. -/
theorem step_effect (custody : Custody region) (operation : Operation region) :
    Effect custody operation (custody.step operation).1 (custody.step operation).2 := by
  by_cases alive : operation.guard?.all custody.live.contains
  case neg =>
    rw [step_of_dead alive]
    exact .kept rfl
  cases operation with
  | acquire call => exact step_acquire custody call
  | useGuard guard call =>
    have mine : guard ∈ custody.live := by simpa [Operation.guard?] using alive
    obtain ⟨outcome, ended⟩ := step_of_turns (call.turns_perform guard) alive rfl
    rw [ended]
    exact .used mine (call.turns_perform guard).store_after
  | release guard next? =>
    have mine : guard ∈ custody.live := by simpa [Operation.guard?] using alive
    rw [step_release mine]
    exact .released mine rfl
  | abandon guard =>
    have mine : guard ∈ custody.live := by simpa [Operation.guard?] using alive
    rw [step_abandon mine]
    exact .abandoned mine rfl
  | count call place =>
    cases leads : place.target region with
    | error cause => exact effect_of_lockless (call.lockless_perform leads) rfl rfl rfl
    | ok target =>
      obtain ⟨outcome, ended⟩ := step_of_turns (call.turns_perform leads) alive rfl
      rw [ended]
      exact .counted leads (call.turns_perform leads).store_after
  | references place => exact effect_of_lockless place.lockless_references rfl rfl rfl
  | fill addr value => exact effect_of_lockless (Act.lockless_fill addr value) rfl rfl rfl
  | isZeroed addr => exact effect_of_lockless (Act.lockless_isZeroed addr) rfl rfl rfl
  | read addr buffer => exact effect_of_lockless (Act.lockless_readInto addr buffer) rfl rfl rfl
  | selectCpu cpu => exact effect_of_lockless (Act.lockless_selectCpu cpu) rfl rfl rfl
  | mapWindow slot addr => exact effect_of_lockless (Act.lockless_mapWindow addr slot) rfl rfl rfl
  | unmapWindow slot window =>
    exact effect_of_lockless (Act.lockless_unmapWindow window slot) rfl rfl rfl

end Custody

end GranuleMonitor
