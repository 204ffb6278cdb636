import GranuleMonitor.Proofs.Benchmark.Task

/-!
# Tasks on a new table

On a `Monitor.Idle` table every task of a proper workload ends in order and leaves the table idle:
`Workload.task_of_idle`. Only the role of the first granule moves on, in step with the role that
`Workload.lockTransition` expects, and `Workload.conclusion_of_idle` brings it back. A task leaves
records only if it is that of `Workload.findLockInvalid`.
-/

namespace GranuleMonitor

variable {region : Region} {σ : Type} {monitor : Monitor region} {role : Role}

/-- The table is as it was created, except for the role of the first granule, and the slot that
zeroing uses is empty. -/
structure Monitor.Idle (monitor : Monitor region) (role : Role) : Prop where
  store : monitor.store = (Store.fresh region).set region.first ⟨role, 0, false⟩
  slot : monitor.windows.occupant? monitor.cpu .delegated = none

/-- In a new store the first granule is non-secure already. -/
theorem Store.set_first_fresh :
    (fresh region).set region.first ⟨.nonsecure, 0, false⟩ = fresh region := by
  have same : (⟨.nonsecure, 0, false⟩ : Descriptor) = (fresh region).get region.first :=
    (get_fresh region.first).symm
  rw [same, set_get_self]

namespace Monitor.Idle

theorem get_first (idle : monitor.Idle role) :
    monitor.store.get region.first = ⟨role, 0, false⟩ := by
  rw [idle.store, Store.get_set_self]

/-- If the first granule is non-secure, the table is new. -/
theorem store_eq_fresh (idle : monitor.Idle .nonsecure) : monitor.store = .fresh region :=
  idle.store.trans Store.set_first_fresh

/-- A new table is idle. -/
theorem of_fresh (fresh : monitor.store = .fresh region)
    (slot : monitor.windows.occupant? monitor.cpu .delegated = none) :
    monitor.Idle .nonsecure :=
  ⟨fresh.trans Store.set_first_fresh.symm, slot⟩

theorem get_eq_fresh (idle : monitor.Idle .nonsecure) (target : Target region) :
    monitor.store.get target = .fresh := by
  rw [idle.store_eq_fresh, Store.get_fresh]

theorem unlocked (idle : monitor.Idle .nonsecure) (target : Target region) :
    (monitor.store.get target).locked = false := by
  rw [idle.get_eq_fresh]
  rfl

theorem nonsecure (idle : monitor.Idle .nonsecure) (target : Target region) :
    (monitor.store.get target).role = .nonsecure := by
  rw [idle.get_eq_fresh]
  rfl

end Monitor.Idle

namespace Workload

/-- A workload that a region has enough granules for. -/
def Proper (region : Region) : Workload → Prop
  | .lockSet size => 0 < size ∧ size ≤ region.size
  | .lockUnlock | .lockTransition | .findLock | .findLockInvalid | .atomicReferences
  | .lockedReferences | .zeroing => True

/-- The records that an execution leaves. -/
def notices (region : Region) (generator : Generator σ) (dice : σ) : Workload → List Notice
  | .findLockInvalid => [.unknownAddress (region.randomInvalidAddress (generator.next dice).1)]
  | .lockUnlock | .lockTransition | .findLock | .atomicReferences | .lockedReferences | .zeroing
  | .lockSet _ => []

/-- On an idle table the first granule goes from its role to any other. -/
theorem exchange_of_idle (idle : monitor.Idle role) (next : Role) :
    exchange role next monitor = .ok () { monitor with
      store := (Store.fresh region).set region.first ⟨next, 0, false⟩ } := by
  have free : (monitor.store.get region.first).locked = false := by rw [idle.get_first]
  have inOrder : (⟨next, 0, false⟩ : Descriptor).releaseFault? = none :=
    Descriptor.releaseFault?_eq_none_iff.mpr fun _ => rfl
  rw [exchange_apply free, idle.get_first, if_pos rfl, idle.store, Store.set_set, inOrder]
  rfl

theorem zeroFault?_of_idle (idle : monitor.Idle role) (positive : 0 < region.base.toNat) :
    Guard.zeroFault? ⟨region.first⟩ .delegated monitor = none := by
  have mappable : region.base ≠ 0 := by
    rw [← UInt64.toNat_inj.ne, UInt64.toNat_zero]
    exact positive.ne'
  simp [Guard.zeroFault?, Region.first, Target.address, region.address_first, mappable, idle.slot]

/-- On an idle table every proper task ends in order, and the table is idle again. -/
theorem task_of_idle (workload : Workload) (proper : workload.Proper region)
    (positive : 0 < region.base.toNat) (matched : workload = .lockTransition ∨ role = .nonsecure)
    (idle : monitor.Idle role) (generator : Generator σ) (dice : σ) :
    ∃ last, workload.task generator role dice monitor = .ok () last ∧
      last.Idle (workload.nextRole role) ∧
      last.log.toList = monitor.log.toList ++ workload.notices region generator dice := by
  by_cases moves : workload = .lockTransition
  · subst moves
    exact ⟨_, exchange_of_idle idle role.next, ⟨rfl, idle.slot⟩, (List.append_nil _).symm⟩
  obtain rfl := matched.resolve_left moves
  have free := idle.unlocked region.first
  have nonsecure := idle.nonsecure region.first
  cases workload with
  | lockTransition => exact absurd rfl moves
  | lockUnlock =>
    have ended := task_lockUnlock_apply generator .nonsecure dice free
    rw [if_pos nonsecure] at ended
    exact ⟨monitor, ended, idle, (List.append_nil _).symm⟩
  | findLock =>
    obtain ⟨index, -, -, found⟩ := region.randomAddress_eq (generator.next dice).1
    have ended := tryOut_address (idle.unlocked (.entry index))
    rw [if_pos (idle.nonsecure (.entry index)), ← found] at ended
    exact ⟨monitor, ended, idle, (List.append_nil _).symm⟩
  | findLockInvalid =>
    have unknown := region.index?_randomInvalidAddress (generator.next dice).1
    have ended := tryOut_of_unknown unknown monitor
    exact ⟨_, ended, ⟨idle.store, idle.slot⟩, Array.toList_push⟩
  | atomicReferences =>
    have ended := task_atomicReferences_apply generator .nonsecure dice monitor
    rw [idle.get_first] at ended
    exact ⟨monitor, ended, idle, (List.append_nil _).symm⟩
  | lockedReferences =>
    have ended := task_lockedReferences_apply generator .nonsecure dice free
    rw [if_pos nonsecure, idle.get_first] at ended
    exact ⟨monitor, ended, idle, (List.append_nil _).symm⟩
  | zeroing =>
    have ended := task_zeroing_apply generator .nonsecure dice free
    rw [if_pos nonsecure, zeroFault?_of_idle idle positive] at ended
    exact ⟨_, ended, ⟨idle.store, idle.slot⟩, (List.append_nil _).symm⟩
  | lockSet size =>
    have ended := task_lockSet_apply generator .nonsecure dice proper.1 proper.2
      (fun index => idle.unlocked (.entry index)) fun index => idle.nonsecure (.entry index)
    exact ⟨monitor, ended, idle, (List.append_nil _).symm⟩

/-- After the last execution an idle table becomes a new one. -/
theorem conclusion_of_idle (workload : Workload)
    (matched : workload = .lockTransition ∨ role = .nonsecure) (idle : monitor.Idle role) :
    ∃ last, workload.conclusion role monitor = .ok () last ∧ last.Idle .nonsecure ∧
      last.log = monitor.log := by
  by_cases moves : workload = .lockTransition
  · subst moves
    exact ⟨_, exchange_of_idle idle .nonsecure, ⟨rfl, idle.slot⟩, rfl⟩
  obtain rfl := matched.resolve_left moves
  cases workload with
  | lockTransition => exact absurd rfl moves
  | lockUnlock | findLock | findLockInvalid | atomicReferences | lockedReferences | zeroing
  | lockSet => exact ⟨monitor, rfl, idle, rfl⟩

end Workload

end GranuleMonitor
