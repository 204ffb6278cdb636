import GranuleMonitor.Proofs.Benchmark.Execution
import GranuleMonitor.Proofs.Benchmark.Selection
import GranuleMonitor.Proofs.Frame
import GranuleMonitor.Proofs.Locking.Expectation

/-!
# What tasks do to a table that nobody has locked

Every task but that of `Workload.lockTransition` gives back whatever it takes, so that the table is
as before when it ends. Most tasks need the granule to be non-secure, and stop otherwise. The task
of `Workload.lockTransition` takes the granule from the role that it should have to the next one.
-/

namespace GranuleMonitor

variable {region : Region} {σ : Type} {monitor : Monitor region}

namespace Workload

variable (generator : Generator σ) (role : Role) (dice : σ)

section First

/-- What is between taking the lock of a free granule and giving it back. -/
theorem lock_bind_apply {work : Guard region → Act region Unit}
    (free : (monitor.store.get region.first).locked = false) :
    (region.first.lock .nonsecure >>= work) monitor =
      if (monitor.store.get region.first).role = .nonsecure then
        work ⟨region.first⟩ { monitor with
          store := monitor.store.set region.first (monitor.store.get region.first).lock }
      else
        .error (.fault (.roleMismatch (monitor.store.get region.first).role .nonsecure))
          monitor := by
  rw [Act.bind_apply, Target.lock_apply, Descriptor.attempt_of_free free]
  by_cases nonsecure : (monitor.store.get region.first).role = .nonsecure
  · rw [if_pos nonsecure, if_pos nonsecure]
  · rw [if_neg nonsecure, if_neg nonsecure]

variable (free : (monitor.store.get region.first).locked = false)
include free

theorem task_lockUnlock_apply :
    lockUnlock.task generator role dice monitor =
      if (monitor.store.get region.first).role = .nonsecure then .ok () monitor
      else
        .error (.fault (.roleMismatch (monitor.store.get region.first).role .nonsecure))
          monitor := by
  rw [task, lock_bind_apply free]
  split
  next nonsecure =>
    exact Guard.release_apply_lock ⟨region.first⟩ free
      (Descriptor.releaseFault?_of_nonsecure nonsecure)
  next => rfl

theorem task_zeroing_apply :
    zeroing.task generator role dice monitor =
      if (monitor.store.get region.first).role = .nonsecure then
        match Guard.zeroFault? ⟨region.first⟩ .delegated monitor with
        | some cause => .error (.fault cause) monitor
        | none =>
          .ok () { monitor with
            memory := Guard.scrubbed ⟨region.first⟩ monitor.memory }
      else
        .error (.fault (.roleMismatch (monitor.store.get region.first).role .nonsecure))
          monitor := by
  rw [task, lock_bind_apply free]
  split
  next nonsecure =>
    have same : Guard.zeroFault? ⟨region.first⟩ .delegated { monitor with
        store := monitor.store.set region.first (monitor.store.get region.first).lock } =
      Guard.zeroFault? ⟨region.first⟩ .delegated monitor := rfl
    simp only [Act.bind_apply, Act.holding, Guard.zero_eq, same]
    cases Guard.zeroFault? ⟨region.first⟩ .delegated monitor with
    | some cause =>
      simp only [Guard.forM_abandon_apply_lock ⟨region.first⟩ free]
    | none =>
      have inOrder : (monitor.store.get region.first).lock.releaseFault? = none :=
        Descriptor.releaseFault?_of_nonsecure nonsecure
      simp only [Guard.release_apply, Store.get_set_self, inOrder, Store.set_set,
        Descriptor.unlock_lock free, Store.set_get_self]
      rfl
  next => rfl

theorem task_lockedReferences_apply :
    lockedReferences.task generator role dice monitor =
      if (monitor.store.get region.first).role = .nonsecure then
        match (monitor.store.get region.first).raise 1 with
        | .ok _ => .ok () monitor
        | .error cause => .error (.fault cause) monitor
      else
        .error (.fault (.roleMismatch (monitor.store.get region.first).role .nonsecure))
          monitor := by
  rw [task, lock_bind_apply free]
  split
  next nonsecure =>
    simp only [Act.bind_apply, Act.holding, Guard.raise_apply, Store.get_set_self,
      Descriptor.raise_lock]
    cases raised : (monitor.store.get region.first).raise 1 with
    | error cause =>
      simp only [Except.map, Guard.forM_abandon_apply_lock ⟨region.first⟩ free]
    | ok more =>
      have released := Guard.release_apply_lock ⟨region.first⟩ free
        (Descriptor.releaseFault?_of_nonsecure nonsecure)
      simp only [Except.map, Guard.lower_apply, Store.get_set_self,
        Descriptor.lower_lock, Descriptor.lower_of_raise raised, Store.set_set]
      exact released
  next => rfl

/-- The first granule is taken from one role to another if it has the first one. The change is there
also if the lock could not be given back in order. -/
theorem exchange_apply (expected next : Role) :
    exchange expected next monitor =
      if (monitor.store.get region.first).role = expected then
        Act.failIf { monitor.store.get region.first with role := next }.releaseFault?
          { monitor with
            store := monitor.store.set region.first
              { monitor.store.get region.first with role := next } }
      else
        .ok () { monitor with
          log := monitor.log.push
            (.roleMismatch (monitor.store.get region.first).role expected) } := by
  rw [exchange, Act.bind_apply, Target.lockOnMatch_apply, Descriptor.attempt_of_free free]
  by_cases same : (monitor.store.get region.first).role = expected
  · rw [if_pos same, if_pos same]
    simp only [Guard.transition, Guard.setRole, Act.bind_apply, Act.read_apply, Act.write_apply,
      Guard.release_apply, Store.get_set_self, Store.set_set]
    simp only [Descriptor.lock, Descriptor.unlock, free]
    rfl
  · rw [if_neg same, if_neg same]
    rfl

end First

/-- Counting a reference and giving it back leaves nothing behind, whoever has the lock. -/
theorem task_atomicReferences_apply (monitor : Monitor region) :
    atomicReferences.task generator role dice monitor =
      Act.failIf (monitor.store.get region.first).gain.dropFault? monitor := by
  simp only [task, Act.bind_apply, Target.gain_apply, Target.drop_apply, Store.get_set_self,
    Descriptor.drop_gain, Store.set_set, Store.set_get_self]

section TryOut

variable {addr : Address}

theorem tryOut_of_unknown (unknown : region.index? addr = none) (monitor : Monitor region) :
    execute.tryOut addr monitor =
      .ok () { monitor with log := monitor.log.push (.unknownAddress addr) } := by
  rw [execute.tryOut, Act.bind_apply, lockAt_of_nowhere (target_of_unknown unknown)]
  rfl

theorem tryOut_address {index : Fin region.size}
    (free : (monitor.store.get (.entry index)).locked = false) :
    execute.tryOut (region.address index) monitor =
      if (monitor.store.get (.entry index)).role = .nonsecure then .ok () monitor
      else
        .ok () { monitor with
          log := monitor.log.push
            (.roleMismatch (monitor.store.get (.entry index)).role .nonsecure) } := by
  rw [execute.tryOut, Act.bind_apply, lockAt_apply (region.target_address index),
    Descriptor.attempt_of_free free]
  by_cases nonsecure : (monitor.store.get (.entry index)).role = .nonsecure
  · rw [if_pos nonsecure, if_pos nonsecure]
    exact Guard.release_apply_lock ⟨.entry index⟩ free
      (Descriptor.releaseFault?_of_nonsecure nonsecure)
  · rw [if_neg nonsecure, if_neg nonsecure]
    rfl

end TryOut

section LockSet

variable {size : Nat} {granule : Fin size → Fin region.size}

/-- Granules that are drawn, free and in the role asked for are locked and given back without a
trace. -/
theorem task_lockSet_of_match (positive : 0 < size)
    (roles : ∀ position,
      ((region.randomSet size generator.next dice).1.get position).role = .nonsecure)
    (leads : Leads (region.randomSet size generator.next dice).1 granule)
    (free : ∀ position, (requested monitor granule position).locked = false)
    (matching : ∀ position,
      ¬ Mismatches monitor (region.randomSet size generator.next dice).1 granule position) :
    (lockSet size).task generator role dice monitor = .ok () monitor := by
  have obtainable (position : Fin size) :=
    (obtainable_claimsOn_iff (free position)).mpr (matching position)
  have nonsecure (position : Fin size) : (requested monitor granule position).role = .nonsecure :=
    (Classical.not_not.mp (matching position)).trans (roles position)
  have entries : ∀ guard ∈ ((claimsOn (region.randomSet size generator.next dice).1
      granule).map Claim.guard).toList, ∃ position, guard = ⟨.entry (granule position)⟩ := by
    intro guard member
    rw [vectorToList_eq_map, List.mem_map] at member
    obtain ⟨position, -, rfl⟩ := member
    exact ⟨position, by simp [vectorGet_eq, claimsOn, Claim.guard, Claim.target]⟩
  rw [task, if_neg positive.ne', Act.bind_apply, leads.lockSet_eq,
    lockClaims_of_obtainable leads.distinct obtainable]
  dsimp only
  rw [Guard.releaseAll_apply, Store.adjust_unlock_adjust_lock ?_ fun _ => Iff.rfl,
    List.findSome?_eq_none_iff.mpr ?_]
  · rfl
  · intro guard member
    obtain ⟨position, rfl⟩ := entries guard member
    rw [Store.releaseFault?_get_adjust_lock]
    exact Descriptor.releaseFault?_of_nonsecure (nonsecure position)
  · intro guard member
    obtain ⟨position, rfl⟩ := entries guard member
    exact free position

/-- A set of free non-secure granules is locked and given back without a trace. -/
theorem task_lockSet_apply (positive : 0 < size) (enough : size ≤ region.size)
    (free : ∀ index, (monitor.store.get (.entry index)).locked = false)
    (nonsecure : ∀ index, (monitor.store.get (.entry index)).role = .nonsecure) :
    (lockSet size).task generator role dice monitor = .ok () monitor := by
  obtain ⟨roles, granule, leads⟩ :=
    Region.leads_randomSet generator.next dice positive enough
  refine task_lockSet_of_match generator role dice positive roles leads (fun _ => free _)
    fun position => ?_
  rw [Mismatches, roles, Classical.not_not]
  exact nonsecure _

end LockSet

end Workload

end GranuleMonitor
