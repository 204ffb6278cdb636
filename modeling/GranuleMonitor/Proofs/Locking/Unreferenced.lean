import GranuleMonitor.Proofs.Custody.Soundness
import GranuleMonitor.Proofs.Locking.Expectation

/-!
# Asking for a granule that nobody refers to

A caller who asks for the granule at an address, in a role and without references, is told that
address or role are wrong, or that the granule is in use, or is given the guard. Which of these it
is depends on the one granule that is looked at, and `Monitor.Settles` lists the conditions. To see
whether the granule has references its lock is taken, and giving the lock back is subject to the
usual check. So there is one case in which the caller is told nothing: a delegated granule that is
in use ends the operation with a fault.
-/

namespace GranuleMonitor

variable {region : Region}

/-- The address leads to a granule that has the role. -/
structure Monitor.Finds (monitor : Monitor region) (addr : Address) (role : Role)
    (index : Fin region.size) : Prop where
  known : region.index? addr = some index
  role : (monitor.store.get (.entry index)).role = role

/-- The address leads to no granule, or to one in another role. -/
def Monitor.Misses (monitor : Monitor region) (addr : Address) (role : Role) : Prop :=
  region.index? addr = none ∨
    ∃ index, region.index? addr = some index ∧ (monitor.store.get (.entry index)).role ≠ role

/-- The granule at the address, if there is one, is unlocked. -/
def Monitor.Free (monitor : Monitor region) (addr : Address) : Prop :=
  ∀ index, region.index? addr = some index → (monitor.store.get (.entry index)).locked = false

section Lookup

variable {monitor : Monitor region} {addr : Address} {role : Role} {index : Fin region.size}

/-- An address leads to one granule at most. -/
theorem Monitor.Finds.exists_iff (finds : monitor.Finds addr role index)
    {property : Fin region.size → Prop} :
    (∃ other, monitor.Finds addr role other ∧ property other) ↔ property index := by
  constructor
  · rintro ⟨other, otherFinds, holds⟩
    obtain rfl : other = index := Option.some.inj (otherFinds.known.symm.trans finds.known)
    exact holds
  · exact fun holds => ⟨index, finds, holds⟩

/-- A granule is missed exactly if it is not found. -/
theorem Monitor.misses_iff :
    monitor.Misses addr role ↔ ∀ index, ¬ monitor.Finds addr role index := by
  constructor
  · rintro (unknown | ⟨index, known, differs⟩) other finds
    · rw [finds.known] at unknown
      contradiction
    · obtain rfl : other = index := Option.some.inj (finds.known.symm.trans known)
      exact differs finds.role
  · intro nothing
    cases known : region.index? addr with
    | none => exact .inl known
    | some index => exact .inr ⟨index, known, fun same => nothing index ⟨known, same⟩⟩

theorem Monitor.Finds.not_misses (finds : monitor.Finds addr role index) :
    ¬ monitor.Misses addr role :=
  fun misses => Monitor.misses_iff.mp misses index finds

/-- A request that misses is turned down after a record. -/
theorem lockUnreferenced_of_misses (free : monitor.Free addr) (misses : monitor.Misses addr role) :
    ∃ notice, lockUnreferenced addr role monitor =
      .ok (.error .input) { monitor with log := monitor.log.push notice } := by
  rcases misses with unknown | ⟨index, known, differs⟩
  · refine ⟨.unknownAddress addr, ?_⟩
    rw [lockUnreferenced, Act.bind_apply, lockAt_of_nowhere (target_of_unknown unknown)]
    rfl
  · refine ⟨.roleMismatch (monitor.store.get (.entry index)).role role, ?_⟩
    rw [lockUnreferenced_apply (target_of_known known),
      Descriptor.attempt_of_free (free index known), if_neg differs]

/-- A granule that is found is locked if it has no references. Otherwise its lock is given back, and
the caller is told so unless the granule is delegated. -/
theorem lockUnreferenced_of_finds (free : monitor.Free addr)
    (finds : monitor.Finds addr role index) :
    lockUnreferenced addr role monitor =
      if (monitor.store.get (.entry index)).references = 0 then
        .ok (.ok ⟨.entry index⟩) { monitor with
          store := monitor.store.set (.entry index) (monitor.store.get (.entry index)).lock }
      else
        let last := { monitor with
          log := monitor.log.push
            (.stillReferenced addr (monitor.store.get (.entry index)).references) }
        if role = .delegated then
          .error (.fault (.delegatedInUse (monitor.store.get (.entry index)).references)) last
        else .ok (.error .inUse) last := by
  rw [lockUnreferenced_apply (target_of_known finds.known),
    Descriptor.attempt_of_free (free index finds.known), if_pos finds.role]
  by_cases unreferenced : (monitor.store.get (.entry index)).references = 0
  · simp only [if_pos unreferenced]
  · by_cases delegated : role = .delegated <;>
      simp [unreferenced, delegated, Descriptor.releaseFault?, finds.role]

end Lookup

/-- What becomes of a request for the unreferenced granule at an address. -/
structure Monitor.Settles (monitor : Monitor region) (addr : Address) (role : Role) : Prop where
  /-- The caller is told that the input is wrong if that is so, -/
  input_iff : (lockUnreferenced addr role).result monitor = .ok (.error .input) ↔
    monitor.Misses addr role
  /-- or that the granule is in use, unless it is delegated, -/
  inUse_iff : (lockUnreferenced addr role).result monitor = .ok (.error .inUse) ↔
    ∃ index, monitor.Finds addr role index ∧
      (monitor.store.get (.entry index)).references ≠ 0 ∧ role ≠ .delegated
  /-- or is given the guard. -/
  granted_iff : ∀ guard, (lockUnreferenced addr role).result monitor = .ok (.ok guard) ↔
    ∃ index, monitor.Finds addr role index ∧
      (monitor.store.get (.entry index)).references = 0 ∧ guard = ⟨.entry index⟩
  /-- A delegated granule that is in use is a fault, and nothing else is. -/
  halted_iff : ∀ halt, (lockUnreferenced addr role).result monitor = .error halt ↔
    ∃ index, monitor.Finds addr role index ∧
      (monitor.store.get (.entry index)).references ≠ 0 ∧ role = .delegated ∧
      halt = .fault (.delegatedInUse (monitor.store.get (.entry index)).references)
  /-- Without a guard all descriptors are as before, -/
  unchanged : (∀ guard, (lockUnreferenced addr role).result monitor ≠ .ok (.ok guard)) →
    ∀ target, ((lockUnreferenced addr role).after monitor).store.get target =
      monitor.store.get target
  /-- and with a guard only the lock of its granule is not. -/
  locked : ∀ guard, (lockUnreferenced addr role).result monitor = .ok (.ok guard) →
    ((lockUnreferenced addr role).after monitor).store.get guard.target =
        (monitor.store.get guard.target).lock ∧
      ∀ target, target ≠ guard.target →
        ((lockUnreferenced addr role).after monitor).store.get target = monitor.store.get target

section Cases

variable {monitor : Monitor region} {addr : Address} {role : Role} {index : Fin region.size}
  (free : monitor.Free addr)
include free

theorem settles_of_misses (misses : monitor.Misses addr role) : monitor.Settles addr role := by
  obtain ⟨notice, ended⟩ := lockUnreferenced_of_misses free misses
  have result : (lockUnreferenced addr role).result monitor = .ok (.error .input) := by
    rw [Act.result, ended]
  have nothing := Monitor.misses_iff.mp misses
  exact {
    input_iff := iff_of_true result misses
    inUse_iff := by simp [result, nothing]
    granted_iff := by simp [result, nothing]
    halted_iff := by simp [result, nothing]
    unchanged := fun _ target => by rw [Act.after, ended]
    locked := by simp [result] }

theorem settles_of_unreferenced (finds : monitor.Finds addr role index)
    (unreferenced : (monitor.store.get (.entry index)).references = 0) :
    monitor.Settles addr role := by
  have ended := lockUnreferenced_of_finds free finds
  rw [if_pos unreferenced] at ended
  have result : (lockUnreferenced addr role).result monitor = .ok (.ok ⟨.entry index⟩) := by
    rw [Act.result, ended]
  exact {
    input_iff := by simp [result, finds.not_misses]
    inUse_iff := by simp [result, finds.exists_iff, unreferenced]
    granted_iff := by simp [result, finds.exists_iff, unreferenced, eq_comm]
    halted_iff := by simp [result, finds.exists_iff, unreferenced]
    unchanged := fun refused => absurd result (refused _)
    locked := by
      intro guard granted
      obtain rfl : ⟨.entry index⟩ = guard := by simpa [result] using granted
      simp only [Act.after, ended]
      exact ⟨Store.get_set_self _ _ _, fun target other => Store.get_set_ne _ _ other⟩ }

/-- Whether the caller is told that the granule is in use or not, its lock is given back. -/
theorem settles_of_referenced (finds : monitor.Finds addr role index)
    (referenced : (monitor.store.get (.entry index)).references ≠ 0) :
    monitor.Settles addr role := by
  have ended := lockUnreferenced_of_finds free finds
  rw [if_neg referenced] at ended
  by_cases delegated : role = .delegated
  · subst delegated
    have result : (lockUnreferenced addr .delegated).result monitor =
        .error (.fault (.delegatedInUse (monitor.store.get (.entry index)).references)) := by
      simp only [Act.result, ended, if_true]
    exact {
      input_iff := by simp [result, finds.not_misses]
      inUse_iff := by simp [result]
      granted_iff := by simp [result, finds.exists_iff, referenced]
      halted_iff := fun halt => by
        rw [result, Except.error.injEq, finds.exists_iff]
        exact ⟨fun same => ⟨referenced, rfl, same.symm⟩, fun ⟨_, _, same⟩ => same.symm⟩
      unchanged := fun _ target => by simp only [Act.after, ended, if_true]
      locked := by simp [result] }
  · have result : (lockUnreferenced addr role).result monitor = .ok (.error .inUse) := by
      simp only [Act.result, ended, if_neg delegated]
    exact {
      input_iff := by simp [result, finds.not_misses]
      inUse_iff := by simp [result, finds.exists_iff, referenced, delegated]
      granted_iff := by simp [result, finds.exists_iff, referenced]
      halted_iff := by simp [result, delegated]
      unchanged := fun _ target => by simp only [Act.after, ended, if_neg delegated]
      locked := by simp [result] }

end Cases

/-- Whatever has happened to a table before, a request for an unreferenced granule that is unlocked
ends as its address, its role and its references say, and either takes that one lock or changes no
descriptor. -/
theorem lockUnreferenced_settled (monitor : Monitor region) (addr : Address) (role : Role)
    (free : monitor.Free addr) : monitor.Settles addr role := by
  by_cases misses : monitor.Misses addr role
  · exact settles_of_misses free misses
  · rw [Monitor.misses_iff, not_forall_not] at misses
    obtain ⟨index, finds⟩ := misses
    by_cases unreferenced : (monitor.store.get (.entry index)).references = 0
    · exact settles_of_unreferenced free finds unreferenced
    · exact settles_of_referenced free finds unreferenced

namespace Custody

/-- Leaves the lowest of three granules as a realm with ten references, counts a reference to the
middle one after it was delegated, and keeps the lock of the highest one. -/
def negligence : List (Operation threeGranules) :=
  [.acquire (.lockAt ⟨0x1000, .nonsecure⟩),
    .useGuard lowest (.raise 10),
    .release lowest (some .realm),
    .acquire (.lockAt ⟨0x2000, .nonsecure⟩),
    .release middle (some .delegated),
    .count .gain (.granule 0x2000),
    .acquire (.lockAt ⟨0x3000, .nonsecure⟩)]

/-- The monitor after that. -/
def neglected : Monitor threeGranules :=
  ((start (Monitor.create threeGranules .absent)).play negligence).2.monitor

/-- The reference to the middle granule is not reported, although the granule is there, unlocked and
in the role that is asked for. -/
theorem neglected_not_reported :
    threeGranules.index? 0x2000 = some ⟨1, by decide⟩ ∧
      neglected.store.get (.entry ⟨1, by decide⟩) = ⟨.delegated, 1, false⟩ ∧
      (lockUnreferenced 0x2000 .delegated).result neglected ≠ .ok (.error .inUse) ∧
      (lockUnreferenced 0x2000 .delegated).result neglected =
        .error (.fault (.delegatedInUse 1)) := by
  have ended : (lockUnreferenced 0x2000 .delegated).result neglected =
      .error (.fault (.delegatedInUse 1)) := by rfl
  exact ⟨by decide, by decide +kernel, by rw [ended]; simp, ended⟩

end Custody

/-- Of the three granules the lowest one is reported to be in use, and is missed in another role.
The highest one is locked, which does not matter. -/
theorem neglected_settled :
    Custody.neglected.Free 0x1000 ∧
      (lockUnreferenced 0x1000 .realm).result Custody.neglected = .ok (.error .inUse) ∧
      (lockUnreferenced 0x1000 .context).result Custody.neglected = .ok (.error .input) ∧
      ∀ target, ((lockUnreferenced 0x1000 .realm).after Custody.neglected).store.get target =
        Custody.neglected.store.get target := by
  let lowest : Fin threeGranules.size := ⟨0, by decide⟩
  have known : threeGranules.index? 0x1000 = some lowest := by decide
  have descriptor : Custody.neglected.store.get (.entry lowest) = ⟨.realm, 10, false⟩ := by
    decide +kernel
  have free : Custody.neglected.Free 0x1000 := by
    intro index found
    obtain rfl : lowest = index := Option.some.inj (known.symm.trans found)
    rw [descriptor]
  have asRealm := lockUnreferenced_settled Custody.neglected 0x1000 .realm free
  have asContext := lockUnreferenced_settled Custody.neglected 0x1000 .context free
  have inUse : (lockUnreferenced 0x1000 .realm).result Custody.neglected =
      .ok (.error .inUse) :=
    asRealm.inUse_iff.mpr
      ⟨lowest, ⟨known, by rw [descriptor]⟩, by rw [descriptor]; decide, by decide⟩
  refine ⟨free, inUse, ?_, asRealm.unchanged fun guard => ?_⟩
  · exact asContext.input_iff.mpr (.inr ⟨lowest, known, by rw [descriptor]; decide⟩)
  · rw [inUse]
    simp

end GranuleMonitor
