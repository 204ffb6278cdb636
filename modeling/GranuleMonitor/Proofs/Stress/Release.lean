import GranuleMonitor.Proofs.Stress.Attempt
import GranuleMonitor.Stress.Report

/-!
# The last check

After a run every granule is locked once more in one of the two roles that it should have, and its
references are read. When nobody has a lock any more, the check finds exactly the granules that have
another role or references, and it leaves all of them as they are: `leaks_apply`.
-/

namespace GranuleMonitor

variable {region : Region}

namespace Stress

/-- The granule has a role that no run should leave, or somebody refers to it. -/
def Leaked (monitor : Monitor region) (index : Fin region.size) : Prop :=
  ¬ ((monitor.store.get (.entry index)).role = .nonsecure ∨
      (monitor.store.get (.entry index)).role = .delegated) ∨
    (monitor.store.get (.entry index)).references ≠ 0

instance (monitor : Monitor region) (index : Fin region.size) :
    Decidable (Leaked monitor index) :=
  inferInstanceAs (Decidable (¬ (_ ∨ _) ∨ _ ≠ _))

section Check

variable {monitor : Monitor region} {index : Fin region.size}

/-- Trying a role leaves nothing behind if it is the role, and a record otherwise. -/
theorem lockAt_release_apply {α : Type} (monitor : Monitor region) (expected : Role)
    (yes no : Act region α)
    (free : (monitor.store.get (.entry index)).locked = false)
    (inOrder : (monitor.store.get (.entry index)).releaseFault? = none) :
    (lockAt (region.address index) expected >>= fun
      | .ok guard => guard.release >>= fun _ => yes
      | .error _ => no) monitor =
        if (monitor.store.get (.entry index)).role = expected then yes monitor
        else no { monitor with
          log := monitor.log.push
            (.roleMismatch (monitor.store.get (.entry index)).role expected) } := by
  have looked : lockAt (region.address index) expected monitor = _ :=
    lockAt_apply (region.target_address index)
  rw [Act.bind_apply, looked]
  by_cases same : (monitor.store.get (.entry index)).role = expected
  · rw [Descriptor.attempt_eq_taken_iff.mpr ⟨free, same⟩, if_pos same]
    dsimp only
    rw [Act.bind_apply, Guard.release_apply_lock ⟨.entry index⟩ free inOrder]
  · rw [Descriptor.attempt_eq_mismatch_iff.mpr ⟨free, same, rfl⟩, if_neg same]

/-- Trying both roles tells whether the granule has one of them. -/
theorem isReleased_apply (free : (monitor.store.get (.entry index)).locked = false)
    (inOrder : (monitor.store.get (.entry index)).releaseFault? = none) :
    ∃ released log, isReleased (region.address index) monitor =
        .ok released { monitor with log } ∧
      (released = true ↔ (monitor.store.get (.entry index)).role = .nonsecure ∨
        (monitor.store.get (.entry index)).role = .delegated) := by
  have first : isReleased (region.address index) monitor = _ :=
    lockAt_release_apply monitor .nonsecure (pure true) _ free inOrder
  rw [first]
  by_cases nonsecure : (monitor.store.get (.entry index)).role = .nonsecure
  · rw [if_pos nonsecure]
    exact ⟨true, monitor.log, rfl, by simp [nonsecure]⟩
  rw [if_neg nonsecure]
  let noted : Monitor region := { monitor with
    log := monitor.log.push
      (.roleMismatch (monitor.store.get (.entry index)).role .nonsecure) }
  have second := lockAt_release_apply noted .delegated (pure true) (pure false) free inOrder
  by_cases delegated : (monitor.store.get (.entry index)).role = .delegated
  · rw [if_pos delegated] at second
    exact ⟨true, _, second, by simp [delegated]⟩
  · rw [if_neg delegated] at second
    exact ⟨false, _, second, by simp [nonsecure, delegated]⟩

/-- When nobody has a lock, the check finds the granules that are leaked, and no others. -/
theorem leaks_apply (free : ∀ index, (monitor.store.get (.entry index)).locked = false)
    (inOrder : ∀ index, (monitor.store.get (.entry index)).releaseFault? = none)
    (indices : List (Fin region.size)) :
    ∃ log, leaks indices monitor =
      .ok ((indices.filter fun index => Leaked monitor index).map region.address)
        { monitor with log } := by
  induction indices generalizing monitor with
  | nil => exact ⟨monitor.log, rfl⟩
  | cons index rest inductionHypothesis =>
    obtain ⟨released, log, ended, proper⟩ := isReleased_apply (free index) (inOrder index)
    obtain ⟨last, later⟩ := @inductionHypothesis { monitor with log } free inOrder
    have counted : (Target.entry index).references { monitor with log } =
        .ok (monitor.store.get (.entry index)).references { monitor with log } := rfl
    refine ⟨last, ?_⟩
    rw [leaks, Act.bind_apply, ended]
    dsimp only
    rw [Act.bind_apply, counted]
    dsimp only
    rw [Act.bind_apply, later]
    have leaked_iff : Leaked monitor index ↔
        ¬ (released = true ∧ (monitor.store.get (.entry index)).references = 0) := by
      rw [Leaked, not_and_or, proper]
    by_cases leaked : Leaked monitor index
    · rw [List.filter_cons_of_pos (by simpa using leaked), List.map_cons]
      simp only [if_neg (leaked_iff.mp leaked)]
      rfl
    · rw [List.filter_cons_of_neg (by simpa using leaked)]
      simp only [if_pos (not_not.mp (leaked_iff.not.mp leaked))]
      rfl

end Check

end Stress

end GranuleMonitor
