import GranuleMonitor.Proofs.Custody.Soundness

/-!
# Unlocked granules without references

While a granule is locked, its role and its count may become anything, each on its own. What a
delegated granule must not have when it is unlocked is only looked at when its lock is given back.
This module shows that it is enough: an unlocked granule stays `Descriptor.Tidy` through every run
that does not disturb it, where an event disturbs a granule if it counts without the lock or frees
the lock in spite of a fault or without a check. As long as no granule was disturbed, no operation
for untrusted callers can stop with a fault.
-/

namespace GranuleMonitor

variable {region : Region}

/-- If the granule is unlocked and delegated, then nobody refers to it. -/
def Descriptor.Tidy (descriptor : Descriptor) : Prop :=
  descriptor.locked = false → descriptor.role = .delegated → descriptor.references = 0

namespace Descriptor

theorem tidy_of_locked {descriptor : Descriptor} (locked : descriptor.locked = true) :
    descriptor.Tidy := by
  intro unlocked
  rw [locked] at unlocked
  contradiction

/-- A descriptor that passes the check of a release is left tidy. -/
theorem tidy_unlock {descriptor : Descriptor} (inOrder : descriptor.releaseFault? = none) :
    descriptor.unlock.Tidy :=
  fun _ => releaseFault?_eq_none_iff.mp inOrder

end Descriptor

/-- Whether an operation was stopped by a fault. -/
def Outcome.isFault : Outcome region → Bool
  | .halted (.fault _) => true
  | .halted (.waiting _) | .acquired _ | .replied _ | .noGuard => false

/-- An event that may leave a granule unlocked in disorder: a count without the lock, a release that
found a fault, or the loss of a guard. -/
def Event.Disturbs (event : Event region) (target : Target region) : Prop :=
  match event.operation with
  | .count _ place => (place.target region).toOption = some target
  | .release guard _ => guard.target = target ∧ event.outcome.isFault
  | .abandon guard => guard.target = target ∧ event.outcome ≠ .noGuard
  | _ => False

instance (event : Event region) (target : Target region) : Decidable (event.Disturbs target) := by
  unfold Event.Disturbs
  split <;> infer_instance

namespace Custody

/-- An effect that does not disturb a granule leaves it tidy. A used guard is alive, so the granule
that it changes is locked. -/
theorem tidy_of_effect {before after : Custody region} {operation : Operation region}
    {outcome : Outcome region} {target : Target region} (sound : before.Sound)
    (effect : Effect before operation outcome after)
    (undisturbed : ¬ Event.Disturbs ⟨operation, outcome⟩ target)
    (tidy : (before.monitor.store.get target).Tidy) : (after.monitor.store.get target).Tidy := by
  cases effect with
  | kept store =>
    rw [store]
    exact tidy
  | granted nodup free store =>
    rw [store, Store.get_adjust_lock]
    split
    · exact Descriptor.tidy_of_locked rfl
    · exact tidy
  | @used guard call outcome monitor mine store =>
    by_cases same : target = guard.target
    · apply Descriptor.tidy_of_locked
      rw [store, Store.locked_afterUse, same]
      exact (sound.locked_iff _).mpr mine
    · rw [store, Store.afterUse, Store.get_set_ne _ _ same]
      exact tidy
  | @released guard next? monitor mine store =>
    rw [store, Store.get_set]
    split
    · next same =>
      cases fault : ((before.monitor.store.get guard.target).become next?).releaseFault? with
      | none => exact Descriptor.tidy_unlock fault
      | some cause => exact absurd ⟨same.symm, by rw [fault]; rfl⟩ undisturbed
    · exact tidy
  | @abandoned guard monitor mine store =>
    have other : target ≠ guard.target := fun same => undisturbed ⟨same.symm, by simp⟩
    rw [store, Store.get_set_ne _ _ other]
    exact tidy
  | @counted call place counted outcome monitor leads store =>
    have other : target ≠ counted := by
      rintro rfl
      apply undisturbed
      simp [Event.Disturbs, leads, Except.toOption]
    rw [store, Store.afterCount, Store.get_set_ne _ _ other]
    exact tidy

/-- A granule stays tidy through every run that does not disturb it. -/
theorem tidy_play (operations : List (Operation region)) {custody : Custody region}
    {target : Target region} (sound : custody.Sound)
    (undisturbed : ∀ event ∈ (custody.play operations).1, ¬ event.Disturbs target)
    (tidy : (custody.monitor.store.get target).Tidy) :
    ((custody.play operations).2.monitor.store.get target).Tidy := by
  induction operations generalizing custody with
  | nil => exact tidy
  | cons first rest inductionHypothesis =>
    obtain ⟨firstUndisturbed, laterUndisturbed⟩ := List.forall_mem_cons.mp undisturbed
    have effect := custody.step_effect first
    exact inductionHypothesis (sound.of_effect effect) laterUndisturbed
      (tidy_of_effect sound effect firstUndisturbed tidy)

/-- In a new table every granule is tidy. -/
theorem tidy_create (memory : Memory) (target : Target region) :
    ((Monitor.create region memory).store.get target).Tidy := by
  rw [Monitor.get_create]
  intro _ _
  rfl

/-- When all granules are tidy, an operation for untrusted callers does not fault. -/
theorem perform_of_tidy {monitor : Monitor region} {call : Acquisition}
    (untrusted : call.IsUntrusted)
    (tidy : ∀ index : Fin region.size, (monitor.store.get (.entry index)).Tidy) :
    (∃ acquired last, call.perform monitor = .ok acquired last) ∨
      ∃ target last, call.perform monitor = .error (.waiting target) last := by
  cases ended : call.perform monitor with
  | ok acquired last => exact .inl ⟨acquired, last, rfl⟩
  | error halt last =>
    cases halt with
    | waiting target => exact .inr ⟨target, last, rfl⟩
    | fault cause =>
      obtain ⟨index, free, fault⟩ := ((call.seizes monitor).faulted ended).2 untrusted
      obtain ⟨delegated, referenced, -⟩ := Descriptor.releaseFault?_eq_some_iff.mp fault
      exact absurd (tidy index free delegated) referenced

/-- After every run on a new table, a granule that was not disturbed has no references if it is
unlocked and delegated. If no granule was disturbed, every operation for untrusted callers comes to
its end, or to a lock that it needs and that has a live guard; it never stops with a fault. -/
theorem delegated_unreferenced (memory : Memory) (operations : List (Operation region)) :
    let run := (start (Monitor.create region memory)).play operations
    (∀ target, (∀ event ∈ run.1, ¬ event.Disturbs target) →
      (run.2.monitor.store.get target).locked = false →
      (run.2.monitor.store.get target).role = .delegated →
        (run.2.monitor.store.get target).references = 0) ∧
      ((∀ index, ∀ event ∈ run.1, ¬ event.Disturbs (.entry index)) →
        ∀ call : Acquisition, call.IsUntrusted →
          (∃ acquired last, call.perform run.2.monitor = .ok acquired last) ∨
            ∃ target last, call.perform run.2.monitor = .error (.waiting target) last ∧
              ⟨target⟩ ∈ run.2.live ∧ call.Needs target) := by
  intro run
  have soundStart : (start (Monitor.create region memory)).Sound := .start memory
  have tidy {target : Target region} (undisturbed : ∀ event ∈ run.1, ¬ event.Disturbs target) :
      (run.2.monitor.store.get target).Tidy :=
    tidy_play operations soundStart undisturbed (tidy_create memory target)
  refine ⟨fun target undisturbed => tidy undisturbed, ?_⟩
  intro undisturbed call untrusted
  rcases perform_of_tidy untrusted (fun index => tidy (undisturbed index)) with ended |
    ⟨target, last, waits⟩
  · exact .inl ended
  · exact .inr ⟨target, last, waits, (soundStart.play operations).waiting_for waits⟩

/-- Delegates a granule that had references for a while, and lets a request for it be turned down
halfway. -/
def delegation : List (Operation threeGranules) :=
  [.acquire (.lockAt ⟨0x1000, .nonsecure⟩),
    .useGuard lowest (.setRole .delegated),
    .useGuard lowest (.raise 2),
    .useGuard lowest (.lower 2),
    .release lowest none,
    .acquire (.lockSet [⟨0x2000, .data⟩, ⟨0x1000, .delegated⟩])]

/-- The granule ends up delegated and without references, and can be locked as such. -/
theorem delegation_unreferenced :
    let custody := ((start (Monitor.create threeGranules .absent)).play delegation).2
    (custody.monitor.store.get lowest.target).references = 0 ∧
      ∃ acquired last, (Acquisition.lockUnreferenced ⟨0x1000, .delegated⟩).perform
        custody.monitor = .ok acquired last := by
  have undisturbed : ∀ index : Fin threeGranules.size,
      ∀ event ∈ ((start (Monitor.create threeGranules .absent)).play delegation).1,
        ¬ event.Disturbs (.entry index) := by
    decide +kernel
  have nobody : ((start (Monitor.create threeGranules .absent)).play delegation).2.live = [] := by
    decide +kernel
  have unreferenced := (delegated_unreferenced .absent delegation).1 lowest.target
    (undisturbed _) (by decide +kernel) (by decide +kernel)
  refine ⟨unreferenced, ?_⟩
  rcases (delegated_unreferenced .absent delegation).2 undisturbed
    (.lockUnreferenced ⟨0x1000, .delegated⟩) trivial with ended | ⟨target, last, -, mine, -⟩
  · exact ended
  · rw [nobody] at mine
    exact absurd mine List.not_mem_nil

end Custody

end GranuleMonitor
