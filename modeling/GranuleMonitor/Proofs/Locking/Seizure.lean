import GranuleMonitor.Lock
import Mathlib.Data.List.Basic

/-!
# What locking and releasing does to a store

Operations on locks change the descriptors of a few guards and leave all others alone.
`Store.adjust` is that change for a list of guards, and `get_adjust` reads it back. The lemmas
after it give the exact result of every operation that takes one lock, and of a release of several
guards. Locks that are taken and given back leave no trace: `adjust_unlock_adjust_lock`.
-/

namespace GranuleMonitor

variable {region : Region}

namespace Descriptor

/-- Whether a lock may be given back does not depend on the lock. -/
@[simp]
theorem releaseFault?_unlock (descriptor : Descriptor) :
    descriptor.unlock.releaseFault? = descriptor.releaseFault? := rfl

/-- A free lock that was taken and given back is as it was. -/
theorem unlock_lock {descriptor : Descriptor} (free : descriptor.locked = false) :
    descriptor.lock.unlock = descriptor := by
  obtain ⟨role, references, locked⟩ := descriptor
  subst free
  rfl

theorem attempt_eq_taken_iff {descriptor : Descriptor} {expected : Role} :
    descriptor.attempt expected = .taken ↔
      descriptor.locked = false ∧ descriptor.role = expected := by
  unfold attempt
  cases descriptor.locked <;> by_cases same : descriptor.role = expected <;> simp [same]

theorem attempt_eq_held_iff {descriptor : Descriptor} {expected : Role} :
    descriptor.attempt expected = .held ↔ descriptor.locked = true := by
  unfold attempt
  cases descriptor.locked <;> by_cases same : descriptor.role = expected <;> simp [same]

theorem attempt_eq_mismatch_iff {descriptor : Descriptor} {expected actual : Role} :
    descriptor.attempt expected = .mismatch actual ↔
      descriptor.locked = false ∧ descriptor.role ≠ expected ∧ descriptor.role = actual := by
  unfold attempt
  cases descriptor.locked <;> by_cases same : descriptor.role = expected <;> simp [same]

/-- A lock that is free is taken in the right role, and missed in any other. -/
theorem attempt_of_free {descriptor : Descriptor} (free : descriptor.locked = false)
    (expected : Role) :
    descriptor.attempt expected =
      if descriptor.role = expected then .taken else .mismatch descriptor.role := by
  simp only [attempt, free, Bool.false_eq_true, if_false]

end Descriptor

namespace Store

/-- Reading after a write, for any two targets. -/
theorem get_set (store : Store region) (target other : Target region) (descriptor : Descriptor) :
    (store.set target descriptor).get other =
      if other = target then descriptor else store.get other := by
  by_cases same : other = target
  · subst same
    simp
  · rw [get_set_ne store descriptor same, if_neg same]

/-- Two writes to one target count as the second one. -/
theorem set_set (store : Store region) (target : Target region) (first second : Descriptor) :
    (store.set target first).set target second = store.set target second := by
  apply ext_get
  intro other
  simp only [get_set]
  split <;> rfl

/-- Writing what is there changes nothing. -/
theorem set_get_self (store : Store region) (target : Target region) :
    store.set target (store.get target) = store := by
  apply ext_get
  intro other
  rw [get_set]
  split
  · next same => rw [same]
  · rfl

/-- The store after a change to the descriptors of some guards, one after the other. -/
def adjust (change : Descriptor → Descriptor) (store : Store region)
    (guards : List (Guard region)) : Store region :=
  guards.foldl (fun store guard => store.set guard.target (change (store.get guard.target))) store

@[simp]
theorem adjust_nil (change : Descriptor → Descriptor) (store : Store region) :
    store.adjust change [] = store := rfl

theorem adjust_cons (change : Descriptor → Descriptor) (store : Store region)
    (guard : Guard region) (rest : List (Guard region)) :
    store.adjust change (guard :: rest) =
      (store.set guard.target (change (store.get guard.target))).adjust change rest := rfl

/-- A change that is not felt twice reaches exactly the descriptors of the guards. -/
theorem get_adjust (change : Descriptor → Descriptor)
    (once : ∀ descriptor, change (change descriptor) = change descriptor)
    (store : Store region) (guards : List (Guard region)) (target : Target region) :
    (store.adjust change guards).get target =
      if ⟨target⟩ ∈ guards then change (store.get target) else store.get target := by
  induction guards generalizing store with
  | nil => simp
  | cons guard rest inductionHypothesis =>
    rw [adjust_cons, inductionHypothesis, get_set]
    by_cases same : target = guard.target
    · subst same
      simp [once]
    · have differs : (⟨target⟩ : Guard region) ≠ guard := by
        rintro rfl
        exact same rfl
      simp [same, differs]

theorem get_adjust_lock (store : Store region) (guards : List (Guard region))
    (target : Target region) :
    (store.adjust .lock guards).get target =
      if ⟨target⟩ ∈ guards then (store.get target).lock else store.get target :=
  get_adjust .lock (fun _ => rfl) store guards target

theorem get_adjust_unlock (store : Store region) (guards : List (Guard region))
    (target : Target region) :
    (store.adjust .unlock guards).get target =
      if ⟨target⟩ ∈ guards then (store.get target).unlock else store.get target :=
  get_adjust .unlock (fun _ => rfl) store guards target

/-- Taken locks do not change whether a lock may be given back. -/
theorem releaseFault?_get_adjust_lock (store : Store region) (guards : List (Guard region))
    (target : Target region) :
    ((store.adjust .lock guards).get target).releaseFault? = (store.get target).releaseFault? := by
  rw [get_adjust_lock]
  split <;> rfl

/-- Exactly the locks of the guards are taken. -/
theorem locked_adjust_lock {store : Store region} {guards : List (Guard region)}
    {target : Target region} :
    ((store.adjust .lock guards).get target).locked = true ↔
      (store.get target).locked = true ∨ ⟨target⟩ ∈ guards := by
  rw [get_adjust_lock]
  split
  · next taken => simp [taken, Descriptor.lock]
  · next other => simp [other]

/-- Exactly the locks of the guards are given back. -/
theorem locked_adjust_unlock {store : Store region} {guards : List (Guard region)}
    {target : Target region} :
    ((store.adjust .unlock guards).get target).locked = true ↔
      (store.get target).locked = true ∧ ⟨target⟩ ∉ guards := by
  rw [get_adjust_unlock]
  split
  · next gone => simp [gone, Descriptor.unlock]
  · next other => simp [other]

/-- A write may change whatever else than the lock. -/
theorem locked_set_of_eq {store : Store region} {target : Target region} {descriptor : Descriptor}
    (same : descriptor.locked = (store.get target).locked) (other : Target region) :
    ((store.set target descriptor).get other).locked = (store.get other).locked := by
  rw [get_set]
  split
  · next isTarget => rw [isTarget, same]
  · rfl

/-- A write of an unlocked descriptor gives exactly one lock back. -/
theorem locked_set_of_unlocked {store : Store region} {guard : Guard region}
    {descriptor : Descriptor} (unlocked : descriptor.locked = false) {target : Target region} :
    ((store.set guard.target descriptor).get target).locked = true ↔
      (store.get target).locked = true ∧ ⟨target⟩ ≠ guard := by
  obtain ⟨owner⟩ := guard
  rw [get_set]
  split
  · next same => simp [unlocked, same]
  · next other => simp [other]

/-- The order in which locks are taken leaves no trace. -/
theorem adjust_lock_congr {store : Store region} {guards others : List (Guard region)}
    (same : ∀ guard, guard ∈ guards ↔ guard ∈ others) :
    store.adjust .lock guards = store.adjust .lock others := by
  apply ext_get
  intro target
  simp only [get_adjust_lock, same]

/-- Free locks that were taken and given back, in whatever order, leave no trace. -/
theorem adjust_unlock_adjust_lock {store : Store region} {taken given : List (Guard region)}
    (free : ∀ guard ∈ taken, (store.get guard.target).locked = false)
    (same : ∀ guard, guard ∈ given ↔ guard ∈ taken) :
    (store.adjust .lock taken).adjust .unlock given = store := by
  apply ext_get
  intro target
  rw [get_adjust_unlock, get_adjust_lock]
  by_cases member : ⟨target⟩ ∈ taken
  · rw [if_pos ((same _).mpr member), if_pos member]
    exact Descriptor.unlock_lock (free _ member)
  · rw [if_neg (fun inGiven => member ((same _).mp inGiven)), if_neg member]

end Store

namespace Target

/-- Locking on a match takes a free lock in the expected role, and has no other effect. -/
theorem lockOnMatch_apply (target : Target region) (expected : Role) (monitor : Monitor region) :
    target.lockOnMatch expected monitor =
      match (monitor.store.get target).attempt expected with
      | .held => .error (.waiting target) monitor
      | .mismatch actual =>
        .ok none { monitor with log := monitor.log.push (.roleMismatch actual expected) }
      | .taken =>
        .ok (some ⟨target⟩)
          { monitor with store := monitor.store.set target (monitor.store.get target).lock } := by
  simp only [lockOnMatch, Act.bind_apply, Act.read_apply]
  cases (monitor.store.get target).attempt expected <;> simp

/-- Locking takes a free lock in the expected role, and has no other effect. -/
theorem lock_apply (target : Target region) (expected : Role) (monitor : Monitor region) :
    target.lock expected monitor =
      match (monitor.store.get target).attempt expected with
      | .held => .error (.waiting target) monitor
      | .mismatch actual => .error (.fault (.roleMismatch actual expected)) monitor
      | .taken =>
        .ok ⟨target⟩
          { monitor with store := monitor.store.set target (monitor.store.get target).lock } := by
  simp only [lock, Act.bind_apply, Act.read_apply]
  cases (monitor.store.get target).attempt expected <;> simp

end Target

namespace Guard

theorem abandon_apply (guard : Guard region) (monitor : Monitor region) :
    guard.abandon monitor =
      .ok () { monitor with
        store := monitor.store.set guard.target (monitor.store.get guard.target).unlock } := by
  simp [abandon]

/-- A release gives the lock back, and then reports what is wrong. -/
theorem release_apply (guard : Guard region) (monitor : Monitor region) :
    guard.release monitor =
      Act.failIf (monitor.store.get guard.target).releaseFault? { monitor with
        store := monitor.store.set guard.target (monitor.store.get guard.target).unlock } := by
  simp [release]

/-- A free lock that was just taken is given back without a trace. -/
theorem release_apply_lock {monitor : Monitor region} (guard : Guard region)
    (free : (monitor.store.get guard.target).locked = false)
    (inOrder : (monitor.store.get guard.target).releaseFault? = none) :
    guard.release { monitor with
      store := monitor.store.set guard.target (monitor.store.get guard.target).lock } =
        .ok () monitor := by
  have sameFault : (monitor.store.get guard.target).lock.releaseFault? = none := inOrder
  rw [release_apply]
  simp only [Store.get_set_self, sameFault, Store.set_set, Descriptor.unlock_lock free,
    Store.set_get_self]
  rfl

/-- Guards that are given up lose their locks and nothing else. -/
theorem forM_abandon_apply (guards : List (Guard region)) (monitor : Monitor region) :
    (guards.forM abandon : Act region Unit) monitor =
      .ok () { monitor with store := monitor.store.adjust .unlock guards } := by
  induction guards generalizing monitor with
  | nil => rfl
  | cons guard rest inductionHypothesis =>
    change (guard.abandon >>= fun _ => rest.forM abandon) monitor = _
    simp only [Act.bind_apply, abandon_apply, inductionHypothesis, Store.adjust_cons]

/-- A free lock that was just taken is given up without a trace. -/
theorem forM_abandon_apply_lock {monitor : Monitor region} (guard : Guard region)
    (free : (monitor.store.get guard.target).locked = false) :
    ([guard].forM abandon : Act region Unit) { monitor with
      store := monitor.store.set guard.target (monitor.store.get guard.target).lock } =
        .ok () monitor := by
  simp only [forM_abandon_apply, Store.adjust_cons, Store.adjust_nil, Store.get_set_self,
    Store.set_set, Descriptor.unlock_lock free, Store.set_get_self]

/-- When several guards are released, all locks are given back, and the first fault is reported. -/
theorem releaseAll_apply (guards : List (Guard region)) (monitor : Monitor region) :
    releaseAll guards monitor =
      Act.failIf (guards.findSome? fun guard => (monitor.store.get guard.target).releaseFault?)
        { monitor with store := monitor.store.adjust .unlock guards } := by
  induction guards generalizing monitor with
  | nil => rfl
  | cons guard rest inductionHypothesis =>
    simp only [releaseAll, Act.bind_apply, Act.read_apply, abandon_apply, List.findSome?_cons,
      Store.adjust_cons]
    cases (monitor.store.get guard.target).releaseFault? with
    | some cause => simp only [Act.bind_apply, forM_abandon_apply]; rfl
    | none =>
      have sameFaults (other : Guard region) :
          ((monitor.store.set guard.target (monitor.store.get guard.target).unlock).get
              other.target).releaseFault? = (monitor.store.get other.target).releaseFault? := by
        rw [Store.get_set]
        split
        · next same => rw [same, Descriptor.releaseFault?_unlock]
        · rfl
      simp only [inductionHypothesis, sameFaults]

end Guard

end GranuleMonitor
