import GranuleMonitor.Proofs.Custody.Effect

/-!
# Locks and live guards

A descriptor is locked exactly while one guard for it is alive. `Custody.Sound` says so of a
custody; every effect preserves it, and so does every run. Since a fault does not stop a run, this
covers refused and failed operations as well. A locking operation can therefore only be blocked by
a live guard, and nothing stays locked once all guards were given back or lost.
-/

namespace GranuleMonitor

variable {region : Region}

namespace Custody

/-- The lock of a descriptor is taken exactly while one guard for it is alive. -/
structure Sound (custody : Custody region) : Prop where
  locked_iff : ∀ target,
    (custody.monitor.store.get target).locked = true ↔ ⟨target⟩ ∈ custody.live
  nodup : custody.live.Nodup

namespace Sound

variable {before after : Custody region} {operation : Operation region} {outcome : Outcome region}
  {monitor : Monitor region}

/-- In a new table nothing is locked. -/
theorem start (memory : Memory) : (Custody.start (Monitor.create region memory)).Sound where
  locked_iff target := by
    rw [Custody.start, Monitor.get_create]
    simp [Descriptor.fresh]
  nodup := List.nodup_nil

/-- A lock may be free only if no guard for it is alive. -/
theorem not_mem_of_free (sound : before.Sound) {guard : Guard region}
    (free : (before.monitor.store.get guard.target).locked = false) : guard ∉ before.live := by
  intro mine
  have locked := (sound.locked_iff guard.target).mpr mine
  rw [free] at locked
  contradiction

/-- The store may change in whatever else than locks. -/
theorem of_locked_eq (sound : before.Sound)
    (locked : ∀ target, (monitor.store.get target).locked =
      (before.monitor.store.get target).locked) :
    Sound ⟨monitor, before.live⟩ where
  locked_iff target := by
    rw [locked]
    exact sound.locked_iff target
  nodup := sound.nodup

/-- Free locks may be taken if their guards come to life. -/
theorem of_granted (sound : before.Sound) {guards : List (Guard region)} (nodup : guards.Nodup)
    (free : ∀ guard ∈ guards, (before.monitor.store.get guard.target).locked = false)
    (store : monitor.store = before.monitor.store.adjust .lock guards) :
    Sound ⟨monitor, before.live ++ guards⟩ where
  locked_iff target := by
    rw [store, Store.locked_adjust_lock, List.mem_append, sound.locked_iff]
  nodup := by
    refine List.Nodup.append sound.nodup nodup ?_
    intro guard mine taken
    exact sound.not_mem_of_free (free guard taken) mine

/-- The lock of one live guard may become free if the guard is gone. -/
theorem of_erase (sound : before.Sound) {guard : Guard region} {descriptor : Descriptor}
    (unlocked : descriptor.locked = false)
    (store : monitor.store = before.monitor.store.set guard.target descriptor) :
    Sound ⟨monitor, before.live.erase guard⟩ where
  locked_iff target := by
    rw [store, Store.locked_set_of_unlocked unlocked, sound.nodup.mem_erase_iff, sound.locked_iff,
      and_comm]
  nodup := sound.nodup.erase guard

/-- Every effect keeps locks and live guards together. -/
theorem of_effect (sound : before.Sound) (effect : Effect before operation outcome after) :
    after.Sound := by
  cases effect with
  | kept store => exact sound.of_locked_eq fun target => by rw [store]
  | granted nodup free store => exact sound.of_granted nodup free store
  | used mine store =>
    refine sound.of_locked_eq fun target => ?_
    rw [store, Store.locked_afterUse]
  | released mine store => exact sound.of_erase rfl store
  | abandoned mine store => exact sound.of_erase rfl store
  | counted leads store =>
    refine sound.of_locked_eq fun target => ?_
    rw [store, Store.locked_afterCount]

/-- Every run keeps locks and live guards together. -/
theorem play (operations : List (Operation region)) {custody : Custody region}
    (sound : custody.Sound) : (custody.play operations).2.Sound := by
  induction operations generalizing custody with
  | nil => exact sound
  | cons first rest inductionHypothesis =>
    exact inductionHypothesis (sound.of_effect (custody.step_effect first))

/-- A locking operation waits only for locks of live guards. -/
theorem waiting_for (sound : before.Sound) {call : Acquisition} {target : Target region}
    {last : Monitor region} (waits : call.perform before.monitor = .error (.waiting target) last) :
    ⟨target⟩ ∈ before.live ∧ call.Needs target := by
  obtain ⟨locked, needed⟩ := (call.seizes before.monitor).waited waits
  exact ⟨(sound.locked_iff target).mp locked, needed⟩

/-- When no guard is alive, nothing is locked. -/
theorem unlocked_of_nil (sound : before.Sound) (none : before.live = []) (target : Target region) :
    (before.monitor.store.get target).locked = false := by
  rw [← Bool.not_eq_true, sound.locked_iff, none]
  exact List.not_mem_nil

end Sound

/-- A live guard that is given back or lost is gone, whatever the outcome. -/
theorem live_step_of_returned {custody : Custody region} {operation : Operation region}
    {guard : Guard region} (returns : operation.returned? = some guard)
    (mine : guard ∈ custody.live) :
    (custody.step operation).2.live = custody.live.erase guard := by
  cases operation with
  | release other next? =>
    obtain rfl : other = guard := Option.some.inj returns
    rw [step_release mine]
  | abandon other =>
    obtain rfl : other = guard := Option.some.inj returns
    rw [step_abandon mine]
  | _ => contradiction

/-- When all live guards are given back or lost, in whatever order, none is left. -/
theorem live_play_of_returned {custody : Custody region} {releases : List (Operation region)}
    {guards : List (Guard region)} (returns : releases.map Operation.returned? = guards.map some)
    (all : guards.Perm custody.live) : (custody.play releases).2.live = [] := by
  induction guards generalizing custody releases with
  | nil =>
    obtain rfl : releases = [] := by simpa using returns
    exact all.symm.eq_nil
  | cons guard rest inductionHypothesis =>
    cases releases with
    | nil => contradiction
    | cons first later =>
      obtain ⟨firstReturns, laterReturn⟩ := List.cons.inj returns
      have mine : guard ∈ custody.live := all.subset List.mem_cons_self
      change ((custody.step first).2.play later).2.live = []
      refine inductionHypothesis laterReturn ?_
      rw [live_step_of_returned firstReturns mine]
      exact (List.cons_perm_iff_perm_erase.mp all).2

/-- A descriptor is locked exactly while one guard for it is alive: after any run on a new table,
whatever its operations and however each of them ended. Therefore a locking operation is carried
out whenever no guard is alive for what it needs, and when all guards are given back or lost, in
whatever order and whatever faults this reveals, every lock is free. -/
theorem locked_while_alive (memory : Memory) (operations : List (Operation region)) :
    let custody := ((start (Monitor.create region memory)).play operations).2
    (∀ target, (custody.monitor.store.get target).locked = true ↔ ⟨target⟩ ∈ custody.live) ∧
      custody.live.Nodup ∧
      (∀ call : Acquisition, (∀ target, call.Needs target → ⟨target⟩ ∉ custody.live) →
        ∀ target last, call.perform custody.monitor ≠ .error (.waiting target) last) ∧
      ∀ (releases : List (Operation region)) (guards : List (Guard region)),
        releases.map Operation.returned? = guards.map some → guards.Perm custody.live →
          (custody.play releases).2.live = [] ∧
            ∀ target, ((custody.play releases).2.monitor.store.get target).locked = false := by
  intro custody
  have sound : custody.Sound := (Sound.start memory).play operations
  refine ⟨sound.locked_iff, sound.nodup, ?_, ?_⟩
  · intro call spared target last waits
    obtain ⟨mine, needed⟩ := sound.waiting_for waits
    exact spared target needed mine
  · intro releases guards returns all
    have gone := live_play_of_returned returns all
    exact ⟨gone, (sound.play releases).unlocked_of_nil gone⟩

/-- The guard of the lowest of three granules. -/
def lowest : Guard threeGranules := ⟨.entry (Fin.last 2).rev⟩

/-- The guard of the middle one. -/
def middle : Guard threeGranules := ⟨.entry (Fin.last 1).castSucc⟩

/-- Takes the locks of two granules, leaves one of them delegated with a reference, and runs into a
mismatch and an underflow. -/
def mishandling : List (Operation threeGranules) :=
  [.acquire (.lockSet [⟨0x2000, .nonsecure⟩, ⟨0x1000, .nonsecure⟩]),
    .useGuard lowest (.setRole .delegated),
    .useGuard lowest (.raise 1),
    .acquire (.lock (.granule 0x3000) .data),
    .useGuard middle (.lower 1)]

/-- Gives one guard back and loses the other. -/
def cleanup : List (Operation threeGranules) :=
  [.release lowest none, .abandon middle]

/-- A release that finds a fault still frees the lock. -/
theorem cleanup_unlocks :
    let custody := ((start (Monitor.create threeGranules .absent)).play mishandling).2
    custody.live = [middle, lowest] ∧
      (custody.play cleanup).1.map (·.outcome) =
        [.halted (.fault (.delegatedInUse 1)), .replied .done] ∧
      ∀ target, ((custody.play cleanup).2.monitor.store.get target).locked = false := by
  have released := (locked_while_alive .absent mishandling).2.2.2 cleanup [lowest, middle]
    rfl (by decide +kernel)
  exact ⟨by decide +kernel, by decide +kernel, released.2⟩

end Custody

end GranuleMonitor
