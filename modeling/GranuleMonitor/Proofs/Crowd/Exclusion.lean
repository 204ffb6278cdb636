import GranuleMonitor.Concurrent.Crowd
import GranuleMonitor.Proofs.Frame
import GranuleMonitor.Proofs.Locking.Acquisition

/-!
# Locks in a crowd

However the steps of its callers follow one another, a lock is taken exactly while one caller has a
guard for it. `Crowd.Sound` says so of a crowd. It also says where a caller is that locks a set: it
has the locks of the first granules in the locking order, and the granules that are left come behind
them. Every step preserves this, because a step changes what one caller has and just those locks;
`Crowd.Sound.put` is this argument, once for all steps.
-/

namespace GranuleMonitor

variable {region : Region} {k n : Nat}

section LockNext

variable {claims : Vector (Claim region) n} {taken : List (Fin n)} {position : Fin n}
  {monitor last : Monitor region}

/-- When the next granule of a set has another role, all locks of the set are given back. -/
theorem lockNext_of_mismatch {actual : Role}
    (attempt : (monitor.store.get (claims.get position).target).attempt
      (claims.get position).role = .mismatch actual) :
    ∃ final, final.store = monitor.store.adjust .unlock (Holdings.ofTaken claims taken).guards ∧
      (lockNext claims (.ofTaken claims taken) position monitor = .ok none final ∨
        ∃ cause, lockNext claims (.ofTaken claims taken) position monitor =
          .error (.fault cause) final) := by
  simp only [lockNext_apply, attempt, Act.bind_apply, Guard.releaseAll_apply, Act.failIf_apply]
  cases (Holdings.ofTaken claims taken).guards.findSome? fun guard =>
      (monitor.store.get guard.target).releaseFault? with
  | none => exact ⟨_, rfl, .inl rfl⟩
  | some cause => exact ⟨_, rfl, .inr ⟨cause, rfl⟩⟩

/-- When the next granule of a set is locked, its lock was free, and nothing else is taken. -/
theorem lockNext_eq_some {next : Holdings region n}
    (ended : lockNext claims (.ofTaken claims taken) position monitor = .ok (some next) last) :
    (monitor.store.get (claims.get position).target).locked = false ∧
      next = .ofTaken claims (taken ++ [position]) ∧
      last.store = monitor.store.adjust .lock (guardsAt claims [position]) := by
  cases attempt : (monitor.store.get (claims.get position).target).attempt
      (claims.get position).role with
  | held => simp [lockNext_apply, attempt] at ended
  | mismatch actual =>
    obtain ⟨final, -, other | ⟨cause, other⟩⟩ := lockNext_of_mismatch attempt <;>
      rw [other] at ended <;> cases ended
  | taken =>
    rw [lockNext_apply, attempt] at ended
    cases ended
    exact ⟨(Descriptor.attempt_eq_taken_iff.mp attempt).1, rfl, rfl⟩

/-- When a set is given up, in order or with a fault, all of its locks are given back. -/
theorem lockNext_givesUp
    (ended : lockNext claims (.ofTaken claims taken) position monitor = .ok none last ∨
      ∃ cause, lockNext claims (.ofTaken claims taken) position monitor =
        .error (.fault cause) last) :
    last.store = monitor.store.adjust .unlock (Holdings.ofTaken claims taken).guards := by
  cases attempt : (monitor.store.get (claims.get position).target).attempt
      (claims.get position).role with
  | held => simp [lockNext_apply, attempt] at ended
  | taken => simp [lockNext_apply, attempt] at ended
  | mismatch actual =>
    obtain ⟨final, store, other | ⟨cause, other⟩⟩ := lockNext_of_mismatch attempt <;>
      rw [other] at ended
    · obtain same | ⟨cause, never⟩ := ended
      · cases same
        exact store
      · contradiction
    · obtain never | ⟨other, same⟩ := ended
      · contradiction
      · cases same
        exact store

/-- The next granule of a set is waited for only if its lock is taken, and then nothing is done. -/
theorem lockNext_waiting {target : Target region}
    (ended : lockNext claims (.ofTaken claims taken) position monitor =
      .error (.waiting target) last) :
    target = (claims.get position).target ∧ (monitor.store.get target).locked = true ∧
      last = monitor := by
  cases attempt : (monitor.store.get (claims.get position).target).attempt
      (claims.get position).role with
  | held =>
    rw [lockNext_apply, attempt] at ended
    cases ended
    exact ⟨rfl, Descriptor.attempt_eq_held_iff.mp attempt, rfl⟩
  | taken => simp [lockNext_apply, attempt] at ended
  | mismatch actual =>
    obtain ⟨final, -, other | ⟨cause, other⟩⟩ := lockNext_of_mismatch attempt <;>
      rw [other] at ended <;> cases ended

end LockNext

namespace Phase

/-- What is known of a caller wherever it is. While it locks a set, it has the locks of the first
granules in the locking order, and the others are left. -/
def Fits : Phase region → Prop
  | .idle | .seeking _ => True
  | .collecting claims pending holdings =>
    Distinct claims ∧ ∃ taken, lockingOrder claims = taken ++ pending ∧
      holdings = .ofTaken claims taken
  | .holding guards => guards.Nodup

theorem fits_ofGuards {guards : List (Guard region)} (nodup : guards.Nodup) :
    (ofGuards guards).Fits := by
  cases guards with
  | nil => trivial
  | cons guard rest => exact nodup

/-- A caller that is about to lock a set has nothing. -/
@[simp]
theorem guards_collect (claims : Vector (Claim region) n) : (collect claims).guards = [] := by
  simp [collect, ← Holdings.ofTaken_nil claims, Holdings.guards_ofTaken, guardsAt]

theorem fits_collect {claims : Vector (Claim region) n} (distinct : Distinct claims) :
    (collect claims).Fits :=
  ⟨distinct, [], rfl, (Holdings.ofTaken_nil claims).symm⟩

end Phase

namespace Crowd

variable {crowd : Crowd region k}

theorem phases_put (caller other : Fin k) (phase : Phase region) (monitor : Monitor region) :
    (crowd.put caller phase monitor).phases.get other =
      if other = caller then phase else crowd.phases.get other := by
  simp [put, vectorGet_eq, Vector.getElem_set, Fin.ext_iff, eq_comm]

/-- After a step of one caller, it has what its new phase says; the others have what they had. -/
theorem holds_put {caller other : Fin k} {phase : Phase region} {monitor : Monitor region}
    {target : Target region} :
    (crowd.put caller phase monitor).Holds other target ↔
      if other = caller then ⟨target⟩ ∈ phase.guards else crowd.Holds other target := by
  unfold Holds
  rw [phases_put]
  split <;> rfl

/-- A lock is taken exactly while one caller has its guard, and callers that lock sets follow the
locking order. -/
structure Sound (crowd : Crowd region k) : Prop where
  fits : ∀ caller, (crowd.phases.get caller).Fits
  locked_iff : ∀ target,
    (crowd.monitor.store.get target).locked = true ↔ ∃ caller, crowd.Holds caller target
  exclusive : ∀ {caller other target},
    crowd.Holds caller target → crowd.Holds other target → caller = other

namespace Sound

variable {caller : Fin k} {phase : Phase region} {monitor : Monitor region}

/-- At first nobody has anything. -/
theorem of_initial (initial : crowd.Initial) : crowd.Sound := by
  obtain ⟨unlocked, idle⟩ := initial
  have nothing (caller : Fin k) (target : Target region) : ¬ crowd.Holds caller target := by
    simp [Holds, idle]
  constructor
  · intro caller
    rw [idle]
    trivial
  · intro target
    simp [unlocked, nothing]
  · intro caller other target holds
    exact absurd holds (nothing caller target)

/-- The store may change in whatever else than locks. -/
theorem of_locked_eq (sound : crowd.Sound)
    (locked : ∀ target, (monitor.store.get target).locked =
      (crowd.monitor.store.get target).locked) : Sound ⟨monitor, crowd.phases⟩ where
  fits := sound.fits
  locked_iff target := by
    rw [locked]
    exact sound.locked_iff target
  exclusive := sound.exclusive

/-- A step of one caller is sound if it takes only free locks, and frees just those locks that the
caller had and no longer has. -/
theorem put (sound : crowd.Sound) (fits : phase.Fits)
    (gained : ∀ guard ∈ phase.guards, guard ∈ (crowd.phases.get caller).guards ∨
      (crowd.monitor.store.get guard.target).locked = false)
    (locked_iff : ∀ target, (monitor.store.get target).locked = true ↔
      ⟨target⟩ ∈ phase.guards ∨
        (crowd.monitor.store.get target).locked = true ∧ ¬ crowd.Holds caller target) :
    (crowd.put caller phase monitor).Sound where
  fits other := by
    rw [phases_put]
    split
    · exact fits
    · exact sound.fits other
  locked_iff target := by
    change (monitor.store.get target).locked = true ↔ _
    rw [locked_iff]
    constructor
    · rintro (mine | ⟨locked, notMine⟩)
      · exact ⟨caller, holds_put.mpr (by rwa [if_pos rfl])⟩
      · obtain ⟨other, holds⟩ := (sound.locked_iff target).mp locked
        have differs : other ≠ caller := by
          rintro rfl
          exact notMine holds
        exact ⟨other, holds_put.mpr (by rwa [if_neg differs])⟩
    · rintro ⟨other, holds⟩
      rw [holds_put] at holds
      split at holds
      · exact .inl holds
      · next differs =>
        refine .inr ⟨(sound.locked_iff target).mpr ⟨other, holds⟩, ?_⟩
        exact fun mine => differs (sound.exclusive holds mine)
  exclusive := by
    -- what the caller gained was free, so nobody else has it
    have apart {other : Fin k} {target : Target region} (differs : other ≠ caller)
        (mine : ⟨target⟩ ∈ phase.guards) : ¬ crowd.Holds other target := by
      intro theirs
      rcases gained _ mine with before | free
      · exact differs (sound.exclusive theirs before)
      · rw [(sound.locked_iff target).mpr ⟨other, theirs⟩] at free
        contradiction
    intro one other target oneHolds otherHolds
    rw [holds_put] at oneHolds otherHolds
    split at oneHolds <;> split at otherHolds
    · next oneIs otherIs => rw [oneIs, otherIs]
    · next _ differs => exact absurd otherHolds (apart differs oneHolds)
    · next differs _ => exact absurd oneHolds (apart differs otherHolds)
    · exact sound.exclusive oneHolds otherHolds

/-- A caller that locks a set follows the locking order. -/
theorem fits_collecting (sound : crowd.Sound) {claims : Vector (Claim region) n}
    {pending : List (Fin n)} {holdings : Holdings region n}
    (collecting : crowd.phases.get caller = .collecting claims pending holdings) :
    Distinct claims ∧ ∃ taken, lockingOrder claims = taken ++ pending ∧
      holdings = .ofTaken claims taken := by
  have fits := sound.fits caller
  rwa [collecting] at fits

/-- What a caller has is locked. -/
theorem locked_of_mem (sound : crowd.Sound) {guard : Guard region}
    (mine : guard ∈ (crowd.phases.get caller).guards) :
    (crowd.monitor.store.get guard.target).locked = true :=
  (sound.locked_iff guard.target).mpr ⟨caller, mine⟩

/-- A caller may take free locks. -/
theorem put_granted (sound : crowd.Sound) (fits : phase.Fits) (granted : List (Guard region))
    (free : ∀ guard ∈ granted, (crowd.monitor.store.get guard.target).locked = false)
    (guards : ∀ guard, guard ∈ phase.guards ↔
      guard ∈ (crowd.phases.get caller).guards ∨ guard ∈ granted)
    (locked : ∀ target, (monitor.store.get target).locked = true ↔
      (crowd.monitor.store.get target).locked = true ∨ ⟨target⟩ ∈ granted) :
    (crowd.put caller phase monitor).Sound := by
  refine sound.put fits ?_ ?_
  · intro guard member
    exact ((guards guard).mp member).imp_right (free guard)
  · intro target
    rw [locked, guards]
    by_cases mine : ⟨target⟩ ∈ (crowd.phases.get caller).guards
    · simp [mine, sound.locked_of_mem mine]
    · have notMine : ¬ crowd.Holds caller target := mine
      simp [mine, notMine, or_comm]

/-- A caller may go on to another phase with the same guards, and change anything but locks. -/
theorem put_same (sound : crowd.Sound) (fits : phase.Fits)
    (guards : ∀ guard, guard ∈ phase.guards ↔ guard ∈ (crowd.phases.get caller).guards)
    (locked : ∀ target, (monitor.store.get target).locked =
      (crowd.monitor.store.get target).locked) :
    (crowd.put caller phase monitor).Sound := by
  refine sound.put_granted fits [] (List.forall_mem_nil _) ?_ ?_
  · simp [guards]
  · simp [locked]

/-- A caller may give some of its locks back. -/
theorem put_returned (sound : crowd.Sound) (fits : phase.Fits) (returned : List (Guard region))
    (mine : ∀ guard ∈ returned, guard ∈ (crowd.phases.get caller).guards)
    (guards : ∀ guard, guard ∈ phase.guards ↔
      guard ∈ (crowd.phases.get caller).guards ∧ guard ∉ returned)
    (locked : ∀ target, (monitor.store.get target).locked = true ↔
      (crowd.monitor.store.get target).locked = true ∧ ⟨target⟩ ∉ returned) :
    (crowd.put caller phase monitor).Sound := by
  refine sound.put fits ?_ ?_
  · intro guard member
    exact .inl ((guards guard).mp member).1
  · intro target
    rw [locked, guards]
    by_cases held : ⟨target⟩ ∈ (crowd.phases.get caller).guards
    · have holds : crowd.Holds caller target := held
      simp [held, holds, sound.locked_of_mem held]
    · have notMine : ¬ crowd.Holds caller target := held
      have kept : ⟨target⟩ ∉ returned := fun gone => held (mine _ gone)
      simp [held, notMine, kept]

/-- A caller may give one lock back. -/
theorem put_erase (sound : crowd.Sound) {guards : List (Guard region)} {guard : Guard region}
    (holding : crowd.phases.get caller = .holding guards) (mine : guard ∈ guards)
    {descriptor : Descriptor} (unlocked : descriptor.locked = false)
    (store : monitor.store = crowd.monitor.store.set guard.target descriptor) :
    (crowd.put caller (.ofGuards (guards.erase guard)) monitor).Sound := by
  have nodup : guards.Nodup := by
    have fits := sound.fits caller
    rwa [holding] at fits
  refine sound.put_returned (Phase.fits_ofGuards (nodup.erase guard)) [guard] ?_ ?_ ?_
  · simpa [holding] using mine
  · simp [holding, nodup.mem_erase_iff, and_comm]
  · intro target
    rw [store, Store.locked_set_of_unlocked unlocked, List.mem_singleton]

/-- A caller may give up its set. -/
theorem put_givenUp (sound : crowd.Sound)
    (store : monitor.store = crowd.monitor.store.adjust .unlock (crowd.phases.get caller).guards) :
    (crowd.put caller .idle monitor).Sound := by
  refine sound.put_returned trivial (crowd.phases.get caller).guards (fun _ mine => mine) ?_ ?_
  · simp
  · intro target
    rw [store, Store.locked_adjust_unlock]

/-- Every step of a crowd keeps locks and guards together. -/
theorem step {next : Crowd region k} (sound : crowd.Sound) (step : Step crowd next) :
    next.Sound := by
  cases step with
  | seek caller call single idle =>
    exact sound.put_same trivial (by simp [idle]) fun _ => rfl
  | @seize caller call acquired monitor seeking ended =>
    obtain ⟨nodup, free, store⟩ := (call.seizes crowd.monitor).granted ended
    refine sound.put_granted (Phase.fits_ofGuards nodup) acquired.toList
      (fun guard member => (free guard member).1) ?_ ?_
    · simp [seeking]
    · intro target
      rw [store, Store.locked_adjust_lock]
  | @seekFault caller call cause monitor seeking ended =>
    refine sound.put_same trivial (by simp [seeking]) fun target => ?_
    rw [((call.seizes crowd.monitor).faulted ended).1]
  | refuse caller requests notice idle refused =>
    exact sound.put_same trivial (by simp [idle]) fun _ => rfl
  | ask caller idle resolved accepted =>
    refine sound.put_same (Phase.fits_collect (repeatsNext_lockingOrder_iff.mp accepted)) ?_
      fun _ => rfl
    simp [idle]
  | @lockNext caller n claims position later holdings next monitor collecting locked =>
    obtain ⟨distinct, taken, order, rfl⟩ := sound.fits_collecting collecting
    obtain ⟨free, rfl, store⟩ := lockNext_eq_some locked
    refine sound.put_granted ⟨distinct, taken ++ [position], by simp [order], rfl⟩
      (guardsAt claims [position]) ?_ ?_ ?_
    · simpa [guardsAt] using free
    · intro guard
      simp [collecting, Holdings.mem_guards_ofTaken, guardsAt]
    · intro target
      rw [store, Store.locked_adjust_lock]
  | giveUp caller collecting refused =>
    obtain ⟨distinct, taken, order, rfl⟩ := sound.fits_collecting collecting
    apply sound.put_givenUp
    rw [collecting]
    exact lockNext_givesUp (.inl refused)
  | @giveUpFault caller n claims position later holdings cause monitor collecting refused =>
    obtain ⟨distinct, taken, order, rfl⟩ := sound.fits_collecting collecting
    apply sound.put_givenUp
    rw [collecting]
    exact lockNext_givesUp (.inr ⟨cause, refused⟩)
  | @complete caller n claims holdings guards collecting complete =>
    obtain ⟨distinct, taken, order, rfl⟩ := sound.fits_collecting collecting
    have all (position : Fin n) : position ∈ taken := by
      have member : position ∈ lockingOrder claims := mem_lockingOrder position
      simpa [order] using member
    rw [Holdings.complete?_ofTaken all] at complete
    obtain rfl := Option.some.inj complete
    refine sound.put_same (Phase.fits_ofGuards (nodup_guards distinct)) ?_ fun _ => rfl
    intro guard
    rw [collecting, Phase.guards_ofGuards, Phase.guards_collecting, Holdings.mem_guards_ofTaken,
      mem_guardsAt_of_all all]
  | @useGuard caller guards guard call holding mine =>
    refine sound.put_same ?_ ?_ fun target => ?_
    · have fits := sound.fits caller
      rwa [holding] at fits
    · simp [holding]
    · rw [(call.turns_perform guard).store_after, Store.locked_afterUse]
  | release caller next? holding mine =>
    exact sound.put_erase holding mine rfl (by rw [Session.after_releaseGuard])
  | abandon caller holding mine =>
    exact sound.put_erase holding mine rfl (by rw [Act.after, Guard.abandon_apply])
  | count call place =>
    refine sound.of_locked_eq fun target => ?_
    cases leads : place.target region with
    | error cause =>
      rw [(call.lockless_perform leads).store_after]
      rfl
    | ok counted =>
      rw [(call.turns_perform leads).store_after, Store.locked_afterCount]

/-- Every crowd that can come about keeps locks and guards together. -/
theorem of_reachable (reachable : crowd.Reachable) : crowd.Sound := by
  induction reachable with
  | initial initial => exact of_initial initial
  | step prior step inductionHypothesis => exact inductionHypothesis.step step

end Sound

end Crowd

end GranuleMonitor
