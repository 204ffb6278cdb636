import GranuleMonitor.Proofs.Custody.Sessions
import GranuleMonitor.Proofs.Locking.Expectation

/-!
# The guard owns the role

The role of a granule is changed by two operations only, and both need the live guard of this very
granule: `Operation.gives?` says which role they give. Hence the roles that were given to a granule
in the course of a run tell its role at the end, which is `Custody.role_play`. While the guard is
alive, it shows the last role that was given through it, or else the role that the granule was
locked in. Once the guard is gone, nothing gives a role, so the next locking operation finds the one
that was left: `Custody.Offers`.
-/

namespace GranuleMonitor

variable {region : Region}

/-- The role that an operation gives to a granule if its guard is alive. -/
def Operation.gives? (operation : Operation region) (target : Target region) : Option Role :=
  match operation with
  | .useGuard guard (.setRole role) => if guard.target = target then some role else none
  | .release guard next? => if guard.target = target then next? else none
  | _ => none

/-- The role that an event gives to a granule. -/
def Event.given? (event : Event region) (target : Target region) : Option Role :=
  if event.outcome = .noGuard then none else event.operation.gives? target

/-- The roles that events give to a granule, one after the other. -/
def Event.rolesGiven (events : List (Event region)) (target : Target region) : List Role :=
  events.filterMap (·.given? target)

/-- A step of a session that only looks something up. -/
def Step.IsLookup : Step → Prop
  | .bounds | .entries .. | .index _ | .find _ | .entryAt _ | .detachedAddress | .memoryInfo
  | .currentCpu | .isMapped .. => True
  | _ => False

/-- What is only looked up changes nothing. -/
theorem Session.step_of_lookup {session : Session region} {step : Step} (looksUp : step.IsLookup) :
    (session.step step).2 = session := by
  cases step with
  | bounds => rfl
  | entries skip take => rfl
  | index addr => rfl
  | find addr => rfl
  | memoryInfo => rfl
  | currentCpu => rfl
  | entryAt addr => exact answer_ofExcept _ _
  | detachedAddress => exact answer_ofExcept _ _
  | isMapped cpu slot => exact answer_ofExcept _ _
  | _ => exact looksUp.elim

theorem Operation.gives?_eq_some_iff {operation : Operation region} {target : Target region}
    {role : Role} :
    operation.gives? target = some role ↔
      operation = .useGuard ⟨target⟩ (.setRole role) ∨
        operation = .release ⟨target⟩ (some role) := by
  cases operation with
  | useGuard guard call =>
    obtain ⟨held⟩ := guard
    cases call with
    | setRole given =>
      by_cases same : held = target <;> simp [gives?, same]
    | _ => simp [gives?]
  | release guard next? =>
    obtain ⟨held⟩ := guard
    by_cases same : held = target <;> simp [gives?, same]
  | _ => simp [gives?]

/-- Using a guard leaves the role as it is, unless it is used to give one. -/
theorem Descriptor.role_afterUse (descriptor : Descriptor) {call : GuardCall}
    (other : ∀ role, call ≠ .setRole role) : (descriptor.afterUse call).role = descriptor.role := by
  cases call with
  | setRole role => exact absurd rfl (other role)
  | raise added =>
    cases raised : descriptor.raise added with
    | error cause => simp [afterUse, raised, Except.toOption]
    | ok after => simpa [afterUse, raised, Except.toOption] using (raise_eq_ok_iff.mp raised).1
  | lower removed =>
    cases lowered : descriptor.lower removed with
    | error cause => simp [afterUse, lowered, Except.toOption]
    | ok after => simpa [afterUse, lowered, Except.toOption] using (lower_eq_ok_iff.mp lowered).1
  | _ => rfl

namespace Custody

/-- The role of a granule. -/
def role (custody : Custody region) (target : Target region) : Role :=
  (custody.monitor.store.get target).role

section Steps

variable {custody : Custody region} {operation : Operation region} {target : Target region}
  {guard : Guard region}

/-- A live guard gives its granule any role. -/
theorem step_setRole (mine : guard ∈ custody.live) (role : Role) :
    custody.step (.useGuard guard (.setRole role)) =
      (.replied .done,
        ⟨{ custody.monitor with
          store := custody.monitor.store.set guard.target
            { custody.monitor.store.get guard.target with role } },
          custody.live⟩) := by
  have ended : GuardCall.perform guard (.setRole role) custody.monitor =
      .ok .done { custody.monitor with
        store := custody.monitor.store.set guard.target
          { custody.monitor.store.get guard.target with role } } := rfl
  exact step_of_ok id ended (by simpa [Operation.guard?] using mine) rfl

/-- An effect of an operation that gives no role to a granule leaves the one that it has. -/
theorem role_of_effect {before after : Custody region} {outcome : Outcome region}
    (effect : Effect before operation outcome after) (none : operation.gives? target = none) :
    after.role target = before.role target := by
  unfold role
  cases effect with
  | kept store => rw [store]
  | granted nodup free store =>
    rw [store, Store.get_adjust_lock]
    split <;> rfl
  | used mine store =>
    rw [store, Store.afterUse, Store.get_set]
    split
    · next same =>
      subst same
      apply Descriptor.role_afterUse
      rintro role rfl
      simp [Operation.gives?] at none
    · rfl
  | released mine store =>
    rw [store, Store.get_set]
    split
    · next same =>
      subst same
      simp only [Operation.gives?, if_true] at none
      rw [none]
      rfl
    · rfl
  | abandoned mine store =>
    rw [store, Store.get_set]
    split
    · next same =>
      subst same
      rfl
    · rfl
  | @counted call place counted outcome monitor leads store =>
    rw [store, Store.afterCount, Store.get_set]
    split
    · next same =>
      subst same
      cases call <;> rfl
    · rfl

/-- A role is given through the live guard of the granule only. -/
theorem gives_of_given {role : Role}
    (given : Event.given? ⟨operation, (custody.step operation).1⟩ target = some role) :
    ⟨target⟩ ∈ custody.live ∧ operation.gives? target = some role := by
  unfold Event.given? at given
  split at given
  · contradiction
  next alive =>
  refine ⟨?_, given⟩
  by_contra dead
  apply alive
  have notAll : ¬ operation.guard?.all custody.live.contains := by
    rcases Operation.gives?_eq_some_iff.mp given with rfl | rfl <;>
      simpa [Operation.guard?] using dead
  exact congrArg Prod.fst (step_of_dead notAll)

/-- An operation whose guard is alive is carried out. -/
theorem step_ne_noGuard (alive : operation.guard?.all custody.live.contains) :
    (custody.step operation).1 ≠ .noGuard := by
  unfold step
  rw [if_pos alive]
  cases performed : operation.perform custody.monitor with
  | ok outcome last =>
    rintro rfl
    cases operation <;>
      obtain ⟨_, _, -, ended⟩ := Act.bind_apply_eq_ok_iff.mp performed <;> cases ended
  | error halt last => cases halt <;> simp

/-- After an operation whose guard is alive, a granule has the role that the operation gives to it,
or else the one that it had. -/
theorem role_step_of_alive (alive : operation.guard?.all custody.live.contains)
    (target : Target region) :
    (custody.step operation).2.role target =
      (operation.gives? target).getD (custody.role target) := by
  cases gives : operation.gives? target with
  | none => exact role_of_effect (custody.step_effect operation) gives
  | some given =>
    rcases Operation.gives?_eq_some_iff.mp gives with rfl | rfl
    · have mine : ⟨target⟩ ∈ custody.live := by simpa [Operation.guard?] using alive
      rw [step_setRole mine]
      simp [role]
    · have mine : ⟨target⟩ ∈ custody.live := by simpa [Operation.guard?] using alive
      rw [step_release mine]
      simp [role, Descriptor.become, Descriptor.unlock]

/-- After an operation, a granule has the role that was given to it, or else the one that it
had. -/
theorem role_step (custody : Custody region) (operation : Operation region)
    (target : Target region) :
    (custody.step operation).2.role target =
      (Event.given? ⟨operation, (custody.step operation).1⟩ target).getD (custody.role target) := by
  by_cases alive : operation.guard?.all custody.live.contains
  · unfold Event.given?
    rw [if_neg (step_ne_noGuard alive)]
    exact role_step_of_alive alive target
  · rw [step_of_dead alive]
    rfl

/-- A role changes only if the live guard of the granule gives it another one. -/
theorem gives_of_role_ne (changed : (custody.step operation).2.role target ≠ custody.role target) :
    ⟨target⟩ ∈ custody.live ∧
      operation.gives? target = some ((custody.step operation).2.role target) := by
  have after := custody.role_step operation target
  cases given : Event.given? ⟨operation, (custody.step operation).1⟩ target with
  | none =>
    rw [given] at after
    exact absurd after changed
  | some role =>
    rw [given] at after
    rw [after]
    exact gives_of_given given

/-- A guard stays alive unless it is given back or lost. -/
theorem live_of_effect {before after : Custody region} {outcome : Outcome region}
    (effect : Effect before operation outcome after) (mine : guard ∈ before.live)
    (kept : operation.returned? ≠ some guard) : guard ∈ after.live := by
  cases effect with
  | granted => exact List.mem_append_left _ mine
  | released =>
    have differs : guard ≠ _ := fun same => kept (congrArg some same.symm)
    exact (List.mem_erase_of_ne differs).mpr mine
  | abandoned =>
    have differs : guard ≠ _ := fun same => kept (congrArg some same.symm)
    exact (List.mem_erase_of_ne differs).mpr mine
  | _ => exact mine

/-- A guard that is not alive comes to life by the outcome of an operation only. -/
theorem dead_of_effect {before after : Custody region} {outcome : Outcome region}
    (effect : Effect before operation outcome after) (dead : guard ∉ before.live)
    (absent : guard ∉ outcome.guards) : guard ∉ after.live := by
  cases effect with
  | granted nodup free store =>
    intro mine
    rcases List.mem_append.mp mine with old | new
    · exact dead old
    · exact absent new
  | released => exact fun mine => dead (List.mem_of_mem_erase mine)
  | abandoned => exact fun mine => dead (List.mem_of_mem_erase mine)
  | _ => exact dead

end Steps

section Runs

variable {custody : Custody region} {guard : Guard region}

/-- After a run, a granule has the role that was given to it last, or else the one that it had. -/
theorem role_play (operations : List (Operation region)) (custody : Custody region)
    (target : Target region) :
    (custody.play operations).2.role target =
      (Event.rolesGiven (custody.play operations).1 target).getLast?.getD
        (custody.role target) := by
  induction operations generalizing custody with
  | nil => rfl
  | cons first rest inductionHypothesis =>
    have firstRole := custody.role_step first target
    rw [play_cons]
    dsimp only
    rw [inductionHypothesis, firstRole, Event.rolesGiven, Event.rolesGiven, List.filterMap_cons]
    split
    · next none =>
      rw [none]
      rfl
    · next role given =>
      rw [given, List.getLast?_cons]
      rfl

/-- A guard is alive as long as it is neither given back nor lost. -/
theorem live_play {operations : List (Operation region)} (mine : guard ∈ custody.live)
    (kept : ∀ operation ∈ operations, operation.returned? ≠ some guard) :
    guard ∈ (custody.play operations).2.live := by
  induction operations generalizing custody with
  | nil => exact mine
  | cons first rest inductionHypothesis =>
    obtain ⟨firstKept, laterKept⟩ := List.forall_mem_cons.mp kept
    exact inductionHypothesis (live_of_effect (custody.step_effect first) mine firstKept) laterKept

/-- As long as its guard is not handed out, a granule stays without a guard and keeps its role. -/
theorem role_play_of_dead {operations : List (Operation region)} (dead : guard ∉ custody.live)
    (absent : ∀ event ∈ (custody.play operations).1, guard ∉ event.outcome.guards) :
    guard ∉ (custody.play operations).2.live ∧
      (custody.play operations).2.role guard.target = custody.role guard.target := by
  induction operations generalizing custody with
  | nil => exact ⟨dead, rfl⟩
  | cons first rest inductionHypothesis =>
    rw [play_cons] at absent ⊢
    obtain ⟨firstAbsent, laterAbsent⟩ := List.forall_mem_cons.mp absent
    obtain ⟨stillDead, sameRole⟩ :=
      inductionHypothesis (dead_of_effect (custody.step_effect first) dead firstAbsent) laterAbsent
    refine ⟨stillDead, sameRole.trans ?_⟩
    by_contra changed
    exact dead (gives_of_role_ne changed).1

end Runs

/-- A granule is there to be locked, in one role only. -/
structure Offers (custody : Custody region) (target : Target region) (offered : Role) : Prop where
  /-- The lock is free, and the role is compared with the offered one. -/
  attempt : ∀ expected, (custody.monitor.store.get target).attempt expected =
    if expected = offered then .taken else .mismatch offered
  /-- Whoever gets the granule has asked for it in the offered role. -/
  granted : ∀ {call : Acquisition} {expected}, call.Expects target expected →
    call.Grants custody.monitor → expected = offered
  /-- Whoever asks for it in the offered role gets it, if nothing else is in the way. -/
  decides : ∀ {call : Acquisition} {expected}, call.HingesOn custody.monitor target →
    call.Expects target expected → (call.Grants custody.monitor ↔ expected = offered)

/-- A granule without a guard is offered in the role that it has. -/
theorem offers_of_dead {custody : Custody region} (sound : custody.Sound) {target : Target region}
    (dead : ⟨target⟩ ∉ custody.live) : custody.Offers target (custody.role target) := by
  have free : (custody.monitor.store.get target).locked = false := by
    rw [← Bool.not_eq_true, sound.locked_iff]
    exact dead
  constructor
  · intro expected
    simp only [Descriptor.attempt, free, role, eq_comm (a := expected)]
    rfl
  · intro call expected expects grants
    exact (Acquisition.role_of_grants grants expects).symm
  · intro call expected hinges expects
    rw [Acquisition.grants_iff_role hinges free expects, role, eq_comm]

/-- A locking operation that is carried out gives the guards of free granules, and it has found each
of them in the one role that it asked for. -/
theorem role_of_acquired {custody : Custody region} {call : Acquisition}
    {acquired : Acquired region} {guard : Guard region}
    (ended : (custody.step (.acquire call)).1 = .acquired acquired)
    (mine : guard ∈ acquired.toList) :
    guard ∈ (custody.step (.acquire call)).2.live ∧
      ∀ role, call.Expects guard.target role ↔
        role = (custody.step (.acquire call)).2.role guard.target := by
  have unchanged : (custody.step (.acquire call)).2.role guard.target =
      custody.role guard.target := role_of_effect (custody.step_effect _) rfl
  rw [unchanged]
  simp only [step, Operation.guard?, Option.all_none, if_true, Operation.perform,
    Act.bind_apply] at ended ⊢
  cases performed : call.perform custody.monitor with
  | error halt last =>
    rw [performed] at ended
    cases halt <;> cases ended
  | ok result last =>
    rw [performed] at ended
    obtain rfl := Outcome.acquired.inj ended
    obtain ⟨-, free, -⟩ := (call.seizes custody.monitor).granted performed
    obtain ⟨-, needs⟩ := free guard mine
    have grants : call.Grants custody.monitor := by
      cases result with
      | granted guards => exact ⟨guards, last, performed⟩
      | nothing => exact absurd mine List.not_mem_nil
      | refused reason => exact absurd mine List.not_mem_nil
    refine ⟨List.mem_append_right _ mine, fun role => ⟨fun expects => ?_, ?_⟩⟩
    · exact (Acquisition.role_of_grants grants expects).symm
    · rintro rfl
      obtain ⟨role, expects⟩ := Acquisition.expects_of_needs needs
      have same := Acquisition.role_of_grants grants expects
      unfold Custody.role
      rwa [same]

/-- The guard owns the role. After every run on a new table the following holds. A role changes only
by giving the granule another one through its live guard; look-ups do not change anything at all.
From being locked until being given back or lost, the guard is alive and shows the last role that
was given through it, or else the one that the granule was asked for in. When it is gone, with or
without a fault, the granule is offered in the role that was left, until somebody locks it. -/
theorem guard_owns_role (memory : Memory) (operations : List (Operation region)) :
    let custody := ((start (Monitor.create region memory)).play operations).2
    (∀ operation target, (custody.step operation).2.role target ≠ custody.role target →
      ⟨target⟩ ∈ custody.live ∧
        operation.gives? target = some ((custody.step operation).2.role target)) ∧
      (∀ (session : Session region) (step : Step), step.IsLookup →
        (session.step step).2 = session) ∧
      (∀ call acquired, (custody.step (.acquire call)).1 = .acquired acquired →
        ∀ guard ∈ acquired.toList, ∃ expected,
          (∀ role, call.Expects guard.target role ↔ role = expected) ∧
            ∀ later, (∀ operation ∈ later, operation.returned? ≠ some guard) →
              let run := (custody.step (.acquire call)).2.play later
              guard ∈ run.2.live ∧
                guard.role run.2.monitor =
                  .ok ((Event.rolesGiven run.1 guard.target).getLast?.getD expected)
                    run.2.monitor) ∧
      ∀ guard ∈ custody.live, ∀ operation, operation.returned? = some guard →
        ∀ later, let run := (custody.step operation).2.play later
          (∀ event ∈ run.1, guard ∉ event.outcome.guards) →
            run.2.Offers guard.target
              ((operation.gives? guard.target).getD (custody.role guard.target)) := by
  intro custody
  have sound : custody.Sound := (Sound.start memory).play operations
  refine ⟨fun _ _ changed => gives_of_role_ne changed, fun _ _ => Session.step_of_lookup, ?_, ?_⟩
  · intro call acquired ended guard mine
    obtain ⟨live, expects⟩ := role_of_acquired ended mine
    refine ⟨_, expects, fun later kept => ⟨live_play live kept, ?_⟩⟩
    rw [← role_play]
    rfl
  · intro guard mine operation returns later run absent
    have soundStep := sound.of_effect (custody.step_effect operation)
    have dead : guard ∉ (custody.step operation).2.live := by
      rw [live_step_of_returned returns mine]
      exact fun stays => (sound.nodup.mem_erase_iff.mp stays).1 rfl
    obtain ⟨stillDead, sameRole⟩ := role_play_of_dead dead absent
    have offers := offers_of_dead (soundStep.play later) stillDead
    have left : run.2.role guard.target =
        (operation.gives? guard.target).getD (custody.role guard.target) := by
      have alive : operation.guard?.all custody.live.contains := by
        cases operation <;> cases returns <;> simpa [Operation.guard?] using mine
      rw [sameRole, role_step_of_alive alive]
    rwa [left] at offers

/-- A granule that was locked as nonsecure shows that it was delegated meanwhile, and is offered as
delegated although its release finds a fault. -/
theorem mishandling_offers :
    let custody := ((start (Monitor.create threeGranules .absent)).play mishandling).2
    lowest.role custody.monitor = .ok .delegated custody.monitor ∧
      (custody.step (.release lowest none)).1 = .halted (.fault (.delegatedInUse 1)) ∧
      (custody.step (.release lowest none)).2.Offers lowest.target .delegated := by
  have acquired : ((start (Monitor.create threeGranules .absent)).step
      (.acquire (.lockSet [⟨0x2000, .nonsecure⟩, ⟨0x1000, .nonsecure⟩]))).1 =
        .acquired (.granted [middle, lowest]) := by
    decide +kernel
  obtain ⟨expected, -, shows⟩ := (guard_owns_role .absent []).2.2.1 _ _ acquired lowest
    (by decide)
  obtain ⟨mine, showsRole⟩ := shows mishandling.tail (by decide)
  have given : Event.rolesGiven
      ((((start (Monitor.create threeGranules .absent)).play []).2.step
        (.acquire (.lockSet [⟨0x2000, .nonsecure⟩, ⟨0x1000, .nonsecure⟩]))).2.play
          mishandling.tail).1 lowest.target = [.delegated] := by
    decide +kernel
  rw [given] at showsRole
  have offers := (guard_owns_role .absent mishandling).2.2.2 lowest mine (.release lowest none) rfl
    [] (by simp [play])
  have left : ((Operation.release lowest none).gives? lowest.target).getD
      (((start (Monitor.create threeGranules .absent)).play mishandling).2.role lowest.target) =
        .delegated := by
    decide +kernel
  rw [left] at offers
  exact ⟨showsRole, by decide +kernel, offers⟩

end Custody

end GranuleMonitor
