import GranuleMonitor.Proofs.Benchmark.Interruption
import GranuleMonitor.Proofs.Benchmark.Task
import Mathlib.Logic.Function.Iterate

/-!
# The workload that changes a role

`Workload.lockTransition` expects one role after the other, round and round, whether or not the
granule has it. A granule that begins in another role than the first one is left alone until its
own role comes up, and keeps in step from then on: `Role.afterExecutions`. A run is a sequence of
phases, `Workload.Phase`, and an execution leads from each to the next. Only where a granule with
references is to be delegated it halts, which is either at the very beginning or after a whole
round: `Role.turn`. `Workload.Transits` says what this comes to for a measurement.
-/

namespace GranuleMonitor

variable {region : Region} {σ : Type}

namespace Role

theorem number_injective : Function.Injective number := by
  intro role other same
  have read := ofNumber?_number role
  rw [same, ofNumber?_number, Option.some.injEq] at read
  exact read.symm

theorem number_lt (role : Role) : role.number < count := by
  cases role <;> decide

/-- The roles are expected in a circle. -/
theorem number_iterate_next (done : Nat) : (next^[done] .initial).number = done % count := by
  induction done with
  | zero => rfl
  | succ done inductionHypothesis =>
    rw [Function.iterate_succ_apply', number_next, inductionHypothesis, Nat.mod_add_mod]

/-- A role comes up when its number does. -/
theorem iterate_next_eq_iff {done : Nat} {role : Role} :
    next^[done] .initial = role ↔ done % count = role.number := by
  rw [← number_iterate_next]
  exact number_injective.eq_iff.symm

/-- The role that a granule has after a number of executions: its own one until that is expected,
and then the expected one. -/
def afterExecutions (origin : Role) (done : Nat) : Role :=
  if origin.number ≤ done then next^[done] .initial else origin

variable (origin : Role) (done : Nat)

/-- Until its own role is expected the granule has that one. -/
theorem afterExecutions_of_le (waiting : done ≤ origin.number) :
    origin.afterExecutions done = origin := by
  unfold afterExecutions
  split
  next caughtUp =>
    rw [iterate_next_eq_iff, Nat.le_antisymm waiting caughtUp]
    exact Nat.mod_eq_of_lt origin.number_lt
  next => rfl

/-- The granule has the expected role from the time on at which that is its own one. -/
theorem afterExecutions_eq_iff :
    origin.afterExecutions done = next^[done] .initial ↔ origin.number ≤ done := by
  unfold afterExecutions
  split
  next caughtUp => exact iff_of_true rfl caughtUp
  next ahead =>
    refine iff_of_false (fun same => ahead ?_) ahead
    rw [eq_comm, iterate_next_eq_iff] at same
    exact same ▸ Nat.mod_le done count

/-- If the granule has the expected role it goes on to the next one, and otherwise it stays. -/
theorem afterExecutions_succ :
    origin.afterExecutions (done + 1) =
      if origin.afterExecutions done = next^[done] .initial then (next^[done] .initial).next
      else origin.afterExecutions done := by
  simp only [afterExecutions_eq_iff]
  split
  next caughtUp =>
    rw [afterExecutions, if_pos (Nat.le_succ_of_le caughtUp), Function.iterate_succ_apply']
  next ahead =>
    rw [origin.afterExecutions_of_le _ (Nat.lt_of_not_le ahead),
      origin.afterExecutions_of_le _ (Nat.le_of_not_le ahead)]

/-- How many executions come before the one that takes the granule from the first role to the
second. -/
def turn : Nat := if origin = .initial then 0 else count

/-- At its turn the first role is expected again, -/
theorem iterate_next_turn : next^[origin.turn] .initial = .initial := by
  unfold turn
  split <;> rfl

/-- and the granule has it. -/
theorem number_le_turn : origin.number ≤ origin.turn := by
  cases origin <;> decide

/-- Before its turn the granule is not taken from the first role to the second. -/
theorem initial_not_matched {done : Nat} (early : done < origin.turn)
    (matched : origin.afterExecutions done = next^[done] .initial) :
    next^[done] .initial ≠ .initial := by
  rw [afterExecutions_eq_iff] at matched
  rw [Ne, iterate_next_eq_iff]
  unfold turn at early
  split at early
  next => omega
  next other =>
    intro first
    rw [Nat.mod_eq_of_lt early] at first
    rw [first] at matched
    exact other (number_injective (Nat.le_zero.mp matched))

theorem next_eq_delegated_iff {role : Role} : role.next = .delegated ↔ role = .initial := by
  cases role <;> decide

end Role

namespace Store

/-- The store with another role for the first granule, and all else as it is. -/
def assign (store : Store region) (role : Role) : Store region :=
  store.set region.first { store.get region.first with role }

@[simp]
theorem get_first_assign (store : Store region) (role : Role) :
    (store.assign role).get region.first = { store.get region.first with role } :=
  get_set_self _ _ _

/-- The first granule may be given the role that it has. -/
theorem assign_self (store : Store region) :
    store.assign (store.get region.first).role = store := set_get_self _ _

end Store

namespace Workload

variable {timer : Timer} {store : Store region} {bench : Bench region σ} {done : Nat}

/-- Where a run of `Workload.lockTransition` that began with a store is after a number of
executions. -/
structure Phase (store : Store region) (done : Nat) (bench : Bench region σ) : Prop where
  expected : bench.role = Role.next^[done] .initial
  store : bench.monitor.store =
    store.assign ((store.get region.first).role.afterExecutions done)

namespace Phase

variable (free : (store.get region.first).locked = false) (phase : Phase store done bench)
include free phase

/-- What an exchange does: the granule has the expected role if its own one has been expected. -/
theorem exchange_eq (next : Role) :
    exchange bench.role next bench.monitor =
      if (store.get region.first).role.number ≤ done then
        Act.failIf { store.get region.first with role := next }.releaseFault?
          { bench.monitor with store := store.assign next }
      else
        .ok () { bench.monitor with
          log := bench.monitor.log.push
            (.roleMismatch (store.get region.first).role bench.role) } := by
  have present : bench.monitor.store.get region.first =
      { store.get region.first with
        role := (store.get region.first).role.afterExecutions done } := by
    rw [phase.store, Store.get_first_assign]
  have unlocked : (bench.monitor.store.get region.first).locked = false := by rw [present, free]
  have replaced : bench.monitor.store.set region.first
      { store.get region.first with role := next } = store.assign next := by
    rw [phase.store, Store.assign, Store.set_set]
    rfl
  rw [exchange_apply unlocked, present, phase.expected, replaced]
  by_cases caughtUp : (store.get region.first).role.number ≤ done
  · rw [if_pos caughtUp, if_pos ((Role.afterExecutions_eq_iff _ _).mpr caughtUp)]
  · rw [if_neg caughtUp, if_neg (mt (Role.afterExecutions_eq_iff _ _).mp caughtUp),
      Role.afterExecutions_of_le _ _ (Nat.le_of_not_le caughtUp)]

/-- An execution succeeds if nobody refers to the granule or its turn is still to come. -/
theorem step (timer : Timer) (unblocked : (store.get region.first).references = 0 ∨
      done < (store.get region.first).role.turn) :
    ∃ time next, execute timer .lockTransition bench = .ok time next ∧
      Phase store (done + 1) next := by
  have exchanged := phase.exchange_eq free bench.role.next
  have expected : bench.role.next = Role.next^[done + 1] .initial := by
    rw [phase.expected, Function.iterate_succ_apply']
  have matched_iff := (store.get region.first).role.afterExecutions_eq_iff done
  by_cases caughtUp : (store.get region.first).role.number ≤ done
  · have matched := matched_iff.mpr caughtUp
    have inOrder :
        { store.get region.first with role := bench.role.next }.releaseFault? = none := by
      rw [Descriptor.releaseFault?_eq_none_iff]
      intro delegated
      -- the granule is delegated only where the first role is expected, and that is its turn
      refine unblocked.resolve_right fun early => ?_
      rw [Role.next_eq_delegated_iff, phase.expected] at delegated
      exact Role.initial_not_matched _ early matched delegated
    rw [if_pos caughtUp, inOrder] at exchanged
    refine ⟨_, _, execute_eq_ok_iff.mpr ⟨_, exchanged, rfl, rfl⟩, expected, ?_⟩
    rw [Role.afterExecutions_succ, if_pos matched, ← phase.expected]
  · rw [if_neg caughtUp] at exchanged
    refine ⟨_, _, execute_eq_ok_iff.mpr ⟨_, exchanged, rfl, rfl⟩, expected, ?_⟩
    rw [Role.afterExecutions_succ, if_neg (mt matched_iff.mp caughtUp)]
    exact phase.store

/-- A granule with references cannot be given back as a delegated one. -/
theorem halt (timer : Timer) (turn : done = (store.get region.first).role.turn)
    (referenced : (store.get region.first).references ≠ 0) :
    ∃ last, execute timer .lockTransition bench =
        .error (.fault (.delegatedInUse (store.get region.first).references)) last ∧
      last.role = .initial ∧ last.monitor.store = store.assign .delegated := by
  subst turn
  have first : bench.role = .initial := phase.expected.trans (Role.iterate_next_turn _)
  have delegated : bench.role.next = .delegated := Role.next_eq_delegated_iff.mpr first
  have fault : { store.get region.first with role := .delegated }.releaseFault? =
      some (.delegatedInUse (store.get region.first).references) :=
    Descriptor.releaseFault?_eq_some_iff.mpr ⟨rfl, referenced, rfl⟩
  have ended : lockTransition.task bench.generator bench.role bench.dice bench.monitor =
      .error (.fault (.delegatedInUse (store.get region.first).references))
        { bench.monitor with store := store.assign .delegated } := by
    rw [task, phase.exchange_eq free, if_pos (Role.number_le_turn _), delegated, fault]
    rfl
  exact ⟨_, execute_eq_error_iff.mpr ⟨_, ended, rfl⟩, first, rfl⟩

/-- After the executions a granule that has been caught up with becomes non-secure. -/
theorem conclusion_eq :
    ∃ monitor, lockTransition.conclusion bench.role bench.monitor = .ok () monitor ∧
      monitor.store = store.assign (if (store.get region.first).role.number ≤ done
        then .nonsecure else (store.get region.first).role) := by
  have exchanged := phase.exchange_eq free .nonsecure
  rw [conclusion, exchanged]
  split
  next caughtUp =>
    rw [Descriptor.releaseFault?_of_nonsecure rfl]
    exact ⟨_, rfl, rfl⟩
  next ahead =>
    refine ⟨_, rfl, ?_⟩
    rw [← Role.afterExecutions_of_le _ _ (Nat.le_of_not_le ahead)]
    exact phase.store

end Phase

/-- A granule that was left delegated is not touched any more. -/
theorem conclusion_of_delegated {monitor : Monitor region}
    (free : (store.get region.first).locked = false)
    (left : monitor.store = store.assign .delegated) :
    ((lockTransition.conclusion .initial).after monitor).store = monitor.store := by
  have present := congrArg (·.get region.first) left
  simp only [Store.get_first_assign] at present
  have unlocked : (monitor.store.get region.first).locked = false := by rw [present, free]
  have differs : (monitor.store.get region.first).role ≠ .initial := by
    simp [present, Role.initial]
  rw [Act.after, conclusion, exchange_apply unlocked, if_neg differs]

/-- A run goes on for as long as nobody refers to the granule, and up to its turn otherwise. -/
theorem exists_run (free : (bench.monitor.store.get region.first).locked = false) (timer : Timer)
    (count : Nat) (unblocked : (bench.monitor.store.get region.first).references = 0 ∨
      count ≤ (bench.monitor.store.get region.first).role.turn) :
    ∃ times last, Executions timer .lockTransition bench.prepared times last ∧
      times.length = count ∧ Phase bench.monitor.store count last := by
  have start : Phase bench.monitor.store 0 bench.prepared := by
    refine ⟨rfl, ?_⟩
    rw [Role.afterExecutions_of_le _ _ (Nat.zero_le _), Store.assign_self, Bench.monitor_prepared]
  have step (done : Nat) (within : done < count) (bench' : Bench region σ)
      (phase : Phase bench.monitor.store done bench') :=
    phase.step free timer (unblocked.imp_right (Nat.lt_of_lt_of_le within))
  obtain ⟨times, last, run, length, phase⟩ :=
    Executions.exists_of_step_until step count (Nat.le_of_eq (Nat.zero_add _)) start
  exact ⟨times, last, run, length, by rwa [Nat.zero_add] at phase⟩

/-- A granule with references is to be delegated in one of a number of executions: in the first one
if it is non-secure, and in the eighth one if it is not. -/
def Blocks (bench : Bench region σ) (executions : Nat) : Prop :=
  (bench.monitor.store.get region.first).references ≠ 0 ∧
    ((bench.monitor.store.get region.first).role = .nonsecure ∧ 1 ≤ executions ∨
      (bench.monitor.store.get region.first).role ≠ .nonsecure ∧ 8 ≤ executions)

theorem blocks_iff {executions : Nat} :
    Blocks bench executions ↔ (bench.monitor.store.get region.first).references ≠ 0 ∧
      (bench.monitor.store.get region.first).role.turn < executions := by
  refine and_congr_right fun _ => ?_
  unfold Role.turn
  by_cases first : (bench.monitor.store.get region.first).role = .initial
  · have nonsecure : (bench.monitor.store.get region.first).role = .nonsecure := first
    simp [nonsecure, Role.initial, Nat.lt_iff_add_one_le]
  · have secure : (bench.monitor.store.get region.first).role ≠ .nonsecure := first
    simp [secure, Role.initial, Role.count, Nat.lt_iff_add_one_le]

/-- What becomes of the first granule when the change of its role is measured. -/
structure Transits (timer : Timer) (options : BenchOptions) (bench : Bench region σ) : Prop where
  /-- All executions succeed unless one of them is to delegate a granule with references. The
  granule is non-secure in the end if its role was expected at some time, and is left alone if
  not. -/
  completes : ¬ Blocks bench options.executions →
    ∃ summary last, lockTransition.measure timer options bench = .ok summary last ∧
      last.stops = bench.stops + options.executions ∧
      last.monitor.store = bench.monitor.store.assign
        (if (bench.monitor.store.get region.first).role.number ≤ options.executions
          then .nonsecure else (bench.monitor.store.get region.first).role)
  /-- Otherwise the execution halts that finds the granule non-secure and delegates it. This is the
  first or the eighth one, and the granule stays delegated. -/
  halts : Blocks bench options.executions →
    ∃ times before broken last,
      Executions timer .lockTransition bench.prepared times before ∧
      times.length =
        (if (bench.monitor.store.get region.first).role = .nonsecure then 0 else 7) ∧
      before.monitor.store = bench.monitor.store.assign .nonsecure ∧
      execute timer .lockTransition before = .error (.fault
        (.delegatedInUse (bench.monitor.store.get region.first).references)) broken ∧
      broken.monitor.store = bench.monitor.store.assign .delegated ∧
      lockTransition.measure timer options bench = .error (.fault
        (.delegatedInUse (bench.monitor.store.get region.first).references)) last ∧
      last.stops = bench.stops + times.length ∧
      last.monitor.store = bench.monitor.store.assign .delegated

/-- A measurement of `Workload.lockTransition` on any table whose first granule is unlocked makes
that granule non-secure as soon as it has caught up with its role, and can fail only where the
granule has references and is delegated. -/
theorem lockTransition_transits (timer : Timer) (options : BenchOptions) {bench : Bench region σ}
    (sized : options.repetitions.toNat = bench.room.size)
    (free : (bench.monitor.store.get region.first).locked = false) :
    Transits timer options bench where
  completes unblocked := by
    rw [blocks_iff, not_and_or, Classical.not_not, Nat.not_lt] at unblocked
    obtain ⟨times, last, run, counted, phase⟩ :=
      exists_run free timer options.executions unblocked
    obtain ⟨monitor, concluded, store⟩ := phase.conclusion_eq free
    obtain ⟨output, ended⟩ := measure_of_executions sized rfl run counted concluded
    refine ⟨_, _, ended, ?_, store⟩
    exact run.stops_eq.trans (congrArg _ counted)
  halts blocked := by
    obtain ⟨referenced, late⟩ := blocks_iff.mp blocked
    obtain ⟨times, before, run, counted, phase⟩ :=
      exists_run free timer (bench.monitor.store.get region.first).role.turn (.inr (Nat.le_refl _))
    obtain ⟨broken, halted, first, delegated⟩ := phase.halt free timer rfl referenced
    have brokenOff : BrokenOff timer lockTransition bench.prepared times _ broken :=
      ⟨before, run, halted⟩
    obtain ⟨output, ended⟩ := measure_of_broken sized rfl brokenOff (counted ▸ late)
    have nonsecure := phase.store
    rw [(Role.afterExecutions_eq_iff _ _).mpr (Role.number_le_turn _), Role.iterate_next_turn]
      at nonsecure
    refine ⟨times, before, broken, _, run, counted, nonsecure, halted, delegated, ended,
      brokenOff.stops_eq, ?_⟩
    rw [first]
    exact (conclusion_of_delegated free delegated).trans delegated

/-- The lowest of three granules is a realm with five references. -/
def realmFirst : Bench threeGranules :=
  .start { Monitor.create threeGranules .absent with
    store := (Store.fresh threeGranules).set threeGranules.first ⟨.realm, 5, false⟩ } #[0]

/-- One execution does not get to the realm, seven of them bring it round, and the eighth one
halts. -/
theorem realmFirst_transits :
    (∃ summary last,
      lockTransition.measure (.replay #[7] 1000) ⟨1, 0, "desktop"⟩ realmFirst = .ok summary last ∧
        last.monitor.store.get threeGranules.first = ⟨.realm, 5, false⟩) ∧
      (∃ summary last,
        lockTransition.measure (.replay #[7] 1000) ⟨1, 6, "desktop"⟩ realmFirst =
          .ok summary last ∧
        last.monitor.store.get threeGranules.first = ⟨.nonsecure, 5, false⟩) ∧
      ∃ last,
        lockTransition.measure (.replay #[7] 1000) ⟨1, 7, "desktop"⟩ realmFirst =
          .error (.fault (.delegatedInUse 5)) last ∧
        last.monitor.store.get threeGranules.first = ⟨.delegated, 5, false⟩ := by
  have outcome (cold : UInt32) : Transits (.replay #[7] 1000) ⟨1, cold, "desktop"⟩ realmFirst :=
    lockTransition_transits _ _ rfl (by decide)
  refine ⟨?_, ?_, ?_⟩
  · have early : ¬ Blocks realmFirst 1 := by
      rw [blocks_iff]
      decide
    obtain ⟨summary, last, ended, -, store⟩ := (outcome 0).completes early
    exact ⟨summary, last, ended, by rw [store]; decide⟩
  · have inTime : ¬ Blocks realmFirst 7 := by
      rw [blocks_iff]
      decide
    obtain ⟨summary, last, ended, -, store⟩ := (outcome 6).completes inTime
    exact ⟨summary, last, ended, by rw [store]; decide⟩
  · have blocked : Blocks realmFirst 8 := by
      rw [blocks_iff]
      decide
    obtain ⟨-, -, -, last, -, -, -, -, -, ended, -, store⟩ := (outcome 7).halts blocked
    exact ⟨last, ended, by rw [store]; decide⟩

end Workload

end GranuleMonitor
