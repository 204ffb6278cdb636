import GranuleMonitor.Proofs.Benchmark.Statistics
import GranuleMonitor.Proofs.Benchmark.Transition

/-!
# The room for measurements

An execution either stops the timer once and gives what it shows, or it halts and leaves the timer
running. The executions of a measurement are therefore a run that is complete or broken off:
`Workload.executions_or_brokenOff`. Either way each execution that is measured and comes to its end
has its reading in its own place, and all other places are as before. `Workload.Recording` says so
for every workload, on whatever table it is measured.
-/

namespace GranuleMonitor

variable {region : Region} {σ : Type}

namespace Workload

variable {timer : Timer} {workload : Workload} {options : BenchOptions}
  {bench last : Bench region σ} {monitor final : Monitor region} {times : List UInt32}
  {halt : Halt region}

section Runs

/-- The executions come one after the other, until all of them have given a reading or one of them
halts. -/
theorem executions_or_brokenOff (timer : Timer) (workload : Workload) (bench : Bench region σ)
    (count : Nat) :
    (∃ times last, Executions timer workload bench times last ∧ times.length = count) ∨
      ∃ times halt last, BrokenOff timer workload bench times halt last ∧
        times.length < count := by
  induction count generalizing bench with
  | zero => exact .inl ⟨[], bench, .refl, rfl⟩
  | succ count inductionHypothesis =>
    cases executed : workload.execute timer bench with
    | error halt last =>
      exact .inr ⟨[], halt, last, ⟨bench, .refl, executed⟩, Nat.succ_pos count⟩
    | ok time next =>
      obtain ⟨times, last, run, length⟩ | ⟨times, halt, last, ⟨middle, run, halted⟩, short⟩ :=
        inductionHypothesis next
      · exact .inl ⟨time :: times, last, .step executed run, congrArg (· + 1) length⟩
      · exact .inr ⟨time :: times, halt, last, ⟨middle, .step executed run, halted⟩,
          Nat.succ_lt_succ short⟩

namespace Executions

variable (run : Executions timer workload bench times last)
include run

/-- A run has the reading of each execution in its position. -/
theorem getElem?_times (i : Nat) :
    times[i]? = if i < times.length then some (timer.reading (bench.stops + i)) else none := by
  rw [run.times_eq, List.getElem?_map, List.length_map, List.length_range']
  split
  next within => rw [List.getElem?_range' within, Option.map_some, Nat.one_mul]
  next beyond =>
    rw [List.getElem?_eq_none (by rw [List.length_range']; exact Nat.le_of_not_lt beyond),
      Option.map_none]

/-- Of a run that begins with warming up, each place holds the reading of its execution, or what it
held before if there is none. -/
theorem getElem?_recorded_drop {room : Array UInt32} {cold : Nat}
    (fits : times.length ≤ cold + room.size) (i : Nat) :
    (recorded room 0 (times.drop cold))[i]? =
      if cold + i < times.length then some (timer.reading (bench.stops + cold + i))
      else room[i]? := by
  rw [getElem?_recorded _ _ _ (by rw [List.length_drop]; omega), List.length_drop, Nat.sub_zero,
    List.getElem?_drop, run.getElem?_times]
  by_cases within : cold + i < times.length
  · rw [if_pos (by omega), if_pos within, if_pos within, Nat.add_assoc]
  · rw [if_neg (by omega), if_neg within]

end Executions

end Runs

section Conclusion

theorem exchange_of_held (held : (monitor.store.get region.first).locked = true)
    (expected next : Role) :
    exchange expected next monitor = .error (.waiting region.first) monitor := by
  rw [exchange, Act.bind_apply, Target.lockOnMatch_apply,
    Descriptor.attempt_eq_held_iff.mpr held]

/-- Exchanging a role for itself leaves all descriptors as they are. -/
theorem store_after_exchange_self (role : Role) (monitor : Monitor region) :
    ((exchange role role).after monitor).store = monitor.store := by
  cases locked : (monitor.store.get region.first).locked with
  | true => rw [Act.after, exchange_of_held locked]
  | false =>
    rw [Act.after, exchange_apply locked]
    by_cases same : (monitor.store.get region.first).role = role
    · have kept : ({ monitor.store.get region.first with role } : Descriptor) =
          monitor.store.get region.first := by
        rw [← same]
      rw [if_pos same, kept, Store.set_get_self]
      cases (monitor.store.get region.first).releaseFault? <;> rfl
    · rw [if_neg same]

/-- An exchange that comes to its end has found the granule unlocked, and leaves it so. -/
theorem unlocked_of_exchange {expected next : Role}
    (ended : exchange expected next monitor = .ok () final) :
    (final.store.get region.first).locked = false := by
  cases locked : (monitor.store.get region.first).locked with
  | true =>
    rw [exchange_of_held locked] at ended
    cases ended
  | false =>
    rw [exchange_apply locked] at ended
    split at ended
    next =>
      cases fault : { monitor.store.get region.first with role := next }.releaseFault? with
      | some cause =>
        rw [fault] at ended
        cases ended
      | none =>
        rw [fault] at ended
        cases ended
        rw [Store.get_set_self]
        exact locked
    next =>
      cases ended
      exact locked

/-- Whatever the granule of `Workload.lockTransition` was like, an execution that gives a reading
leaves it unlocked. -/
theorem Executions.eq_nil_or_unlocked
    (run : Executions timer .lockTransition bench times last) :
    (times = [] ∧ last = bench) ∨ (last.monitor.store.get region.first).locked = false := by
  induction run with
  | refl => exact .inl ⟨rfl, rfl⟩
  | step executed _ inductionHypothesis =>
    obtain ⟨-, rfl⟩ | free := inductionHypothesis
    · obtain ⟨monitor, ended, -, rfl⟩ := execute_eq_ok_iff.mp executed
      exact .inr (unlocked_of_exchange ended)
    · exact .inr free

/-- A granule that is unlocked can always become non-secure. -/
theorem conclusion_of_unlocked (free : (monitor.store.get region.first).locked = false)
    (role : Role) :
    ∃ final, lockTransition.conclusion role monitor = .ok () final := by
  rw [conclusion, exchange_apply free]
  split
  next =>
    rw [Descriptor.releaseFault?_of_nonsecure rfl]
    exact ⟨_, rfl⟩
  next => exact ⟨_, rfl⟩

/-- A measurement cannot be stuck after its executions, but only in place of them. -/
theorem conclusion_ends_or_waits (run : Executions timer workload bench times last) :
    (∃ final, workload.conclusion last.role last.monitor = .ok () final) ∨
      workload = .lockTransition ∧ times = [] ∧
        (bench.monitor.store.get region.first).locked = true ∧
        workload.conclusion last.role last.monitor =
          .error (.waiting region.first) last.monitor := by
  by_cases moves : workload = .lockTransition
  · subst moves
    obtain ⟨rfl, rfl⟩ | free := run.eq_nil_or_unlocked
    · cases locked : (last.monitor.store.get region.first).locked with
      | true => exact .inr ⟨rfl, rfl, rfl, exchange_of_held locked _ _⟩
      | false => exact .inl (conclusion_of_unlocked locked _)
    · exact .inl (conclusion_of_unlocked free _)
  · cases workload with
    | lockTransition => exact absurd rfl moves
    | lockUnlock | findLock | findLockInvalid | atomicReferences | lockedReferences | zeroing
    | lockSet => exact .inl ⟨last.monitor, rfl⟩

/-- Before the first execution there is nothing to make up for. -/
theorem store_after_conclusion_initial (workload : Workload) (monitor : Monitor region) :
    ((workload.conclusion .initial).after monitor).store = monitor.store := by
  cases workload with
  | lockTransition => exact store_after_exchange_self .nonsecure monitor
  | lockUnlock | findLock | findLockInvalid | atomicReferences | lockedReferences | zeroing
  | lockSet => rfl

end Conclusion

/-- A trial in a room of the wrong size ends before anything happens. -/
theorem trial_of_mismatch (wrong : options.repetitions.toNat ≠ bench.room.size) :
    workload.trial timer options bench =
      .error (.fault (.roomMismatch options.repetitions.toNat bench.room.size)) bench := by
  simp only [trial, Trial.bind_apply, Trial.get_apply]
  rw [if_pos wrong]
  rfl

/-- The summary of as many measurements as there are repetitions is exact, or zero if there are
none. -/
theorem summary_of_repetitions {series : List UInt32}
    (counted : series.length = options.repetitions.toNat) :
    (series ≠ [] → Summary.Exact series) ∧ (series = [] → Summary.ofSeries series = ⟨0, 0, 0⟩) := by
  constructor
  · intro nonempty
    apply Summary.exact_of_ne_nil nonempty
    rw [counted]
    exact options.repetitions.toNat_lt
  · rintro rfl
    rfl

section Measurement

variable (sized : options.repetitions.toNat = bench.room.size)
  (run : Executions timer workload bench.prepared times last)
  (counted : times.length = options.executions)
include sized run counted

/-- The readings after warming up are as many as there are places, and each is in its own one. -/
theorem readings_of_executions :
    (times.drop options.coldStart.toNat).length = bench.room.size ∧
      ∀ i < bench.room.size, (times.drop options.coldStart.toNat).toArray[i]? =
        some (timer.reading (bench.stops + options.coldStart.toNat + i)) := by
  rw [BenchOptions.executions] at counted
  have places : (times.drop options.coldStart.toNat).length = bench.room.size := by
    rw [List.length_drop, counted, sized]
    exact Nat.add_sub_cancel_left _ _
  refine ⟨places, fun i within => ?_⟩
  rw [← recorded_eq_toArray places, run.getElem?_recorded_drop (by omega), if_pos (by omega)]
  rfl

/-- A measurement that cannot make up for its executions ends there, with all that it measured. -/
theorem measure_of_waiting (fits : workload.setupFault? region = none)
    (waits : workload.conclusion last.role last.monitor = .error halt last.monitor) :
    ∃ output, workload.measure timer options bench = .error halt { last with
      room := (times.drop options.coldStart.toNat).toArray, output } := by
  obtain ⟨output, ended⟩ : ∃ output, workload.trial timer options bench.prepared = _ :=
    trial_of_executions sized run counted
  refine ⟨output, ?_⟩
  simp only [measure, fits, Trial.bind_apply, Trial.prepare_apply, concluding, ended,
    conclude_apply, Trial.onMonitor_apply, waits]

end Measurement

/-- What a measurement does to the room, on any table. Here a run that is broken off may end with a
fault as well as with a lock that is never given back. -/
structure Recording (timer : Timer) (options : BenchOptions) (workload : Workload)
    (bench : Bench region σ) : Prop where
  /-- An execution that succeeds stops the timer once, and gives what it shows. -/
  reads : ∀ {before after : Bench region σ} {time : UInt32},
    workload.execute timer before = .ok time after →
      time = timer.reading before.stops ∧ after.stops = before.stops + 1
  /-- The executions come one after the other, until one of them halts. -/
  goes :
    (∃ times final, Executions timer workload bench.prepared times final ∧
      times.length = options.executions) ∨
    ∃ times halt final, BrokenOff timer workload bench.prepared times halt final ∧
      times.length < options.executions
  /-- If none of them halts, each place holds the reading of its execution, and the summary is the
  exact one of the room, or zero if there are no places. Only a measurement without executions may
  end up waiting. -/
  completes : ∀ {times : List UInt32} {final : Bench region σ},
    workload.setupFault? region = none → options.repetitions.toNat = bench.room.size →
    Executions timer workload bench.prepared times final → times.length = options.executions →
    ∃ last : Bench region σ,
      last.monitor = (workload.conclusion final.role).after final.monitor ∧
      last.stops = bench.stops + options.executions ∧
      last.room.size = bench.room.size ∧
      (∀ i < bench.room.size,
        last.room[i]? = some (timer.reading (bench.stops + options.coldStart.toNat + i))) ∧
      ((last.room.toList ≠ [] → Summary.Exact last.room.toList) ∧
        (last.room.toList = [] → Summary.ofSeries last.room.toList = ⟨0, 0, 0⟩)) ∧
      (workload.measure timer options bench = .ok (Summary.ofSeries last.room.toList) last ∨
        workload = .lockTransition ∧ options.executions = 0 ∧
          (bench.monitor.store.get region.first).locked = true ∧
          workload.measure timer options bench = .error (.waiting region.first) last)
  /-- If one of them halts, the places of those before it hold their readings, and all others what
  they held before. -/
  breaks : ∀ {times : List UInt32} {halt : Halt region} {final : Bench region σ},
    workload.setupFault? region = none → options.repetitions.toNat = bench.room.size →
    BrokenOff timer workload bench.prepared times halt final →
    times.length < options.executions →
    ∃ last : Bench region σ,
      workload.measure timer options bench = .error halt last ∧
      last.monitor = (workload.conclusion final.role).after final.monitor ∧
      last.stops = bench.stops + times.length ∧
      ∀ i, last.room[i]? =
        if options.coldStart.toNat + i < times.length then
          some (timer.reading (bench.stops + options.coldStart.toNat + i))
        else bench.room[i]?
  /-- In a room of the wrong size nothing is executed, printed or written. -/
  refuses : workload.setupFault? region = none → options.repetitions.toNat ≠ bench.room.size →
    ∃ last : Bench region σ,
      workload.measure timer options bench = .error
        (.fault (.roomMismatch options.repetitions.toNat bench.room.size)) last ∧
      last.stops = bench.stops ∧ last.output = bench.output ∧ last.room = bench.room ∧
      last.monitor.store = bench.monitor.store
  /-- What cannot be set up is not begun. -/
  impossible : ∀ {cause : Fault}, workload.setupFault? region = some cause →
    workload.measure timer options bench = .error (.fault cause) bench

/-- Whatever the table is like and however far a measurement gets, each reading is in its place. -/
theorem measure_records (timer : Timer) (options : BenchOptions) (workload : Workload)
    (bench : Bench region σ) : Recording timer options workload bench where
  reads executed := by
    obtain ⟨monitor, -, rfl, rfl⟩ := execute_eq_ok_iff.mp executed
    exact ⟨rfl, rfl⟩
  goes := executions_or_brokenOff timer workload bench.prepared options.executions
  completes {times final} fits sized run counted := by
    have stops : final.stops = bench.stops + options.executions :=
      run.stops_eq.trans (congrArg _ counted)
    obtain ⟨places, readings⟩ := readings_of_executions sized run counted
    have summary := summary_of_repetitions (places.trans sized.symm)
    obtain ⟨monitor, concluded⟩ | ⟨transition, none, held, waits⟩ :=
      conclusion_ends_or_waits run
    · obtain ⟨output, ended⟩ := measure_of_executions sized fits run counted concluded
      refine ⟨{ final with
        monitor, room := (times.drop options.coldStart.toNat).toArray, output }, ?_, stops, places,
        readings, summary, .inl ended⟩
      rw [Act.after, concluded]
    · obtain ⟨output, ended⟩ := measure_of_waiting sized run counted fits waits
      refine ⟨{ final with room := (times.drop options.coldStart.toNat).toArray, output }, ?_,
        stops, places, readings, summary, .inr ⟨transition, ?_, held, ended⟩⟩
      · rw [Act.after, waits]
      · rw [← counted, none, List.length_nil]
  breaks fits sized broken short := by
    obtain ⟨output, ended⟩ := measure_of_broken sized fits broken short
    refine ⟨_, ended, rfl, broken.stops_eq, fun i => ?_⟩
    obtain ⟨middle, run, -⟩ := broken
    exact run.getElem?_recorded_drop (by rw [BenchOptions.executions] at short; omega) i
  refuses fits wrong :=
    ⟨_, measure_of_trial_error fits (trial_of_mismatch wrong), rfl, rfl, rfl,
      store_after_conclusion_initial workload bench.monitor⟩
  impossible unfit := by
    simp only [measure, unfit]
    rfl

/-- The realm with five references is measured, and there are seven places. -/
def spacious : Bench threeGranules :=
  { realmFirst with room := #[70, 71, 72, 73, 74, 75, 76] }

/-- Seven executions fill the room, and are summarized. Of nine the eighth one halts, and with two
of them to warm up five places are written. Eight measurements do not fit in at all. -/
theorem spacious_records :
    (∃ last,
      lockTransition.measure (.counting 1000) ⟨7, 0, "desktop"⟩ spacious = .ok ⟨3, 0, 6⟩ last ∧
        last.room = #[0, 1, 2, 3, 4, 5, 6]) ∧
      (∃ last,
        lockTransition.measure (.counting 1000) ⟨7, 2, "desktop"⟩ spacious =
          .error (.fault (.delegatedInUse 5)) last ∧
        last.stops = 7 ∧ last.room[4]? = some 6 ∧ last.room[5]? = some 75) ∧
      ∃ last,
        lockTransition.measure (.counting 1000) ⟨8, 0, "desktop"⟩ spacious =
          .error (.fault (.roomMismatch 8 7)) last ∧
        last.room = spacious.room := by
  let timer : Timer := .counting 1000
  have records (options : BenchOptions) :
      Recording timer options lockTransition spacious := measure_records _ _ _ _
  have free : (spacious.monitor.store.get threeGranules.first).locked = false := by decide
  have turn : 7 = (spacious.monitor.store.get threeGranules.first).role.turn := by decide
  obtain ⟨times, middle, run, counted, phase⟩ :=
    exists_run free timer 7 (.inr (Nat.le_of_eq turn))
  refine ⟨?_, ?_, ?_⟩
  · obtain ⟨last, -, -, size, places, -, measured | ⟨-, none, -⟩⟩ :=
      (records ⟨7, 0, "desktop"⟩).completes rfl rfl run counted
    · have shown : ∀ i < 7, some (timer.reading (spacious.stops + 0 + i)) =
          (#[0, 1, 2, 3, 4, 5, 6] : Array UInt32)[i]? := by
        decide
      have full : last.room = #[0, 1, 2, 3, 4, 5, 6] := by
        refine Array.ext_getElem? fun i => ?_
        by_cases within : i < 7
        · exact (places i within).trans (shown i within)
        · rw [Array.getElem?_eq_none (size.trans_le (Nat.le_of_not_lt within)),
            Array.getElem?_eq_none (Nat.le_of_not_lt within)]
      rw [full] at measured
      exact ⟨last, measured, full⟩
    · exact absurd none (by decide)
  · obtain ⟨broken, halted, -, -⟩ := phase.halt free timer turn (by decide)
    obtain ⟨last, measured, -, stops, places⟩ :=
      (records ⟨7, 2, "desktop"⟩).breaks rfl rfl ⟨middle, run, halted⟩ (by rw [counted]; decide)
    rw [counted] at stops places
    exact ⟨last, measured, stops, places 4, places 5⟩
  · obtain ⟨last, measured, -, -, kept, -⟩ :=
      (records ⟨8, 0, "desktop"⟩).refuses rfl (by decide)
    exact ⟨last, measured, kept⟩

end Workload

end GranuleMonitor
