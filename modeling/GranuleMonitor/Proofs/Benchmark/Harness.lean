import GranuleMonitor.Proofs.Benchmark.Execution

/-!
# Measuring, execution by execution

`Workload.Executions` is a run of executions that all give a reading. The readings are those that
the timer shows one after the other, and the run does not depend on the room for measurements or on
what has been printed. Warming up goes along such a run (`Workload.warmUp_add`), and so does filling
the room, which puts each reading in its place (`Workload.fillRoom_add`). A whole measurement is
`Workload.measure_of_executions`.
-/

namespace GranuleMonitor

variable {region : Region} {σ : Type}

namespace BenchOptions

/-- How many times each workload is executed. -/
def executions (options : BenchOptions) : Nat :=
  options.coldStart.toNat + options.repetitions.toNat

end BenchOptions

namespace Workload

variable {timer : Timer} {workload : Workload} {bench next last : Bench region σ} {time : UInt32}
  {times : List UInt32}

/-- An execution that gives a reading stops the timer once and leaves room and output alone. -/
theorem execute_eq_ok_iff :
    workload.execute timer bench = .ok time next ↔
      ∃ monitor,
        workload.task bench.generator bench.role bench.dice bench.monitor = .ok () monitor ∧
        time = timer.reading bench.stops ∧
        next = { bench with
          monitor
          role := workload.nextRole bench.role
          dice := workload.nextDice region bench.generator bench.dice
          stops := bench.stops + 1 } := by
  rw [execute_apply]
  cases workload.task bench.generator bench.role bench.dice bench.monitor with
  | ok _ monitor => simp [eq_comm]
  | error halt monitor => simp

/-- A run of executions that all give a reading. -/
inductive Executions (timer : Timer) (workload : Workload) :
    Bench region σ → List UInt32 → Bench region σ → Prop where
  | refl {bench : Bench region σ} : Executions timer workload bench [] bench
  | step {bench next last : Bench region σ} {time : UInt32} {times : List UInt32}
      (executed : workload.execute timer bench = .ok time next)
      (rest : Executions timer workload next times last) :
      Executions timer workload bench (time :: times) last

namespace Executions

/-- Every execution of a run stops the timer once. -/
theorem stops_eq (run : Executions timer workload bench times last) :
    last.stops = bench.stops + times.length := by
  induction run with
  | refl => rfl
  | step executed _ inductionHypothesis =>
    obtain ⟨monitor, -, -, rfl⟩ := execute_eq_ok_iff.mp executed
    rw [inductionHypothesis, List.length_cons]
    exact Nat.add_right_comm _ _ _

/-- The readings of a run are those that the timer shows one after the other. -/
theorem times_eq (run : Executions timer workload bench times last) :
    times = (List.range' bench.stops times.length).map timer.reading := by
  induction run with
  | refl => rfl
  | step executed _ inductionHypothesis =>
    obtain ⟨monitor, -, rfl, rfl⟩ := execute_eq_ok_iff.mp executed
    rw [List.length_cons, List.range'_succ, List.map_cons, ← inductionHypothesis]

/-- A run leaves the room and the output alone. -/
theorem room_output_eq (run : Executions timer workload bench times last) :
    last.room = bench.room ∧ last.output = bench.output := by
  induction run with
  | refl => exact ⟨rfl, rfl⟩
  | step executed _ inductionHypothesis =>
    obtain ⟨monitor, -, -, rfl⟩ := execute_eq_ok_iff.mp executed
    exact inductionHypothesis

/-- A run does not depend on the room and on what has been printed. -/
theorem equip (run : Executions timer workload bench times last) (room : Array UInt32)
    (output : String) :
    Executions timer workload { bench with room, output } times { last with room, output } := by
  induction run with
  | refl => exact .refl
  | step executed _ inductionHypothesis =>
    obtain ⟨monitor, ended, rfl, rfl⟩ := execute_eq_ok_iff.mp executed
    exact .step (execute_eq_ok_iff.mpr ⟨monitor, ended, rfl, rfl⟩) inductionHypothesis

/-- A run can be cut after any number of executions. -/
theorem split (run : Executions timer workload bench times last) (count : Nat) :
    ∃ middle, Executions timer workload bench (times.take count) middle ∧
      Executions timer workload middle (times.drop count) last := by
  induction run generalizing count with
  | refl => exact ⟨_, by rw [List.take_nil]; exact .refl, by rw [List.drop_nil]; exact .refl⟩
  | step executed rest inductionHypothesis =>
    cases count with
    | zero => exact ⟨_, .refl, .step executed rest⟩
    | succ count =>
      obtain ⟨middle, front, back⟩ := inductionHypothesis count
      exact ⟨middle, .step executed front, back⟩

/-- As long as an execution succeeds and makes the next one succeed, a run can go on. -/
theorem exists_of_step_until {Ready : Nat → Bench region σ → Prop} {limit : Nat}
    (step : ∀ done < limit, ∀ bench, Ready done bench →
      ∃ time next, workload.execute timer bench = .ok time next ∧ Ready (done + 1) next)
    (count : Nat) {done : Nat} (within : done + count ≤ limit) (ready : Ready done bench) :
    ∃ times last, Executions timer workload bench times last ∧ times.length = count ∧
      Ready (done + count) last := by
  induction count generalizing done bench with
  | zero => exact ⟨[], bench, .refl, rfl, ready⟩
  | succ count inductionHypothesis =>
    obtain ⟨time, next, executed, nextReady⟩ := step done (by omega) bench ready
    obtain ⟨times, last, run, length, lastReady⟩ := inductionHypothesis (by omega) nextReady
    refine ⟨time :: times, last, .step executed run, by rw [List.length_cons, length], ?_⟩
    rwa [Nat.add_assoc, Nat.add_comm 1] at lastReady

/-- If an execution always succeeds and makes the next one succeed, a run can have any length. -/
theorem exists_of_step {Ready : Nat → Bench region σ → Prop}
    (step : ∀ done bench, Ready done bench →
      ∃ time next, workload.execute timer bench = .ok time next ∧ Ready (done + 1) next)
    (count : Nat) {done : Nat} (ready : Ready done bench) :
    ∃ times last, Executions timer workload bench times last ∧ times.length = count ∧
      Ready (done + count) last :=
  exists_of_step_until (fun done _ => step done) count (Nat.le_refl _) ready

end Executions

/-- Warming up begins with any run of executions that is not too long, and goes on from there. -/
theorem warmUp_add (run : Executions timer workload bench times last) (count : Nat) :
    workload.warmUp timer (times.length + count) bench = workload.warmUp timer count last := by
  induction run with
  | refl => rw [List.length_nil, Nat.zero_add]
  | step executed _ inductionHypothesis =>
    rw [List.length_cons, Nat.add_right_comm, warmUp, Trial.bind_apply, executed]
    exact inductionHypothesis

/-- A room with measurements in it, from a place on. -/
def recorded (room : Array UInt32) (place : Nat) : List UInt32 → Array UInt32
  | [] => room
  | time :: times => recorded (room.setIfInBounds place time) (place + 1) times

/-- Each measurement is in its place, and all other places are as before. -/
theorem getElem?_recorded (room : Array UInt32) (place : Nat) (times : List UInt32)
    (fits : place + times.length ≤ room.size) (i : Nat) :
    (recorded room place times)[i]? =
      if place ≤ i ∧ i < place + times.length then times[i - place]? else room[i]? := by
  induction times generalizing room place with
  | nil => rw [recorded, if_neg (by simp)]
  | cons time times inductionHypothesis =>
    rw [List.length_cons] at fits
    rw [recorded, inductionHypothesis _ _ (by rw [Array.size_setIfInBounds]; omega),
      List.length_cons, Array.getElem?_setIfInBounds]
    by_cases here : place = i
    · subst here
      rw [if_neg (by omega), if_pos rfl, if_pos (by omega), if_pos (by omega), Nat.sub_self]
      rfl
    · rw [if_neg here]
      by_cases later : place + 1 ≤ i ∧ i < place + 1 + times.length
      · have index : i - place = i - (place + 1) + 1 := by omega
        rw [if_pos later, if_pos (by omega), index, List.getElem?_cons_succ]
      · rw [if_neg later, if_neg (by omega)]

/-- As many measurements as there are places fill the room. -/
theorem recorded_eq_toArray {room : Array UInt32} (fits : times.length = room.size) :
    recorded room 0 times = times.toArray := by
  refine Array.ext_getElem? fun i => ?_
  rw [getElem?_recorded _ _ _ (by omega)]
  by_cases within : i < times.length
  · rw [if_pos (by omega), Nat.sub_zero, List.getElem?_toArray]
  · rw [if_neg (by omega), Array.getElem?_eq_none (by omega), Array.getElem?_eq_none]
    exact Nat.le_of_not_lt within

/-- Filling the room begins with any run of executions that is not too long, puts their readings in
their places and goes on from there. -/
theorem fillRoom_add (run : Executions timer workload bench times last) (left : Nat)
    (fits : times.length + left ≤ bench.room.size) :
    workload.fillRoom timer (times.length + left) bench =
      workload.fillRoom timer left { last with
        room := recorded bench.room (bench.room.size - (times.length + left)) times } := by
  induction times generalizing bench last with
  | nil =>
    cases run
    rw [List.length_nil, Nat.zero_add]
    rfl
  | cons time times inductionHypothesis =>
    cases run with
    | step executed rest =>
      obtain ⟨monitor, -, -, rfl⟩ := execute_eq_ok_iff.mp executed
      rw [List.length_cons, Nat.add_right_comm] at fits ⊢
      have place : bench.room.size - (times.length + left + 1) + 1 =
          bench.room.size - (times.length + left) := by
        omega
      have filled := inductionHypothesis
        (rest.equip (bench.room.setIfInBounds (bench.room.size - (times.length + left + 1)) time)
          bench.output) (by rw [Array.size_setIfInBounds]; omega)
      rw [Array.size_setIfInBounds] at filled
      have output : last.output = bench.output := rest.room_output_eq.2
      simp only [fillRoom, store, Trial.bind_apply, executed, Trial.get_apply,
        Trial.modify_apply]
      rw [filled, recorded, place, output]

/-- As many executions as there are places fill the room with their readings. -/
theorem fillRoom_of_executions (run : Executions timer workload bench times last)
    (fits : times.length = bench.room.size) :
    workload.fillRoom timer bench.room.size bench =
      .ok () { last with room := times.toArray } := by
  have filled := fillRoom_add run 0 (Nat.le_of_eq fits)
  rw [Nat.add_zero, fits, Nat.sub_self, recorded_eq_toArray fits] at filled
  exact filled

section Measurement

variable {options : BenchOptions} (sized : options.repetitions.toNat = bench.room.size)
include sized

/-- A trial with a room of the right size warms up and then fills the room. -/
theorem trial_of_executions (run : Executions timer workload bench times last)
    (counted : times.length = options.executions) :
    ∃ output, workload.trial timer options bench =
      .ok (Summary.ofSeries (times.drop options.coldStart.toNat)) { last with
        room := (times.drop options.coldStart.toNat).toArray, output } := by
  obtain ⟨middle, warmed, measured⟩ := run.split options.coldStart.toNat
  rw [BenchOptions.executions] at counted
  have colds : (times.take options.coldStart.toNat).length = options.coldStart.toNat := by
    rw [List.length_take]
    omega
  have places : (times.drop options.coldStart.toNat).length = bench.room.size := by
    rw [List.length_drop]
    omega
  have warms (output : String) :
      workload.warmUp timer options.coldStart.toNat { bench with output } =
        .ok () { middle with room := bench.room, output } := by
    have warmed := warmUp_add (warmed.equip bench.room output) 0
    rwa [colds] at warmed
  have fills (output : String) :
      workload.fillRoom timer bench.room.size { middle with room := bench.room, output } =
        .ok () { last with room := (times.drop options.coldStart.toNat).toArray, output } :=
    fillRoom_of_executions (measured.equip bench.room output) places
  simp only [trial, Trial.bind_apply, Trial.get_apply]
  rw [if_neg (not_not.mpr sized)]
  simp only [Trial.bind_apply, Trial.print_apply, warms, fills, Trial.get_apply, Trial.pure_apply]
  exact ⟨_, rfl⟩

/-- A measurement begins with fresh random numbers, and ends with making up for the executions. -/
theorem measure_of_executions (fits : workload.setupFault? region = none)
    (run : Executions timer workload bench.prepared times last)
    (counted : times.length = options.executions) {monitor : Monitor region}
    (concluded : workload.conclusion last.role last.monitor = .ok () monitor) :
    ∃ output, workload.measure timer options bench =
      .ok (Summary.ofSeries (times.drop options.coldStart.toNat)) { last with
        monitor, room := (times.drop options.coldStart.toNat).toArray, output } := by
  obtain ⟨output, ended⟩ : ∃ output, workload.trial timer options bench.prepared = _ :=
    trial_of_executions sized run counted
  refine ⟨output, ?_⟩
  simp only [measure, fits, Trial.bind_apply, Trial.prepare_apply, concluding, ended,
    conclude_apply, Trial.onMonitor_apply, concluded]

end Measurement

end Workload

end GranuleMonitor
