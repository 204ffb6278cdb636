import GranuleMonitor.Proofs.Benchmark.Harness

/-!
# Measurements that are broken off

`Workload.BrokenOff` is a run of executions that give a reading, followed by one that halts. A
measurement that comes to such an execution ends there. The readings before it are in their places,
unless they were taken to warm up, the rest of the room is as before, and what the executions left
behind is made up for all the same: `Workload.measure_of_broken`.
-/

namespace GranuleMonitor

variable {region : Region} {σ : Type}

namespace Workload

variable {timer : Timer} {workload : Workload} {bench next last : Bench region σ}
  {times : List UInt32} {halt : Halt region}

/-- An execution that halts does not stop the timer, and leaves room and output alone. -/
theorem execute_eq_error_iff :
    workload.execute timer bench = .error halt next ↔
      ∃ monitor,
        workload.task bench.generator bench.role bench.dice bench.monitor = .error halt monitor ∧
        next = { bench with
          monitor
          dice := workload.nextDice region bench.generator bench.dice } := by
  rw [execute_apply]
  cases workload.task bench.generator bench.role bench.dice bench.monitor with
  | ok _ monitor => simp
  | error cause monitor => simp [eq_comm]

/-- A run of executions that give a reading, and after them one that halts. -/
def BrokenOff (timer : Timer) (workload : Workload) (bench : Bench region σ) (times : List UInt32)
    (halt : Halt region) (last : Bench region σ) : Prop :=
  ∃ middle, Executions timer workload bench times middle ∧
    workload.execute timer middle = .error halt last

namespace BrokenOff

variable (broken : BrokenOff timer workload bench times halt last)
include broken

/-- The execution that halts does not stop the timer. -/
theorem stops_eq : last.stops = bench.stops + times.length := by
  obtain ⟨middle, run, halted⟩ := broken
  obtain ⟨monitor, -, rfl⟩ := execute_eq_error_iff.mp halted
  exact run.stops_eq

/-- A broken run does not depend on the room and on what has been printed. -/
theorem equip (room : Array UInt32) (output : String) :
    BrokenOff timer workload { bench with room, output } times halt { last with room, output } := by
  obtain ⟨middle, run, halted⟩ := broken
  obtain ⟨monitor, ended, rfl⟩ := execute_eq_error_iff.mp halted
  exact ⟨_, run.equip room output, execute_eq_error_iff.mpr ⟨monitor, ended, rfl⟩⟩

/-- The executions at the beginning can be cut off. -/
theorem split (count : Nat) :
    ∃ middle, Executions timer workload bench (times.take count) middle ∧
      BrokenOff timer workload middle (times.drop count) halt last := by
  obtain ⟨final, run, halted⟩ := broken
  obtain ⟨middle, front, back⟩ := run.split count
  exact ⟨middle, front, final, back, halted⟩

/-- Warming up ends with the execution that halts. -/
theorem warmUp_eq {count : Nat} (short : times.length < count) :
    workload.warmUp timer count bench = .error halt last := by
  obtain ⟨middle, run, halted⟩ := broken
  obtain ⟨more, rfl⟩ := Nat.exists_eq_add_of_lt short
  rw [Nat.add_assoc, warmUp_add run, warmUp, Trial.bind_apply, halted]

/-- Filling the room ends with the execution that halts, and the readings before it are in their
places. -/
theorem fillRoom_eq (short : times.length < bench.room.size) :
    workload.fillRoom timer bench.room.size bench =
      .error halt { last with room := recorded bench.room 0 times } := by
  obtain ⟨middle, run, halted⟩ := broken
  obtain ⟨more, size⟩ := Nat.exists_eq_add_of_lt short
  rw [Nat.add_assoc] at size
  have filled := fillRoom_add run (more + 1) (Nat.le_of_eq size.symm)
  obtain ⟨monitor, ended, rfl⟩ := execute_eq_error_iff.mp halted
  have stopped : workload.execute timer { middle with room := recorded bench.room 0 times } =
      .error halt _ := execute_eq_error_iff.mpr ⟨monitor, ended, rfl⟩
  rw [← size, Nat.sub_self] at filled
  rw [filled, fillRoom, Trial.bind_apply, stopped]

end BrokenOff

section Measurement

variable {options : BenchOptions}

/-- A trial that ends with a halt is made up for all the same, as far as that can be done. -/
theorem measure_of_trial_error (fits : workload.setupFault? region = none)
    (ended : workload.trial timer options bench.prepared = .error halt last) :
    workload.measure timer options bench =
      .error halt { last with monitor := (workload.conclusion last.role).after last.monitor } := by
  simp only [measure, fits, Trial.bind_apply, Trial.prepare_apply, concluding, ended,
    conclude_apply, Trial.onMonitor_apply, Act.after]
  cases workload.conclusion last.role last.monitor <;> rfl

variable (sized : options.repetitions.toNat = bench.room.size)
include sized

/-- A trial ends with the execution that halts, whether it is one to warm up or one to be
measured. -/
theorem trial_of_broken (broken : BrokenOff timer workload bench times halt last)
    (short : times.length < options.executions) :
    ∃ output, workload.trial timer options bench =
      .error halt { last with
        room := recorded bench.room 0 (times.drop options.coldStart.toNat), output } := by
  simp only [trial, Trial.bind_apply, Trial.get_apply]
  rw [if_neg (not_not.mpr sized)]
  simp only [Trial.bind_apply, Trial.print_apply]
  by_cases early : times.length < options.coldStart.toNat
  · have warms (output : String) := (broken.equip bench.room output).warmUp_eq early
    rw [List.drop_eq_nil_of_le (Nat.le_of_lt early)]
    simp only [warms]
    exact ⟨_, rfl⟩
  · obtain ⟨middle, front, rest⟩ := broken.split options.coldStart.toNat
    have colds : (times.take options.coldStart.toNat).length = options.coldStart.toNat := by
      rw [List.length_take]
      omega
    have warms (output : String) := warmUp_add (front.equip bench.room output) 0
    rw [colds] at warms
    have measured : (times.drop options.coldStart.toNat).length < bench.room.size := by
      rw [BenchOptions.executions] at short
      rw [List.length_drop]
      omega
    have fills (output : String) := (rest.equip bench.room output).fillRoom_eq measured
    simp only [Nat.add_zero, warmUp, Trial.pure_apply] at warms
    simp only [warms, fills]
    exact ⟨_, rfl⟩

/-- A measurement ends with the execution that halts as well. -/
theorem measure_of_broken (fits : workload.setupFault? region = none)
    (broken : BrokenOff timer workload bench.prepared times halt last)
    (short : times.length < options.executions) :
    ∃ output, workload.measure timer options bench =
      .error halt { last with
        monitor := (workload.conclusion last.role).after last.monitor
        room := recorded bench.room 0 (times.drop options.coldStart.toNat), output } := by
  obtain ⟨output, ended⟩ : ∃ output, workload.trial timer options bench.prepared = _ :=
    trial_of_broken sized broken short
  exact ⟨output, measure_of_trial_error fits ended⟩

end Measurement

end Workload

end GranuleMonitor
