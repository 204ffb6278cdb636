import GranuleMonitor.Proofs.Stress.Draw
import GranuleMonitor.Proofs.Stress.Safety

/-!
# Runs on one processor after the other

The program that runs the processors one after the other draws allowed tasks and positive bytes, and
nobody works in between, so no attempt has to wait. The rounds of one processor are therefore a run
of a floor with one worker: `runRounds_steps`. Between two processors the arena is at rest, and with
as many processors as there are the report is clean: `report_clean`.
-/

namespace GranuleMonitor

variable {region : Region} {k : Nat}

namespace Stress

/-- An action goes on with the arena that the one before it leaves behind. -/
theorem Exercise.bind_of_ok {α β : Type} {action : Exercise region α} {next : α → Exercise region β}
    {arena middle : Arena region} {value : α} (ended : action arena = .ok value middle) :
    (action >>= next) arena = next value middle := by
  simp only [bind, EStateM.bind, ended]

namespace Floor

/-- One worker in an arena. -/
def alone (arena : Arena region) (worker : Worker region) : Floor region 1 := ⟨arena, #v[worker]⟩

/-- An arena in which nobody works. -/
def deserted (arena : Arena region) : Floor region 0 := ⟨arena, #v[]⟩

section Alone

variable {arena : Arena region} {worker : Worker region}

theorem get_alone (index : Fin 1) : (alone arena worker).workers.get index = worker := by
  obtain rfl := Subsingleton.elim index 0
  rfl

theorem total_alone (ledger : Ledger region) :
    ledger.total (alone arena worker) = ledger.now arena + ledger.ahead worker := by
  rw [Ledger.total, Fin.sum_univ_one, get_alone]
  rfl

/-- The only worker works in the arena as it is. -/
theorem arenaOf_alone (selected : arena.monitor.cpu = worker.cpu) :
    (alone arena worker).arenaOf worker = arena := by
  rw [arenaOf, ← selected]
  rfl

end Alone

/-- When no worker is in a round, it does not matter who the workers are, and which processor was the
last one. -/
theorem Sound.of_idle {j : Nat} {floor : Floor region k} {other : Floor region j}
    (sound : floor.Sound) (idle : ∀ worker, floor.pending worker = [])
    (otherIdle : ∀ worker, other.pending worker = [])
    (unbroken : ∀ worker, (other.workers.get worker).broken = false)
    (store : other.arena.monitor.store = floor.arena.monitor.store)
    (memory : other.arena.monitor.memory = floor.arena.monitor.memory)
    (windows : other.arena.monitor.windows = floor.arena.monitor.windows)
    (tally : other.arena.tally = floor.arena.tally) : other.Sound := by
  have same (index : Fin region.size) : other.arena.get index = floor.arena.get index := by
    rw [Arena.get, Arena.get, store]
  refine ⟨⟨memory ▸ sound.backs, windows ▸ sound.windows, sound.mappable⟩, fun index => ?_,
    fun worker => ?_, unbroken, fun index => ?_, ?_⟩
  · obtain ⟨unlocked, -⟩ := sound.released idle index
    refine .free (by rw [same, unlocked]) (fun worker => ?_)
      (settled_of_same (sound.settled unlocked) (by rw [same]) fun zeroed => ?_)
    · rw [otherIdle]
      exact not_holds_nil
    · rw [Arena.Zeroed, memory]
      exact zeroed
  · rw [otherIdle]
    exact .nil
  · have ahead (worker : Fin j) :
        (Ledger.references index).ahead (other.workers.get worker) = 0 := by
      rw [Ledger.ahead, show (other.workers.get worker).pending = _ from otherIdle worker, weigh_nil,
        Ledger.references, zero_mul, add_zero]
    have now : (Ledger.references index).now other.arena = 0 := by
      change ((other.arena.get index).references.toNat : Int) = 0
      rw [same, (sound.released idle index).2]
      rfl
    simp only [Ledger.total, ahead, now, Finset.sum_const_zero, add_zero]
  · rw [tally]
    exact sound.idle

end Floor

section Rounds

variable {cpu : Cpu} {left : Nat} {arena : Arena region}

/-- The calls of a round are steps of the worker. -/
theorem runCalls_steps (suited : Suited region) (pending : List (Call region))
    (sound : (Floor.alone arena ⟨cpu, left, pending, false⟩).Sound)
    (selected : arena.monitor.cpu = cpu) (dice : Xoshiro256) :
    ∃ next after, runCalls pending dice arena = .ok next after ∧
      Floor.Steps (.alone arena ⟨cpu, left, pending, false⟩) (.alone after ⟨cpu, left, [], false⟩) ∧
        after.monitor.cpu = cpu := by
  induction pending generalizing arena dice with
  | nil => exact ⟨dice, arena, rfl, .refl, selected⟩
  | cons call later inductionHypothesis =>
    have few : 1 < UInt64.size := by decide
    have next : (Floor.alone arena ⟨cpu, left, call :: later, false⟩).pending 0 = call :: later := rfl
    have fits := sound.fits few next
    rw [Floor.get_alone, Floor.arenaOf_alone selected] at fits
    obtain ⟨byte, positive, drawn⟩ := call.perform_draw dice
    obtain ⟨middle, done, does⟩ := Call.does fits byte
    have step : Floor.Step (.alone arena ⟨cpu, left, call :: later, false⟩)
        (.alone middle ⟨cpu, left, later, false⟩) := by
      refine .call 0 rfl rfl positive ?_
      rw [Floor.get_alone, Floor.arenaOf_alone selected]
      exact Call.performBefore_of_ok done
    have performed : call.performBefore later (call.draw dice).1 arena = .ok () middle :=
      Call.performBefore_of_ok (drawn ▸ done)
    obtain ⟨last, after, ended, steps, lastSelected⟩ :=
      inductionHypothesis ((sound.progress suited few step).sound sound)
        (does.cpu.trans selected) (call.draw dice).2
    refine ⟨last, after, ?_, (Floor.Steps.step .refl step).trans steps, lastSelected⟩
    exact (Exercise.bind_of_ok performed).trans ended

/-- All rounds of a processor on which nobody else works are a run of the worker. -/
theorem runRounds_steps (suited : Suited region) (left : Nat)
    (sound : (Floor.alone arena ⟨cpu, left, [], false⟩).Sound)
    (selected : arena.monitor.cpu = cpu) (dice : Xoshiro256) :
    ∃ after, runRounds left dice arena = .ok () after ∧
      Floor.Steps (.alone arena ⟨cpu, left, [], false⟩) (.alone after ⟨cpu, 0, [], false⟩) := by
  induction left generalizing arena dice with
  | zero => exact ⟨arena, rfl, .refl⟩
  | succ left inductionHypothesis =>
    have few : 1 < UInt64.size := by decide
    have orderly := sound.orderly ⟨cpu, left + 1, [], false⟩
    rw [Floor.arenaOf_alone selected] at orderly
    have allowed := Task.draw_allowed dice
    have begins := attempt_begins orderly suited allowed
    unfold Begins at begins
    cases ended : (Task.draw dice).1.attempt arena.monitor with
    | ok calls monitor =>
      rw [ended] at begins
      have made := Exercise.onMonitor_of_ok ended
      have step : Floor.Step (.alone arena ⟨cpu, left + 1, [], false⟩)
          (.alone ⟨monitor, arena.tally⟩ ⟨cpu, left, calls, false⟩) := by
        refine .attempt 0 rfl rfl rfl rfl allowed ?_
        rw [Floor.get_alone, Floor.arenaOf_alone selected]
        exact made
      have opened := (sound.progress suited few step).sound sound
      obtain ⟨next, middle, carried, calling, middleSelected⟩ :=
        runCalls_steps suited calls opened (begins.cpu.trans selected) (Task.draw dice).2
      obtain ⟨last, finished, later⟩ :=
        inductionHypothesis (opened.steps suited few calling).1 middleSelected next
      refine ⟨last, ?_, ((Floor.Steps.step .refl step).trans calling).trans later⟩
      exact (Exercise.bind_of_ok made).trans ((Exercise.bind_of_ok carried).trans finished)
    | error halt monitor =>
      rw [ended] at begins
      cases halt with
      | fault cause => exact begins.elim
      | waiting target =>
        obtain ⟨index, -, locked⟩ := begins
        have unlocked := (sound.released (fun _ => congrArg Worker.pending (Floor.get_alone _))
          index).1
        exact (Bool.false_ne_true (unlocked.symm.trans locked)).elim

end Rounds

/-- A processor does all its rounds, and leaves the arena to the next one as it should be. -/
theorem runCpu_spec (suited : Suited region) {arena : Arena region}
    (sound : (Floor.deserted arena).Sound) {cpu : UInt64} (known : cpu.toNat < maxCpus) :
    ∃ after, runCpu cpu arena = .ok () after ∧ (Floor.deserted after).Sound ∧
      after.tally.total = arena.tally.total + rounds := by
  let number : Cpu := ⟨cpu.toNat, known⟩
  let selected : Arena region := ⟨{ arena.monitor with cpu := number }, arena.tally⟩
  have selects : Exercise.onMonitor (Act.selectCpu cpu) arena = .ok () selected :=
    Exercise.onMonitor_of_ok (by rw [Act.selectCpu, dif_pos known])
  have pending (arena : Arena region) (left : Nat) (index : Fin 1) :
      (Floor.alone arena ⟨number, left, [], false⟩).pending index = [] :=
    congrArg Worker.pending (Floor.get_alone index)
  have begins : (Floor.alone selected ⟨number, rounds, [], false⟩).Sound :=
    sound.of_idle (fun worker => worker.elim0) (pending _ _)
      (fun index => congrArg Worker.broken (Floor.get_alone index)) rfl rfl rfl rfl
  obtain ⟨middle, ended, steps⟩ := runRounds_steps suited rounds begins rfl (Xoshiro256.ofSeed cpu)
  obtain ⟨finished, totals⟩ := begins.steps suited (by decide) steps
  let after : Arena region :=
    ⟨{ middle.monitor with log := middle.monitor.log.push (.cpuFinished cpu.toNat) }, middle.tally⟩
  have notes : Exercise.onMonitor (Act.note (.cpuFinished cpu.toNat)) middle = .ok () after :=
    Exercise.onMonitor_of_ok rfl
  refine ⟨after, ?_, finished.of_idle (pending _ _) (fun worker => worker.elim0)
    (fun worker => worker.elim0) rfl rfl rfl rfl, ?_⟩
  · rw [runCpu, Exercise.bind_of_ok selects, Exercise.bind_of_ok ended]
    exact notes
  · have total := totals Ledger.kept_outcomes
    rw [Floor.total_alone, Floor.total_alone] at total
    simp only [Ledger.now, Ledger.ahead, Ledger.outcomes, weigh_nil, one_mul, Nat.cast_zero,
      add_zero] at total
    exact_mod_cast total

/-- All processors do all their rounds. -/
theorem runCpus_spec (suited : Suited region) (cpus : List UInt64) {arena : Arena region}
    (sound : (Floor.deserted arena).Sound) (known : ∀ cpu ∈ cpus, cpu.toNat < maxCpus) :
    (∀ result ∈ (runCpus arena cpus).1, result.isOk) ∧
      (Floor.deserted (runCpus arena cpus).2).Sound ∧
      (runCpus arena cpus).2.tally.total = arena.tally.total + rounds * cpus.length := by
  induction cpus generalizing arena with
  | nil => exact ⟨by simp [runCpus], sound, rfl⟩
  | cons cpu rest inductionHypothesis =>
    obtain ⟨middle, ended, middleSound, total⟩ := runCpu_spec suited sound (known cpu (by simp))
    obtain ⟨results, lastSound, later⟩ :=
      inductionHypothesis middleSound fun cpu among => known cpu (by simp [among])
    simp only [runCpus, ended]
    refine ⟨?_, lastSound, ?_⟩
    · intro result among
      rcases List.mem_cons.mp among with rfl | among
      · rfl
      · exact results result among
    · rw [later, total, List.length_cons, Nat.mul_succ, Nat.add_comm (rounds * _), ← Nat.add_assoc]

/-- With as many processors as there are, the program finds nothing wrong. -/
theorem report_clean {host : Host} (room : granules ≤ host.capacity)
    (reach : host.Reaches (granules + outsideGranules)) {cpus : Nat} (within : cpus ≤ maxCpus) :
    ∃ report, Stress.report host cpus = .ok report ∧ report.clean = true ∧
      report.tally.total = rounds * cpus ∧ report.tally.busy = 0 := by
  obtain ⟨region, monitor, created⟩ : ∃ (region : Region) (monitor : Monitor region),
      (Setting.backed (UInt64.ofNat granules)).create host = .ok ⟨region, monitor⟩ :=
    Setting.exists_create_backed (by decide) room
  have suited := suited_of_created created reach
  obtain ⟨memory, rfl, backs, -, base, -⟩ := Setting.create_backed created
  have above : 0 < region.base.toNat := base ▸ host.base_pos
  have sound : (Floor.deserted (.start (.create region memory))).Sound :=
    (Floor.sound_start backs above #v[]).of_idle (fun worker => worker.elim0)
      (fun worker => worker.elim0) (fun worker => worker.elim0) rfl rfl rfl rfl
  have known : ∀ cpu ∈ (List.range cpus).map UInt64.ofNat, cpu.toNat < maxCpus := by
    intro cpu among
    obtain ⟨id, below, rfl⟩ := List.mem_map.mp among
    have small := List.mem_range.mp below
    simp only [maxCpus] at within ⊢
    rw [UInt64.toNat_ofNat', Nat.mod_eq_of_lt (by omega)]
    omega
  have ended := runCpus_spec suited _ sound known
  rcases ran : runCpus (.start (.create region memory)) ((List.range cpus).map UInt64.ofNat) with
    ⟨results, last⟩
  rw [ran] at ended
  obtain ⟨succeeded, lastSound, total⟩ := ended
  have unbroken : results.all (·.isOk) = true := List.all_eq_true.mpr succeeded
  obtain ⟨final, leakless⟩ := lastSound.leakless fun worker => worker.elim0
  have checked : leaks (List.finRange region.size) last.monitor = .ok [] final := leakless
  refine ⟨⟨cpus, last.tally, false, []⟩, ?_, rfl, ?_, lastSound.idle⟩
  · simp only [report, created, ran, checked, unbroken]
    rfl
  · rw [List.length_map, List.length_range] at total
    exact total.trans (Nat.zero_add _)

end Stress

end GranuleMonitor
