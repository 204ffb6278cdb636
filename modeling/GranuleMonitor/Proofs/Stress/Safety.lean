import GranuleMonitor.Proofs.Stress.Floor
import GranuleMonitor.Proofs.Stress.Release

/-!
# Stress runs are safe

`Floor.Secure` is what a run keeps at every moment, and `Floor.Clean` is how it leaves everything
once all workers have finished. `run_safe` states both for every run on a new table, whatever
tasks and bytes are drawn and however the workers take turns. `Floor.Sound.completes` says that no
run gets stuck: wherever it has come to, it can be completed.
-/

namespace GranuleMonitor

variable {region : Region} {k : Nat}

/-- The memory of a host lies so low that a number of granules, counted from its beginning, would
not go beyond the highest address. -/
def Host.Reaches (host : Host) (count : Nat) : Prop :=
  host.base.toNat + granuleSize * count ≤ UInt64.size

instance (host : Host) (count : Nat) : Decidable (host.Reaches count) :=
  inferInstanceAs (Decidable (_ ≤ _))

namespace Stress

namespace Floor

/-- What is kept at every moment. -/
structure Secure (floor : Floor region k) : Prop where
  /-- No call and no check of a worker has failed. -/
  unbroken : ∀ worker, (floor.workers.get worker).broken = false
  /-- An unlocked granule is non-secure or delegated. -/
  role : ∀ index, (floor.arena.get index).locked = false →
    (floor.arena.get index).role = .nonsecure ∨ (floor.arena.get index).role = .delegated
  /-- Nobody refers to an unlocked granule that is delegated, and its content is zero. -/
  delegated : ∀ index, (floor.arena.get index).locked = false →
    (floor.arena.get index).role = .delegated →
      (floor.arena.get index).references = 0 ∧ floor.arena.Zeroed index
  /-- The granules that are only counted stay non-secure. -/
  counted : ∀ index : Fin region.size, sharedGranules ≤ index.val →
    (floor.arena.get index).role = .nonsecure

/-- How everything is left in the end. -/
structure Clean (floor : Floor region k) : Prop where
  /-- No granule is locked, and nobody refers to one. -/
  released : ∀ index, (floor.arena.get index).locked = false ∧
    (floor.arena.get index).references = 0
  /-- The last check finds nothing. -/
  leaks : ∃ last, leaks (List.finRange region.size) floor.arena.monitor = .ok [] last
  /-- No window is open. -/
  windows : ∀ cpu slot, floor.arena.monitor.windows.occupant? cpu slot = none
  /-- Every round of every worker was counted. -/
  total : floor.arena.tally.total = rounds * k
  /-- No granule was ever found in use. -/
  idle : floor.arena.tally.busy = 0
  /-- The counts say how many granules are delegated. -/
  delegated : floor.arena.tally.delegated =
    floor.arena.tally.undelegated + delegatedGranules floor.arena.monitor.store

/-- At first each worker is going to do all its rounds. -/
theorem get_workers_start (monitor : Monitor region) (cpus : Vector Cpu k) (index : Fin k) :
    (start monitor cpus).workers.get index = ⟨cpus.get index, rounds, [], false⟩ :=
  vectorGet_map _ cpus index

/-- What a number is going to be is known from the start. -/
theorem total_start (ledger : Ledger region) (monitor : Monitor region) (cpus : Vector Cpu k) :
    ledger.total (start monitor cpus) =
      ledger.value monitor.store .zero + k * (ledger.perRound * rounds) := by
  have ahead (index : Fin k) : ledger.ahead ((start monitor cpus).workers.get index) =
      ledger.perRound * rounds := by
    rw [get_workers_start, Ledger.ahead, weigh_nil, add_zero]
  simp only [Ledger.total, ahead, Finset.sum_const, Finset.card_univ, Fintype.card_fin,
    nsmul_eq_mul]
  rfl

/-- What a number is going to be is what it is when all workers have finished. -/
theorem total_of_finished (ledger : Ledger region) {floor : Floor region k}
    (finished : floor.Finished) : ledger.total floor = ledger.now floor.arena := by
  have ahead (index : Fin k) : ledger.ahead (floor.workers.get index) = 0 := by
    rw [Ledger.ahead, (finished index).1, (finished index).2, weigh_nil]
    simp
  simp only [Ledger.total, ahead, Finset.sum_const_zero, add_zero]

/-- A run begins with a sound floor. -/
theorem sound_start {memory : Memory} (backs : memory.Backs region)
    (above : 0 < region.base.toNat) (cpus : Vector Cpu k) :
    (start (.create region memory) cpus).Sound := by
  have pending (index : Fin k) : (start (.create region memory) cpus).pending index = [] := by
    rw [Floor.pending, get_workers_start]
  have fresh (index : Fin region.size) :
      (start (.create region memory) cpus).arena.get index = .fresh :=
    Monitor.get_create memory (.entry index)
  refine ⟨⟨backs, fun cpu slot => Windows.occupant?_empty cpu slot, fun index => ?_⟩,
    fun index => ?_, fun index => ?_, fun index => ?_, fun index => ?_, rfl⟩
  · intro same
    have exact := region.toNat_address index
    rw [same, UInt64.toNat_zero] at exact
    omega
  · refine .free (by rw [fresh]; rfl) (fun other => ?_) (.inl (by rw [fresh]; rfl))
    rw [pending]
    exact not_holds_nil
  · rw [pending]
    exact .nil
  · rw [get_workers_start]
  · have none : (Ledger.references index).value (Monitor.create region memory).store .zero = 0 :=
      congrArg (fun descriptor : Descriptor => (descriptor.references.toNat : Int))
        (Monitor.get_create memory (.entry index))
    rw [total_start, none, Ledger.references, zero_mul, mul_zero, add_zero]

/-- A run of a sound floor leads to sound floors only, and no number that is kept changes what it is
going to be. -/
theorem Sound.steps {floor last : Floor region k} (sound : floor.Sound)
    (suited : Suited region) (few : k < UInt64.size) (steps : Steps floor last) :
    last.Sound ∧ ∀ {ledger : Ledger region}, ledger.Kept → ledger.total last = ledger.total floor := by
  induction steps with
  | refl => exact ⟨sound, fun _ => rfl⟩
  | step prior step inductionHypothesis =>
    obtain ⟨middle, totals⟩ := inductionHypothesis
    have progress := middle.progress suited few step
    exact ⟨progress.sound middle, fun kept => (progress.total kept).trans (totals kept)⟩

namespace Sound

variable {floor : Floor region k} (sound : floor.Sound)
include sound

/-- A sound floor is secure. -/
theorem secure : floor.Secure where
  unbroken := sound.unbroken
  role index unlocked := (sound.settled unlocked).imp_right fun settled => settled.2.1
  delegated index unlocked delegated := by
    rcases sound.settled unlocked with nonsecure | ⟨shared, -, zeroed⟩
    · rw [delegated] at nonsecure
      contradiction
    · exact ⟨sound.unreferenced shared unlocked, zeroed⟩
  counted index unshared := by
    cases sound.tended index with
    | free unlocked unused settled =>
      refine settled.resolve_right fun ⟨shared, _⟩ => ?_
      omega
    | held worker locked alone ready =>
      have shared := (sound.underway worker).shared_of_holds ready.holds
      omega

/-- When no worker is in a round, no granule is locked and nobody refers to one. -/
theorem released (idle : ∀ worker, floor.pending worker = []) (index : Fin region.size) :
    (floor.arena.get index).locked = false ∧ (floor.arena.get index).references = 0 := by
  constructor
  · cases sound.tended index with
    | free unlocked _ _ => exact unlocked
    | held worker _ _ ready =>
      have holds := ready.holds
      rw [idle worker] at holds
      exact (not_holds_nil holds).elim
  · refine sound.references_eq_zero fun worker => ?_
    rw [idle worker, weigh_nil]

/-- When no worker is in a round, the last check finds nothing. -/
theorem leakless (idle : ∀ worker, floor.pending worker = []) :
    ∃ last, leaks (List.finRange region.size) floor.arena.monitor = .ok [] last := by
  have inOrder (index : Fin region.size) : (floor.arena.get index).releaseFault? = none :=
    Descriptor.releaseFault?_eq_none_iff.mpr fun _ => (sound.released idle index).2
  obtain ⟨log, ended⟩ := leaks_apply (fun index => (sound.released idle index).1) inOrder
    (List.finRange region.size)
  have none : (List.finRange region.size).filter (fun index => Leaked floor.arena.monitor index) =
      [] := by
    refine List.filter_eq_nil_iff.mpr fun index _ => ?_
    obtain ⟨unlocked, unreferenced⟩ := sound.released idle index
    have role := sound.secure.role index unlocked
    rw [decide_eq_true_iff]
    rintro (other | referenced)
    · exact other role
    · exact referenced unreferenced
  rw [none] at ended
  exact ⟨_, ended⟩

/-- A sound floor on which all workers have finished, with the right totals, is clean. -/
theorem clean (finished : floor.Finished)
    (outcomes : Ledger.outcomes.total floor = rounds * k)
    (delegations : Ledger.delegations.total floor = 0) : floor.Clean where
  released := sound.released fun worker => (finished worker).2
  leaks := sound.leakless fun worker => (finished worker).2
  windows := sound.windows
  total := by
    rw [total_of_finished _ finished] at outcomes
    change (floor.arena.tally.total : Int) = rounds * k at outcomes
    exact_mod_cast outcomes
  idle := sound.idle
  delegated := by
    rw [total_of_finished _ finished] at delegations
    change (delegatedGranules floor.arena.monitor.store : Int) + floor.arena.tally.undelegated -
      floor.arena.tally.delegated = 0 at delegations
    omega

end Sound

section Completion

variable {floor : Floor region k}

/-- How many attempts and calls are still to come if no attempt locks anything. -/
def effort : Ledger region where
  value _ _ := 0
  weight _ := 1
  perRound := 2

theorem effort_nonneg (floor : Floor region k) : 0 ≤ effort.total floor := by
  have weighs (calls : List (Call region)) : 0 ≤ weigh (fun _ => 1) calls := by
    induction calls with
    | nil => rfl
    | cons call later inductionHypothesis =>
      rw [weigh_cons]
      omega
  have each (index : Fin k) : 0 ≤ effort.ahead (floor.workers.get index) := by
    have pending := weighs (floor.workers.get index).pending
    simp only [Ledger.ahead, effort]
    omega
  have sum := Finset.sum_nonneg fun index (_ : index ∈ Finset.univ) => each index
  simpa [Ledger.total, Ledger.now, effort] using sum

/-- As long as some worker has not finished, one of them can go on. -/
theorem Sound.advance (sound : floor.Sound) (suited : Suited region)
    (few : k < UInt64.size) (unfinished : ¬ floor.Finished) :
    ∃ next, Step floor next ∧ effort.total next = effort.total floor - 1 := by
  obtain ⟨index, unfinished⟩ := not_forall.mp unfinished
  cases pending : floor.pending index with
  | cons call later =>
    have fits := sound.fits few pending
    obtain ⟨after, done, -⟩ := Call.does fits 1
    refine ⟨_, .call index rfl pending (by decide) (Call.performBefore_of_ok done), ?_⟩
    have ahead : effort.ahead (floor.workers.get index) =
        1 + effort.ahead { floor.workers.get index with pending := later } := by
      rw [Ledger.ahead, Ledger.ahead, show (floor.workers.get index).pending = _ from pending,
        weigh_cons]
      exact add_left_comm _ _ _
    rw [effort.total_put, ahead]
    simp only [Ledger.now, effort]
    omega
  | nil =>
    cases more : (floor.workers.get index).left with
    | zero => exact (unfinished ⟨more, pending⟩).elim
    | succ left =>
      have allowed : (Task.outside granules).Allowed := ⟨le_rfl, by decide⟩
      have orderly := sound.orderly (floor.workers.get index)
      obtain ⟨log, ended⟩ := orderly.outside_apply suited allowed
      have made := Exercise.onMonitor_of_ok ended
      have step := Step.attempt index rfl pending more (sound.unbroken index) allowed made
      refine ⟨_, step, ?_⟩
      rw [effort.total_put, Ledger.ahead, Ledger.ahead, more,
        show (floor.workers.get index).pending = _ from pending]
      simp only [Ledger.now, effort, weigh_cons, weigh_nil]
      omega

/-- A run goes on with another one. -/
theorem Steps.trans {middle last : Floor region k} (prior : Steps floor middle)
    (later : Steps middle last) : Steps floor last := by
  induction later with
  | refl => exact prior
  | step _ step inductionHypothesis => exact .step inductionHypothesis step

/-- Wherever a run has come to, it can be completed. -/
theorem Sound.completes (sound : floor.Sound) (suited : Suited region)
    (few : k < UInt64.size) : ∃ last, Steps floor last ∧ last.Finished := by
  have count : effort.total floor = (effort.total floor).toNat :=
    (Int.toNat_of_nonneg (effort_nonneg floor)).symm
  generalize (effort.total floor).toNat = steps at count
  induction steps generalizing floor with
  | zero =>
    refine ⟨floor, .refl, ?_⟩
    by_contra unfinished
    obtain ⟨next, -, less⟩ := sound.advance suited few unfinished
    have := effort_nonneg next
    omega
  | succ steps inductionHypothesis =>
    by_cases finished : floor.Finished
    · exact ⟨floor, .refl, finished⟩
    obtain ⟨next, step, less⟩ := sound.advance suited few finished
    obtain ⟨last, later, finished⟩ :=
      inductionHypothesis ((sound.progress suited few step).sound sound) (by omega)
    exact ⟨last, (Steps.step .refl step).trans later, finished⟩

end Completion

end Floor

/-- The tasks are made for the table that is created for as much memory as they assume. -/
theorem suited_of_created {host : Host} {monitor : Monitor region}
    (created : (Setting.backed (UInt64.ofNat granules)).create host = .ok ⟨region, monitor⟩)
    (reach : host.Reaches (granules + outsideGranules)) : Suited region := by
  obtain ⟨-, -, -, size, base, -⟩ := Setting.create_backed created
  refine ⟨size, ?_⟩
  rw [base]
  exact reach

/-- A stress run on a new table for memory of the assumed size is secure at every moment, and clean
in the end, if the host has this memory so low that the addresses behind it can be tried. -/
theorem run_safe {host : Host} {monitor : Monitor region}
    (created : (Setting.backed (UInt64.ofNat granules)).create host = .ok ⟨region, monitor⟩)
    (reach : host.Reaches (granules + outsideGranules))
    {cpus : Vector Cpu k} (distinct : cpus.toList.Nodup) {floor : Floor region k}
    (steps : Floor.Steps (.start monitor cpus) floor) :
    floor.Secure ∧ (floor.Finished → floor.Clean) := by
  have suited := suited_of_created created reach
  obtain ⟨memory, rfl, backs, -, base, -⟩ := Setting.create_backed created
  have above : 0 < region.base.toNat := base ▸ host.base_pos
  have few : k < UInt64.size := by
    have atMost := distinct.length_le_card
    rw [Vector.length_toList, Fintype.card_fin] at atMost
    exact atMost.trans_lt (by decide)
  obtain ⟨sound, totals⟩ := (Floor.sound_start backs above cpus).steps suited few steps
  refine ⟨sound.secure, fun finished => sound.clean finished ?_ ?_⟩
  · rw [totals Ledger.kept_outcomes, Floor.total_start]
    change (0 : Int) + k * (1 * rounds) = rounds * k
    rw [zero_add, one_mul, mul_comm]
  · have none : delegatedGranules (Monitor.create region memory).store = 0 := by
      rw [delegatedGranules, Finset.card_eq_zero]
      refine Finset.filter_eq_empty_iff.mpr fun index _ => ?_
      rw [Monitor.get_create]
      decide
    rw [totals Ledger.kept_delegations, Floor.total_start]
    change (delegatedGranules (Monitor.create region memory).store : Int) + 0 - 0 +
      k * (0 * rounds) = 0
    rw [none, zero_mul, mul_zero]
    rfl

/-- Two workers on the desktop can finish, and then everything is clean. -/
theorem desktop_finishes_clean :
    ∃ (region : Region) (monitor : Monitor region) (floor : Floor region 2),
      (Setting.backed (UInt64.ofNat granules)).create .desktop = .ok ⟨region, monitor⟩ ∧
        Host.desktop.Reaches (granules + outsideGranules) ∧
          (#v[0, 1] : Vector Cpu 2).toList.Nodup ∧
            Floor.Steps (.start monitor #v[0, 1]) floor ∧ floor.Finished ∧ floor.Clean := by
  have positive : 0 < (UInt64.ofNat granules).toNat := by decide
  have within : (UInt64.ofNat granules).toNat ≤ Host.desktop.capacity := by decide
  have reach : Host.desktop.Reaches (granules + outsideGranules) := by decide
  have distinct : (#v[0, 1] : Vector Cpu 2).toList.Nodup := by decide
  obtain ⟨region, monitor, created⟩ := Setting.exists_create_backed positive within
  have suited := suited_of_created created reach
  obtain ⟨memory, rfl, backs, -, base, -⟩ := Setting.create_backed created
  have above : 0 < region.base.toNat := base ▸ Host.desktop.base_pos
  obtain ⟨floor, steps, finished⟩ :=
    (Floor.sound_start backs above #v[0, 1]).completes suited (by decide)
  exact ⟨region, _, floor, created, reach, distinct, steps, finished,
    (run_safe created reach distinct steps).2 finished⟩

end Stress

end GranuleMonitor
