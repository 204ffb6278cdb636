import GranuleMonitor.Benchmark.Suite
import GranuleMonitor.Proofs.Benchmark.Harness
import GranuleMonitor.Proofs.Benchmark.Restoration
import GranuleMonitor.Proofs.Memory.Coverage

/-!
# The suite runs to its end

On a new table every workload of the suite can be executed any number of times (`Workload.Ready`),
and a measurement of it leaves a new table behind: `Workload.measure_of_new`. So each workload of a
selection finds a new table, however many have been measured before it, and the whole suite comes to
its end. `Suite.Reached` says what holds after a number of workloads.
-/

namespace GranuleMonitor

variable {region : Region} {σ : Type}

namespace Generator

/-- The state after a number of words. -/
def skip (generator : Generator σ) (state : σ) : Nat → σ
  | 0 => state
  | count + 1 => (generator.next (generator.skip state count)).2

/-- The word that comes after a number of others. -/
def word (generator : Generator σ) (state : σ) (count : Nat) : UInt32 :=
  (generator.next (generator.skip state count)).1

end Generator

/-- How many records of the lowest level a measurement has left. -/
def Bench.traces (bench : Bench region σ) : Nat :=
  bench.monitor.log.toList.countP fun notice => notice.level = .trace

/-- The measurement on another processor. -/
def Bench.onCpu (bench : Bench region σ) (cpu : Cpu) : Bench region σ :=
  { bench with monitor := { bench.monitor with cpu } }

namespace Workload

variable {timer : Timer} {workload : Workload} {origin bench : Bench region σ} {done : Nat}

/-- The records of a number of executions of `Workload.findLockInvalid`, which draw one word each. -/
def refusalNotices (region : Region) (generator : Generator σ) (dice : σ) (count : Nat) :
    List Notice :=
  (List.range count).map fun done =>
    .unknownAddress (region.randomInvalidAddress (generator.word dice done))

theorem refusalNotices_succ (region : Region) (generator : Generator σ) (dice : σ) (done : Nat) :
    refusalNotices region generator dice (done + 1) = refusalNotices region generator dice done ++
      [.unknownAddress (region.randomInvalidAddress (generator.word dice done))] := by
  rw [refusalNotices, List.range_succ, List.map_append]
  rfl

/-- The records that a number of executions leave, with words from a generator that begins anew. -/
def records (region : Region) (generator : Generator σ) (executions : Nat) : Workload → List Notice
  | .findLockInvalid => refusalNotices region generator generator.first executions
  | .lockUnlock | .lockTransition | .findLock | .atomicReferences | .lockedReferences | .zeroing
  | .lockSet _ => []

theorem records_zero (region : Region) (generator : Generator σ) (workload : Workload) :
    workload.records region generator 0 = [] := by
  cases workload <;> rfl

/-- One more execution leaves its own records behind those of the others. -/
theorem records_succ (generator : Generator σ) (done : Nat) {dice : σ}
    (drawn : workload = .findLockInvalid → dice = generator.skip generator.first done) :
    workload.records region generator (done + 1) =
      workload.records region generator done ++ workload.notices region generator dice := by
  cases workload with
  | findLockInvalid =>
    rw [records, refusalNotices_succ, drawn rfl]
    rfl
  | lockUnlock | lockTransition | findLock | atomicReferences | lockedReferences | zeroing
  | lockSet => rfl

theorem countP_records (region : Region) (generator : Generator σ) (executions : Nat)
    (workload : Workload) :
    (workload.records region generator executions).countP (fun notice => notice.level = .trace) =
      if workload = .findLockInvalid then executions else 0 := by
  cases workload with
  | findLockInvalid =>
    rw [records, refusalNotices, List.countP_map, if_pos rfl]
    exact (List.countP_eq_length.mpr fun _ _ => rfl).trans List.length_range
  | lockUnlock | lockTransition | findLock | atomicReferences | lockedReferences | zeroing
  | lockSet => rfl

/-- Among the records of workloads, those of `Workload.findLockInvalid` have the lowest level. -/
theorem countP_flatMap_records (region : Region) (generator : Generator σ) (executions : Nat)
    (measured : List Workload) :
    (measured.flatMap (records region generator executions)).countP
        (fun notice => notice.level = .trace) =
      measured.count .findLockInvalid * executions := by
  induction measured with
  | nil => exact (Nat.zero_mul _).symm
  | cons workload rest inductionHypothesis =>
    rw [List.flatMap_cons, List.countP_append, countP_records, inductionHypothesis,
      List.count_cons, Nat.add_mul, Nat.add_comm]
    congr 1
    by_cases same : workload = .findLockInvalid
    · simp [same]
    · simp [same]

theorem setupFault?_of_proper (proper : workload.Proper region) :
    workload.setupFault? region = none := by
  cases workload with
  | lockSet size => exact if_pos proper.2
  | lockUnlock | lockTransition | findLock | findLockInvalid | atomicReferences
  | lockedReferences | zeroing => rfl

/-- What holds after a number of executions that began on a new table. -/
structure Ready (workload : Workload) (origin : Bench region σ) (done : Nat)
    (bench : Bench region σ) : Prop where
  idle : bench.monitor.Idle bench.role
  matched : workload = .lockTransition ∨ bench.role = .nonsecure
  generator : bench.generator = origin.generator
  drawn : workload = .findLockInvalid →
    bench.dice = origin.generator.skip origin.generator.first done
  log : bench.monitor.log.toList =
    origin.monitor.log.toList ++ workload.records region origin.generator done

/-- One more execution succeeds. -/
theorem Ready.step (proper : workload.Proper region) (positive : 0 < region.base.toNat)
    (ready : workload.Ready origin done bench) (timer : Timer) :
    ∃ time next, workload.execute timer bench = .ok time next ∧
      workload.Ready origin (done + 1) next := by
  obtain ⟨monitor, ended, idle, log⟩ :=
    workload.task_of_idle proper positive ready.matched ready.idle bench.generator bench.dice
  refine ⟨_, _, execute_eq_ok_iff.mpr ⟨monitor, ended, rfl, rfl⟩,
    ⟨idle, ?_, ready.generator, ?_, ?_⟩⟩
  · by_cases moves : workload = .lockTransition
    · exact .inl moves
    · exact .inr ((nextRole_of_ne moves _).trans (ready.matched.resolve_left moves))
  · rintro rfl
    rw [Generator.skip, ← ready.drawn rfl, ← ready.generator]
    rfl
  · rw [log, ready.log, List.append_assoc, ready.generator, records_succ _ done ready.drawn]

/-- A measurement that begins on a new table succeeds, and leaves a new table behind. -/
theorem measure_of_new {options : BenchOptions} (proper : workload.Proper region)
    (positive : 0 < region.base.toNat) (sized : options.repetitions.toNat = bench.room.size)
    (idle : bench.monitor.Idle .nonsecure) (timer : Timer) :
    ∃ summary next, workload.measure timer options bench = .ok summary next ∧
      next.monitor.Idle .nonsecure ∧
      next.monitor.log.toList =
        bench.monitor.log.toList ++
          workload.records region bench.generator options.executions ∧
      next.generator = bench.generator ∧
      next.stops = bench.stops + options.executions ∧
      next.room = ((List.range' (bench.stops + options.coldStart.toNat)
        options.repetitions.toNat).map timer.reading).toArray := by
  have start : workload.Ready bench 0 bench.prepared :=
    ⟨idle, .inr rfl, rfl, fun _ => rfl, by
      rw [records_zero, List.append_nil, Bench.monitor_prepared]⟩
  have step (done : Nat) (bench' : Bench region σ) (ready : workload.Ready bench done bench') :=
    ready.step proper positive timer
  obtain ⟨times, last, run, counted, ready⟩ :=
    Executions.exists_of_step step options.executions start
  obtain ⟨monitor, concluded, new, log⟩ := workload.conclusion_of_idle ready.matched ready.idle
  obtain ⟨output, ended⟩ :=
    measure_of_executions sized (setupFault?_of_proper proper) run counted concluded
  have kept : times.drop options.coldStart.toNat =
      (List.range' (bench.stops + options.coldStart.toNat) options.repetitions.toNat).map
        timer.reading := by
    rw [run.times_eq, Bench.stops_prepared, counted, ← List.map_drop, List.drop_range', Nat.mul_one,
      BenchOptions.executions, Nat.add_sub_cancel_left]
  refine ⟨_, _, ended, new, ?_, ready.generator, ?_, by rw [kept]⟩
  · rw [log, ready.log, Nat.zero_add]
  · exact run.stops_eq.trans (congrArg _ counted)

end Workload

namespace Suite

variable {timer : Timer} {options : BenchOptions} {selection : Selection}
  {begun bench : Bench region σ}

/-- Workloads are measured one after the other. -/
theorem measureAll_append (measured total : Nat) (front back : List Workload) :
    (measureAll timer options measured total (front ++ back) : Trial region σ Unit) =
      measureAll timer options measured total front >>= fun _ =>
        measureAll timer options (measured + front.length) total back := by
  induction front generalizing measured with
  | nil => rfl
  | cons workload front inductionHypothesis =>
    have later : measured + 1 + front.length = measured + (workload :: front).length := by
      rw [List.length_cons]
      omega
    simp only [List.cons_append, measureAll, bind_assoc, inductionHypothesis, later]

/-- Measuring one workload prints the progress before it. -/
theorem measureAll_singleton_of_ok {workload : Workload} {summary : Summary} {next : Bench region σ}
    {measured total : Nat}
    (ended : workload.measure timer options { bench with
      output := bench.output ++ s!"[{100 * measured / total}%] " } = .ok summary next) :
    measureAll timer options measured total [workload] bench = .ok () next := by
  simp only [measureAll, Trial.bind_apply, Trial.print_apply, ended]
  rfl

/-- A selection of workloads that is not empty is measured. -/
theorem run_eq_measureAll (selected : workloads selection ≠ []) :
    (run timer options selection : Trial region σ Unit) =
      measureAll timer options 0 (workloads selection).length (workloads selection) := by
  unfold run
  split
  next none => exact absurd none selected
  next first rest listed => rw [listed, List.length_cons]

/-- The workloads of a selection are proper ones for the table of the suite. -/
theorem proper_of_mem (size : region.size = granules) {workload : Workload}
    (member : workload ∈ workloads selection) : workload.Proper region := by
  cases workload with
  | lockSet count =>
    have listed : selection.lockSet = true ∧ ∃ place < largestSet, place + 1 = count := by
      simpa [workloads] using member
    obtain ⟨-, place, within, rfl⟩ := listed
    exact ⟨Nat.succ_pos place, within.trans (by rw [size]; decide)⟩
  | lockUnlock | lockTransition | findLock | findLockInvalid | atomicReferences
  | lockedReferences | zeroing => trivial

/-- How many workloads the groups have. -/
theorem length_workloads (selection : Selection) :
    (workloads selection).length =
      2 * selection.lock.toNat + 2 * selection.findLock.toNat + 8 * selection.lockSet.toNat +
        2 * selection.references.toNat + selection.zeroing.toNat := by
  obtain ⟨lock, findLock, lockSet, references, zeroing⟩ := selection
  cases lock <;> cases findLock <;> cases lockSet <;> cases references <;> cases zeroing <;> rfl

/-- A group counts if it is selected. -/
theorem count_group (selected : Bool) (group : List Workload) (workload : Workload) :
    (if selected then group else []).count workload =
      selected.toNat * group.count workload := by
  cases selected <;> simp

/-- There is one set of each size up to the largest one. -/
theorem count_sets (size : Nat) :
    ((List.range largestSet).map fun place => Workload.lockSet (place + 1)).count (.lockSet size) =
      if 1 ≤ size ∧ size ≤ 8 then 1 else 0 := by
  have once : ((List.range largestSet).map fun place => Workload.lockSet (place + 1)).Nodup := by
    decide
  have member : Workload.lockSet size ∈
      (List.range largestSet).map (fun place => Workload.lockSet (place + 1)) ↔
        1 ≤ size ∧ size ≤ 8 := by
    simp only [List.mem_map, List.mem_range, Workload.lockSet.injEq, largestSet]
    constructor
    · rintro ⟨place, within, rfl⟩
      exact ⟨Nat.le_add_left 1 place, within⟩
    · rintro ⟨positive, within⟩
      exact ⟨size - 1, by omega, by omega⟩
  split
  next within => exact List.count_eq_one_of_mem once (member.mpr within)
  next beyond => exact List.count_eq_zero_of_not_mem fun listed => beyond (member.mp listed)

/-- How often each workload is measured for a selection: once if its group is selected, and locked
sets of one to eight granules once for each size. -/
structure Composed (selection : Selection) : Prop where
  lockUnlock : (workloads selection).count .lockUnlock = selection.lock.toNat
  lockTransition : (workloads selection).count .lockTransition = selection.lock.toNat
  findLock : (workloads selection).count .findLock = selection.findLock.toNat
  findLockInvalid : (workloads selection).count .findLockInvalid = selection.findLock.toNat
  lockSet : ∀ size, (workloads selection).count (.lockSet size) =
    if 1 ≤ size ∧ size ≤ 8 then selection.lockSet.toNat else 0
  atomicReferences : (workloads selection).count .atomicReferences = selection.references.toNat
  lockedReferences : (workloads selection).count .lockedReferences = selection.references.toNat
  zeroing : (workloads selection).count .zeroing = selection.zeroing.toNat

theorem composed (selection : Selection) : Composed selection := by
  constructor
  case lockSet =>
    intro size
    simp only [workloads, List.count_append, count_group, count_sets]
    by_cases within : 1 ≤ size ∧ size ≤ 8
    · simp [within]
    · simp [within]
  all_goals
    simp only [workloads, List.count_append, count_group]
    simp [largestSet, List.range_succ]

/-- What holds after a number of the workloads that are selected. -/
structure Reached (timer : Timer) (options : BenchOptions) (selection : Selection)
    (begun : Bench region σ) (count : Nat) (bench : Bench region σ) : Prop where
  within : count ≤ (workloads selection).length
  /-- These workloads were measured to the end. -/
  ended : measureAll timer options 0 (workloads selection).length
    ((workloads selection).take count) begun = .ok () bench
  /-- Every granule is non-secure, unlocked and without references. -/
  pristine : ∀ target, bench.monitor.store.get target = ⟨.nonsecure, 0, false⟩
  /-- The slot that zeroing uses is empty. -/
  slot : bench.monitor.windows.occupant? bench.monitor.cpu .delegated = none
  /-- There is a record for each execution of `Workload.findLockInvalid`, and no other. -/
  log : bench.monitor.log.toList = begun.monitor.log.toList ++
    ((workloads selection).take count).flatMap
      (Workload.records region begun.generator options.executions)
  generator : bench.generator = begun.generator
  /-- The timer was stopped once for each execution. -/
  stops : bench.stops = count * options.executions
  size : bench.room.size = begun.room.size
  unmeasured : count = 0 → bench.room = begun.room
  /-- The room holds the readings of the workload that was measured last. -/
  measured : 0 < count → ∀ i < options.repetitions.toNat,
    bench.room[i]? =
      some (timer.reading ((count - 1) * options.executions + options.coldStart.toNat + i))

namespace Reached

variable {count : Nat}

theorem idle (reached : Reached timer options selection begun count bench) :
    bench.monitor.Idle .nonsecure :=
  .of_fresh (Store.ext_get fun target => by rw [reached.pristine, Store.get_fresh]; rfl)
    reached.slot

theorem length_take (reached : Reached timer options selection begun count bench) :
    0 + ((workloads selection).take count).length = count := by
  rw [Nat.zero_add, List.length_take, Nat.min_eq_left reached.within]

/-- What is left of the suite begins where these workloads have ended. -/
theorem onward (reached : Reached timer options selection begun count bench)
    (selected : workloads selection ≠ []) :
    run timer options selection begun =
      measureAll timer options count (workloads selection).length
        ((workloads selection).drop count) bench := by
  have whole : measureAll timer options 0 (workloads selection).length
      ((workloads selection).take count ++ (workloads selection).drop count) begun = _ :=
    congrFun (measureAll_append 0 (workloads selection).length
      ((workloads selection).take count) ((workloads selection).drop count)) begun
  rw [List.take_append_drop, reached.length_take, Trial.bind_apply, reached.ended] at whole
  rw [run_eq_measureAll selected, whole]

/-- The records of the lowest level are those of `Workload.findLockInvalid`, one for each
execution. -/
theorem traces_eq (reached : Reached timer options selection begun count bench) :
    bench.traces = begun.traces +
      ((workloads selection).take count).count .findLockInvalid * options.executions := by
  rw [Bench.traces, reached.log, List.countP_append, Workload.countP_flatMap_records]
  rfl

theorem zero (idle : begun.monitor.Idle .nonsecure) (unstopped : begun.stops = 0) :
    Reached timer options selection begun 0 begun where
  within := Nat.zero_le _
  ended := rfl
  pristine target := by rw [idle.store_eq_fresh, Store.get_fresh]; rfl
  slot := idle.slot
  log := by simp
  generator := rfl
  stops := by rw [unstopped, Nat.zero_mul]
  size := rfl
  unmeasured _ := rfl
  measured positive := absurd positive (Nat.lt_irrefl 0)

/-- The next workload is measured to the end as well. -/
theorem succ (reached : Reached timer options selection begun count bench)
    (size : region.size = granules) (positive : 0 < region.base.toNat)
    (sized : options.repetitions.toNat = begun.room.size)
    (more : count < (workloads selection).length) :
    ∃ next, Reached timer options selection begun (count + 1) next := by
  have proper := proper_of_mem size (List.getElem_mem more)
  have split : (workloads selection).take (count + 1) =
      (workloads selection).take count ++ [(workloads selection)[count]] :=
    List.take_succ_eq_append_getElem more
  let progress : Bench region σ := { bench with
    output := bench.output ++ s!"[{100 * count / (workloads selection).length}%] " }
  have sizedNow : options.repetitions.toNat = progress.room.size := sized.trans reached.size.symm
  have idleNow : progress.monitor.Idle .nonsecure := reached.idle
  obtain ⟨summary, next, ended, new, log, generator, stops, room⟩ :=
    Workload.measure_of_new proper positive sizedNow idleNow timer
  refine ⟨next, {
    within := more
    ended := ?_
    pristine := fun target => by rw [new.store_eq_fresh, Store.get_fresh]; rfl
    slot := new.slot
    log := ?_
    generator := generator.trans reached.generator
    stops := ?_
    size := by rw [room, List.size_toArray, List.length_map, List.length_range', sized]
    unmeasured := fun none => absurd none (Nat.succ_ne_zero count)
    measured := fun _ i within => ?_ }⟩
  · rw [split, measureAll_append, Trial.bind_apply, reached.ended, reached.length_take]
    exact measureAll_singleton_of_ok ended
  · rw [log, reached.log, reached.generator, split, List.flatMap_append, List.flatMap_singleton,
      List.append_assoc]
  · rw [stops, reached.stops, Nat.succ_mul]
  · rw [room, List.getElem?_toArray, List.getElem?_map, List.getElem?_range' within, reached.stops]
    simp

end Reached

/-- On a new table any number of the workloads is measured to the end. -/
theorem exists_reached (size : region.size = granules) (positive : 0 < region.base.toNat)
    (sized : options.repetitions.toNat = begun.room.size) (idle : begun.monitor.Idle .nonsecure)
    (unstopped : begun.stops = 0) (timer : Timer) {count : Nat}
    (within : count ≤ (workloads selection).length) :
    ∃ bench, Reached timer options selection begun count bench := by
  induction count with
  | zero => exact ⟨begun, .zero idle unstopped⟩
  | succ count inductionHypothesis =>
    obtain ⟨bench, reached⟩ := inductionHypothesis (Nat.le_of_succ_le within)
    exact reached.succ size positive sized within

/-- With nothing selected, this is recorded and nothing else happens. -/
theorem run_of_nothing (none : workloads selection = []) :
    run timer options selection begun =
      .ok () { begun with monitor := { begun.monitor with
        log := begun.monitor.log.push .nothingSelected } } := by
  unfold run
  rw [none]
  rfl

/-- If memory can be had and the room for measurements has the right size, the suite begins on a new
table and runs to its end, on every processor and with every generator of random words. Each of the
selected workloads, which are those of the selected groups, begins on a new table and leaves one
behind, and only `Workload.findLockInvalid` leaves records, one of the lowest level for each
execution. The timer is stopped once for each execution, and in the end the room holds the readings
of the last workload. If none is selected, nothing is executed. -/
theorem completes_on_new_tables {host : Host} {memory : Memory}
    (obtained : Memory.obtain host (UInt64.ofNat granules) = .ok memory)
    {options : BenchOptions} {room : Array UInt32} (sized : options.repetitions.toNat = room.size)
    (timer : Timer) (selection : Selection) :
    (workloads selection).length =
        2 * selection.lock.toNat + 2 * selection.findLock.toNat + 8 * selection.lockSet.toNat +
          2 * selection.references.toNat + selection.zeroing.toNat ∧
      Composed selection ∧
      ∃ region : Region, start host room = .ok ⟨region, .start (.create region memory) room⟩ ∧
        region.size = granules ∧ ∀ (σ : Type) (generator : Generator σ) (cpu : Cpu),
          let begun := (Bench.startWith generator (.create region memory) room).onCpu cpu
          (∀ count ≤ (workloads selection).length, ∃ middle,
            Reached timer options selection begun count middle ∧
              (workloads selection ≠ [] → run timer options selection begun =
                measureAll timer options count (workloads selection).length
                  ((workloads selection).drop count) middle)) ∧
            ∃ last, run timer options selection begun = .ok () last ∧
              last.traces = selection.findLock.toNat * options.executions ∧
              (workloads selection ≠ [] →
                Reached timer options selection begun (workloads selection).length last) ∧
              (workloads selection = [] → last = { begun with monitor := { begun.monitor with
                log := begun.monitor.log.push .nothingSelected } }) := by
  obtain ⟨-, region, -, created⟩ := Memory.create_of_obtain obtained
  obtain ⟨-, -, -, size, base, -⟩ := Setting.create_backed created
  have positive : 0 < region.base.toNat := base ▸ host.base_pos
  refine ⟨length_workloads selection, composed selection, region, by rw [start, created], size,
    fun σ generator cpu => ?_⟩
  intro begun
  have idle : begun.monitor.Idle .nonsecure :=
    .of_fresh rfl (Windows.occupant?_empty cpu .delegated)
  have reaches {count : Nat} (within : count ≤ (workloads selection).length) :
      ∃ bench, Reached timer options selection begun count bench :=
    exists_reached size positive sized idle rfl timer within
  refine ⟨fun count within => ?_, ?_⟩
  · obtain ⟨middle, reached⟩ := reaches within
    exact ⟨middle, reached, reached.onward⟩
  · by_cases none : workloads selection = []
    · have unselected : selection.findLock.toNat = 0 := by
        rw [← (composed selection).findLockInvalid, none]
        rfl
      refine ⟨_, run_of_nothing none, ?_, fun some => absurd none some, fun _ => rfl⟩
      rw [unselected, Nat.zero_mul]
      rfl
    · obtain ⟨last, reached⟩ := reaches (Nat.le_refl _)
      refine ⟨last, ?_, ?_, fun _ => reached, fun nothing => absurd nothing none⟩
      · rw [reached.onward none, List.drop_length]
        rfl
      · rw [reached.traces_eq, List.take_length, (composed selection).findLockInvalid]
        exact Nat.zero_add _

/-- All workloads at the desktop, with one execution to warm up and four that are kept: five
addresses are turned down, the timer is stopped 75 times, and the last four readings stay. -/
theorem desktop_completes :
    ∃ memory, Memory.obtain .desktop (UInt64.ofNat granules) = .ok memory ∧
      (4 : UInt32).toNat = (#[0, 0, 0, 0] : Array UInt32).size ∧
        ∃ (region : Region) (last : Bench region),
          run (.counting programTicksPerMs) ⟨4, 1, "desktop"⟩ everything
              ((Bench.start (.create region memory) #[0, 0, 0, 0]).onCpu 3) = .ok () last ∧
            last.traces = 5 ∧ last.stops = 75 ∧
              ∀ i < 4, last.room[i]? = some (UInt32.ofNat (71 + i)) := by
  obtain ⟨memory, obtained⟩ : ∃ memory, Memory.obtain .desktop (UInt64.ofNat granules) =
      .ok memory := Memory.exists_obtain (by decide) (by decide)
  let options : BenchOptions := ⟨4, 1, "desktop"⟩
  have sized : options.repetitions.toNat = (#[0, 0, 0, 0] : Array UInt32).size := rfl
  obtain ⟨-, -, region, -, -, completes⟩ :=
    completes_on_new_tables obtained sized (.counting programTicksPerMs) everything
  obtain ⟨-, last, ended, traces, reached, -⟩ := completes _ ⟨benchDice, Xoshiro128.next⟩ 3
  have reached := reached (by decide)
  exact ⟨memory, obtained, sized, region, last, ended, traces, reached.stops,
    fun i within => reached.measured (by decide) i within⟩

end Suite

end GranuleMonitor
