import GranuleMonitor.Proofs.Benchmark.Task

/-!
# Measurements leave the table as it was

Apart from `Workload.lockTransition`, a workload gives back whatever it takes. This does not need a
new table: whichever roles and references the granules have, each execution ends in order or by a
fault, and either way all descriptors are as before (`Workload.ends_task`). A harness that only
repeats executions cannot do worse, so the same holds of a whole measurement. Nobody may hold a lock
when it begins, since a workload would wait for it.
-/

namespace GranuleMonitor

variable {region : Region} {σ α β : Type}

/-- Something comes to an end, in order or by a fault, and leaves a state with a property. -/
def Ends (property : σ → Prop) : EStateM.Result (Halt region) σ α → Prop
  | .ok _ last => property last
  | .error (.fault _) last => property last
  | .error (.waiting _) _ => False

theorem ends_iff {property : σ → Prop} {result : EStateM.Result (Halt region) σ α} :
    Ends property result ↔
      ∃ last, property last ∧
        ((∃ value, result = .ok value last) ∨ ∃ cause, result = .error (.fault cause) last) := by
  cases result with
  | ok value last => simp [Ends]
  | error halt last => cases halt <;> simp [Ends]

namespace Trial

variable {store : Store region}

/-- An action that finds a store comes to an end and leaves the same store. -/
def Spares (store : Store region) (action : Trial region σ α) : Prop :=
  ∀ bench : Bench region σ, bench.monitor.store = store →
    Ends (fun last : Bench region σ => last.monitor.store = store) (action bench)

theorem spares_pure (value : α) : (pure value : Trial region σ α).Spares store :=
  fun _ same => same

theorem spares_get : (get : Trial region σ (Bench region σ)).Spares store := fun _ same => same

theorem spares_print (text : String) : (print text : Trial region σ Unit).Spares store :=
  fun _ same => same

/-- Actions that follow one another spare the store if each of them does. -/
theorem Spares.bind {action : Trial region σ α} {next : α → Trial region σ β}
    (first : action.Spares store) (rest : ∀ value, (next value).Spares store) :
    (action >>= next).Spares store := by
  intro bench same
  have ended := first bench same
  rw [bind_apply]
  cases result : action bench with
  | ok value middle =>
    rw [result] at ended
    exact rest value middle ended
  | error halt last =>
    rw [result] at ended
    cases halt <;> exact ended

end Trial

namespace Workload

variable {workload : Workload}

/-- A set that is drawn is locked and given back, or is given up at the first granule that is not
non-secure. -/
theorem ends_task_lockSet {monitor : Monitor region} {size : Nat} (enough : size ≤ region.size)
    (free : ∀ index, (monitor.store.get (.entry index)).locked = false)
    (generator : Generator σ) (role : Role) (dice : σ) :
    Ends (fun last : Monitor region => last.store = monitor.store)
      ((lockSet size).task generator role dice monitor) := by
  by_cases empty : size = 0
  · rw [task, if_pos empty]
    exact rfl
  have positive : 0 < size := Nat.pos_of_ne_zero empty
  obtain ⟨roles, granule, leads⟩ :=
    Region.leads_randomSet generator.next dice positive enough
  by_cases mismatch : ∃ position, Mismatches monitor
      (region.randomSet size generator.next dice).1 granule position
  · -- the locks that were taken before the mismatch are given back, in order or with a fault
    obtain ⟨last, kept, faults, refused⟩ :=
      lockSet_of_mismatch leads (fun _ => free _) mismatch
    rw [task, if_neg empty, Act.bind_apply]
    by_cases obstructed : ∃ position, Obstructs monitor
        (region.randomSet size generator.next dice).1 granule position
    · obtain ⟨position, -, ended⟩ := faults obstructed
      rw [ended]
      exact kept
    · rw [refused obstructed]
      exact kept
  · rw [not_exists] at mismatch
    rw [task_lockSet_of_match generator role dice positive roles leads (fun _ => free _) mismatch]
    exact rfl

/-- Whatever the granules are, a task comes to an end and leaves the descriptors as they were. -/
theorem ends_task {monitor : Monitor region} (keeps : workload ≠ .lockTransition)
    (fits : workload.setupFault? region = none)
    (free : ∀ index, (monitor.store.get (.entry index)).locked = false)
    (generator : Generator σ) (role : Role) (dice : σ) :
    Ends (fun last : Monitor region => last.store = monitor.store)
      (workload.task generator role dice monitor) := by
  have first : (monitor.store.get region.first).locked = false := free _
  cases workload with
  | lockTransition => exact absurd rfl keeps
  | lockUnlock =>
    rw [task_lockUnlock_apply generator role dice first]
    split <;> exact rfl
  | findLock =>
    obtain ⟨index, -, -, found⟩ := region.randomAddress_eq (generator.next dice).1
    rw [task, found, tryOut_address (free index)]
    split <;> exact rfl
  | findLockInvalid =>
    rw [task, tryOut_of_unknown (region.index?_randomInvalidAddress (generator.next dice).1)]
    exact rfl
  | atomicReferences =>
    rw [task_atomicReferences_apply, Act.failIf_apply]
    split <;> exact rfl
  | lockedReferences =>
    rw [task_lockedReferences_apply generator role dice first]
    split
    · split <;> exact rfl
    · exact rfl
  | zeroing =>
    rw [task_zeroing_apply generator role dice first]
    split
    · split <;> exact rfl
    · exact rfl
  | lockSet size =>
    have enough : size ≤ region.size := by
      by_contra large
      rw [setupFault?, if_neg large] at fits
      contradiction
    exact ends_task_lockSet enough free generator role dice

theorem spares_store {store : Store region} (place : Nat) (time : UInt32) :
    (Workload.store place time : Trial region σ Unit).Spares store := fun _ same => same

section Measurement

variable {store : Store region} (keeps : workload ≠ .lockTransition)
  (fits : workload.setupFault? region = none)
  (free : ∀ index, (store.get (.entry index)).locked = false) (timer : Timer)
include keeps fits free

theorem spares_execute : (workload.execute timer : Trial region σ UInt32).Spares store := by
  rintro bench rfl
  have ended := ends_task keeps fits free bench.generator bench.role bench.dice
  rw [execute_apply]
  cases result : workload.task bench.generator bench.role bench.dice bench.monitor with
  | ok value last =>
    rw [result] at ended
    exact ended
  | error halt last =>
    rw [result] at ended
    cases halt <;> exact ended

theorem spares_warmUp (count : Nat) :
    (workload.warmUp timer count : Trial region σ Unit).Spares store := by
  induction count with
  | zero => exact Trial.spares_pure ()
  | succ count inductionHypothesis =>
    exact (spares_execute keeps fits free timer).bind fun _ => inductionHypothesis

theorem spares_fillRoom (left : Nat) :
    (workload.fillRoom timer left : Trial region σ Unit).Spares store := by
  induction left with
  | zero => exact Trial.spares_pure ()
  | succ left inductionHypothesis =>
    exact (spares_execute keeps fits free timer).bind fun time => Trial.spares_get.bind fun bench =>
      (spares_store _ time).bind fun _ => inductionHypothesis

theorem spares_trial (options : BenchOptions) :
    (workload.trial timer options : Trial region σ Summary).Spares store := by
  refine Trial.spares_get.bind fun bench => ?_
  dsimp only
  split
  · exact fun _ same => same
  · exact (Trial.spares_print _).bind fun _ => (Trial.spares_print _).bind fun _ =>
      (spares_warmUp keeps fits free timer _).bind fun _ =>
      (spares_fillRoom keeps fits free timer _).bind fun _ => Trial.spares_get.bind fun _ =>
      (Trial.spares_print _).bind fun _ => (Trial.spares_print _).bind fun _ =>
      Trial.spares_pure _

end Measurement

/-- Only `Workload.lockTransition` leaves something to make up for. -/
theorem concluding_conclude (keeps : workload ≠ .lockTransition) (action : Trial region σ α)
    (bench : Bench region σ) : concluding action workload.conclude bench = action bench := by
  have nothing : (workload.conclude : Trial region σ Unit) = pure () := by
    cases workload with
    | lockTransition => exact absurd rfl keeps
    | lockUnlock | findLock | findLockInvalid | atomicReferences | lockedReferences | zeroing
    | lockSet => rfl
  rw [concluding, nothing]
  cases action bench <;> rfl

/-- A measurement that begins with no granule locked comes to an end, in order or by a fault, and
leaves the lock, the role and the references of every granule as they were. -/
theorem measure_spares_table (keeps : workload ≠ .lockTransition) (timer : Timer)
    (options : BenchOptions) {bench : Bench region σ}
    (free : ∀ index, (bench.monitor.store.get (.entry index)).locked = false) :
    ∃ last, last.monitor.store = bench.monitor.store ∧
      ((∃ summary, workload.measure timer options bench = .ok summary last) ∨
        ∃ cause, workload.measure timer options bench = .error (.fault cause) last) := by
  rw [← ends_iff, measure]
  cases fits : workload.setupFault? region with
  | some cause => exact rfl
  | none =>
    have ended := spares_trial keeps fits free timer options bench.prepared rfl
    simp only [Trial.bind_apply, Trial.prepare_apply, concluding_conclude keeps]
    exact ended

/-- Three granules. The lowest one has as many references as can be counted, and the highest one is
used for data. -/
def worn : Bench threeGranules :=
  .start { Monitor.create threeGranules .absent with
    store := ((Store.fresh threeGranules).set threeGranules.first
      ⟨.nonsecure, 0xffffffffffffffff, false⟩).set (.entry ⟨2, by decide⟩) ⟨.data, 1, false⟩ } #[0]

/-- One more reference is counted as none, and there is none to give back then. All the same the
count is as before. -/
theorem worn_spared :
    (∀ index, (worn.monitor.store.get (.entry index)).locked = false) ∧
      ∃ last, last.monitor.store = worn.monitor.store ∧
        atomicReferences.measure (.replay #[7] 1000) ⟨1, 1, "desktop"⟩ worn =
          .error (.fault .referenceMissing) last := by
  have free : ∀ index, (worn.monitor.store.get (.entry index)).locked = false := by decide
  have keeps : atomicReferences ≠ .lockTransition := by decide
  obtain ⟨final, ended⟩ : ∃ final,
      atomicReferences.measure (.replay #[7] 1000) ⟨1, 1, "desktop"⟩ worn =
        .error (.fault .referenceMissing) final := ⟨_, rfl⟩
  obtain ⟨last, kept, outcome⟩ :=
    measure_spares_table keeps (.replay #[7] 1000) ⟨1, 1, "desktop"⟩ free
  rw [ended] at outcome
  obtain rfl : final = last := by simpa using outcome
  exact ⟨free, final, kept, ended⟩

end Workload

end GranuleMonitor
