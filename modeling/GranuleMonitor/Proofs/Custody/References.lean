import GranuleMonitor.Proofs.Custody.Tidiness
import Mathlib.Data.Int.ModEq

/-!
# References are conserved

References are counted under the lock, where an amount that does not fit is refused and nothing
changes, and without it, where the count goes round at both ends and a reference that is missing is
found out too late. Both kinds work on the same count. `Custody.Accounts` says of every operation
what becomes of one granule's count, and `Custody.accounts` that this is so for every custody.

`Event.added` and `Event.removed` are what an event contributes. The count and the contributions of
a run agree modulo the number of words, and exactly as long as nothing faults and not too much is
added: `Custody.references_conserved`.
-/

namespace GranuleMonitor

variable {region : Region}

namespace Descriptor

variable (descriptor : Descriptor) (amount : UInt64)

/-- References are added under the lock if their number stays a word. -/
theorem raise_eq :
    descriptor.raise amount =
      if descriptor.references.toNat + amount.toNat < UInt64.size then
        .ok { descriptor with references := descriptor.references + amount }
      else .error (.referenceOverflow descriptor.references amount) := by
  by_cases fits : descriptor.references.toNat + amount.toNat < UInt64.size <;>
    simp [raise, Word.add?, fits]

/-- References are removed under the lock if there are so many. -/
theorem lower_eq :
    descriptor.lower amount =
      if amount.toNat ≤ descriptor.references.toNat then
        .ok { descriptor with references := descriptor.references - amount }
      else .error (.referenceUnderflow descriptor.references amount) := by
  by_cases enough : amount.toNat ≤ descriptor.references.toNat <;>
    simp [lower, Word.sub?, UInt64.le_iff_toNat_le, enough]

/-- Without the lock, the number of references is one lower, or the highest one after zero. -/
theorem toNat_references_drop :
    descriptor.drop.references.toNat =
      if descriptor.references = 0 then UInt64.size - 1 else descriptor.references.toNat - 1 := by
  by_cases missing : descriptor.references = 0
  · simp [drop, missing]
  · have positive : 1 ≤ descriptor.references := by
      rw [UInt64.le_iff_toNat_le, UInt64.toNat_one, Nat.one_le_iff_ne_zero, ← UInt64.toNat_zero]
      exact fun same => missing (UInt64.toNat_inj.mp same)
    rw [if_neg missing, drop, UInt64.toNat_sub_of_le _ _ positive, UInt64.toNat_one]

end Descriptor

/-- The operation counts references to a granule. -/
def Operation.Counts (operation : Operation region) (target : Target region) : Prop :=
  match operation with
  | .useGuard guard (.raise _) | .useGuard guard (.lower _) => guard.target = target
  | .count _ place => place.target region = .ok target
  | _ => False

instance (operation : Operation region) (target : Target region) :
    Decidable (operation.Counts target) := by
  unfold Operation.Counts
  split <;> infer_instance

namespace Event

/-- How many references to a granule an event adds. Under the lock, what is refused adds nothing. -/
def added (event : Event region) (target : Target region) : Nat :=
  match event.operation, event.outcome with
  | .useGuard guard (.raise amount), .replied _ =>
    if guard.target = target then amount.toNat else 0
  | .count .gain place, _ => if (place.target region).toOption = some target then 1 else 0
  | _, _ => 0

/-- How many references to a granule an event removes. Under the lock, what is refused removes
nothing. A reference that is given back without the lock counts also if it is missing. -/
def removed (event : Event region) (target : Target region) : Nat :=
  match event.operation, event.outcome with
  | .useGuard guard (.lower amount), .replied _ =>
    if guard.target = target then amount.toNat else 0
  | .count .drop place, _ => if (place.target region).toOption = some target then 1 else 0
  | _, _ => 0

/-- How many references to a granule all events add. -/
def totalAdded (events : List (Event region)) (target : Target region) : Nat :=
  (events.map (·.added target)).sum

/-- How many references to a granule all events remove. -/
def totalRemoved (events : List (Event region)) (target : Target region) : Nat :=
  (events.map (·.removed target)).sum

variable {operation : Operation region} {outcome : Outcome region} {target : Target region}

theorem totalAdded_cons (first : Event region) (rest : List (Event region)) :
    totalAdded (first :: rest) target = first.added target + totalAdded rest target :=
  List.sum_cons

theorem totalRemoved_cons (first : Event region) (rest : List (Event region)) :
    totalRemoved (first :: rest) target = first.removed target + totalRemoved rest target :=
  List.sum_cons

/-- What does not count references to a granule contributes none. -/
theorem contributes_nothing (other : ¬ operation.Counts target) :
    added ⟨operation, outcome⟩ target = 0 ∧ removed ⟨operation, outcome⟩ target = 0 := by
  cases operation with
  | useGuard guard call =>
    cases call with
    | raise amount =>
      have differs : guard.target ≠ target := other
      cases outcome <;> simp [added, removed, differs]
    | lower amount =>
      have differs : guard.target ≠ target := other
      cases outcome <;> simp [added, removed, differs]
    | _ => exact ⟨rfl, rfl⟩
  | count call place =>
    have elsewhere : (place.target region).toOption ≠ some target :=
      fun leads => other (toOption_eq_some_iff.mp leads)
    cases call <;> simp [added, removed, elsewhere]
  | _ => exact ⟨rfl, rfl⟩

end Event

namespace Custody

/-- The number of references to a granule. -/
def references (custody : Custody region) (target : Target region) : Nat :=
  (custody.monitor.store.get target).references.toNat

/-- What becomes of the references to one granule, whatever is done next. -/
structure Accounts (custody : Custody region) (target : Target region) : Prop where
  /-- Under the lock, references are added unless their number would be no word. -/
  raise : ⟨target⟩ ∈ custody.live → ∀ amount,
    let ended := custody.step (.useGuard ⟨target⟩ (.raise amount))
    if custody.references target + amount.toNat < UInt64.size then
      ended.1 = .replied .done ∧
        ended.2.references target = custody.references target + amount.toNat
    else
      ended.1 = .halted (.fault (.referenceOverflow
          (custody.monitor.store.get target).references amount)) ∧
        ended.2.references target = custody.references target
  /-- Under the lock, references are removed unless there are not so many. -/
  lower : ⟨target⟩ ∈ custody.live → ∀ amount,
    let ended := custody.step (.useGuard ⟨target⟩ (.lower amount))
    if amount.toNat ≤ custody.references target then
      ended.1 = .replied .done ∧
        ended.2.references target = custody.references target - amount.toNat
    else
      ended.1 = .halted (.fault (.referenceUnderflow
          (custody.monitor.store.get target).references amount)) ∧
        ended.2.references target = custody.references target
  /-- Without the lock, adding a reference never faults, and the count goes round at its end. -/
  gain : ∀ place : Place, place.target region = .ok target →
    let ended := custody.step (.count .gain place)
    ended.1 = .replied .done ∧
      ended.2.references target = (custody.references target + 1) % UInt64.size
  /-- Without the lock, a missing reference is found out after the count went round. -/
  drop : ∀ place : Place, place.target region = .ok target →
    let ended := custody.step (.count .drop place)
    if custody.references target = 0 then
      ended.1 = .halted (.fault .referenceMissing) ∧ ended.2.references target = UInt64.size - 1
    else
      ended.1 = .replied .done ∧ ended.2.references target = custody.references target - 1
  /-- Nothing else changes the count. -/
  other : ∀ operation : Operation region, ¬ operation.Counts target →
    (custody.step operation).2.references target = custody.references target

variable {custody : Custody region} {target : Target region}

/-- After a write, the references to a granule are those written to it. -/
theorem references_set {monitor : Monitor region} {live : List (Guard region)}
    {store : Store region} {descriptor : Descriptor}
    (written : monitor.store = store.set target descriptor) :
    references ⟨monitor, live⟩ target = descriptor.references.toNat := by
  rw [references, written, Store.get_set_self]

/-- How a use of a guard ends that replaces the descriptor or finds a fault before that. -/
def recount (custody : Custody region) (guard : Guard region) :
    Except Fault Descriptor → Outcome region × Custody region
  | .ok after => (.replied .done, ⟨{ custody.monitor with
      store := custody.monitor.store.set guard.target after }, custody.live⟩)
  | .error cause => (.halted (.fault cause), custody)

/-- References are added under the lock, or refused with no effect at all. -/
theorem step_raise {guard : Guard region} (mine : guard ∈ custody.live) (amount : UInt64) :
    custody.step (.useGuard guard (.raise amount)) =
      custody.recount guard ((custody.monitor.store.get guard.target).raise amount) := by
  have alive : (Operation.useGuard guard (.raise amount)).guard?.all custody.live.contains := by
    simpa [Operation.guard?] using mine
  have ended : (GuardCall.raise amount).perform guard custody.monitor = _ :=
    Act.bind_apply _ _ _
  rw [Guard.raise_apply] at ended
  cases raised : (custody.monitor.store.get guard.target).raise amount with
  | ok after =>
    rw [raised] at ended
    exact step_of_ok id ended alive rfl
  | error cause =>
    rw [raised] at ended
    exact step_of_fault id ended alive rfl

/-- References are removed under the lock, or refused with no effect at all. -/
theorem step_lower {guard : Guard region} (mine : guard ∈ custody.live) (amount : UInt64) :
    custody.step (.useGuard guard (.lower amount)) =
      custody.recount guard ((custody.monitor.store.get guard.target).lower amount) := by
  have alive : (Operation.useGuard guard (.lower amount)).guard?.all custody.live.contains := by
    simpa [Operation.guard?] using mine
  have ended : (GuardCall.lower amount).perform guard custody.monitor = _ :=
    Act.bind_apply _ _ _
  rw [Guard.lower_apply] at ended
  cases lowered : (custody.monitor.store.get guard.target).lower amount with
  | ok after =>
    rw [lowered] at ended
    exact step_of_ok id ended alive rfl
  | error cause =>
    rw [lowered] at ended
    exact step_of_fault id ended alive rfl

/-- Adding a reference without the lock is one write. -/
theorem step_gain {place : Place} (leads : place.target region = .ok target) :
    custody.step (.count .gain place) =
      (.replied .done, ⟨{ custody.monitor with
        store := custody.monitor.store.set target (custody.monitor.store.get target).gain },
        custody.live⟩) := by
  have ended := target.gain_apply custody.monitor
  change Session.countOnce target .gain custody.monitor = _ at ended
  rw [← CountCall.perform_eq _ leads] at ended
  exact step_of_ok (fun _ => .done) ended rfl rfl

/-- Removing a reference without the lock is one write, which a fault does not undo. -/
theorem step_drop {place : Place} (leads : place.target region = .ok target) :
    custody.step (.count .drop place) =
      (.ofFault? (custody.monitor.store.get target).dropFault?, ⟨{ custody.monitor with
        store := custody.monitor.store.set target (custody.monitor.store.get target).drop },
        custody.live⟩) := by
  have ended := target.drop_apply custody.monitor
  change Session.countOnce target .drop custody.monitor = _ at ended
  rw [← CountCall.perform_eq _ leads, Act.failIf_apply] at ended
  cases fault : (custody.monitor.store.get target).dropFault? with
  | none =>
    rw [fault] at ended
    exact step_of_ok (fun _ => .done) ended rfl rfl
  | some cause =>
    rw [fault] at ended
    exact step_of_fault (fun _ => .done) ended rfl rfl

/-- An effect that does not count references to a granule leaves their number alone. -/
theorem references_of_effect {before after : Custody region} {operation : Operation region}
    {outcome : Outcome region} (effect : Effect before operation outcome after)
    (other : ¬ operation.Counts target) : after.references target = before.references target := by
  unfold references
  cases effect with
  | kept store => rw [store]
  | granted nodup free store =>
    rw [store, Store.get_adjust_lock]
    split <;> rfl
  | @used guard call outcome monitor mine store =>
    rw [store, Store.afterUse, Store.get_set]
    split
    · next same =>
      subst same
      cases call with
      | raise amount => exact absurd rfl other
      | lower amount => exact absurd rfl other
      | _ => rfl
    · rfl
  | released mine store =>
    rw [store, Store.get_set]
    split
    · next same =>
      subst same
      rfl
    · rfl
  | abandoned mine store =>
    rw [store, Store.get_set]
    split
    · next same =>
      subst same
      rfl
    · rfl
  | counted leads store =>
    have elsewhere : target ≠ _ := fun same => other (same ▸ leads)
    rw [store, Store.afterCount, Store.get_set_ne _ _ elsewhere]

/-- The references to every granule are counted like this, in every custody. -/
theorem accounts (custody : Custody region) (target : Target region) :
    custody.Accounts target where
  raise mine amount := by
    rw [step_raise mine, Descriptor.raise_eq]
    change if (custody.monitor.store.get target).references.toNat + amount.toNat < _ then _ else _
    split
    · next fits =>
      refine ⟨rfl, (references_set rfl).trans ?_⟩
      rw [UInt64.toNat_add, Nat.mod_eq_of_lt fits]
      rfl
    · next overflows =>
      exact ⟨rfl, rfl⟩
  lower mine amount := by
    rw [step_lower mine, Descriptor.lower_eq]
    change if amount.toNat ≤ (custody.monitor.store.get target).references.toNat then _ else _
    split
    · next enough =>
      refine ⟨rfl, (references_set rfl).trans ?_⟩
      rw [UInt64.toNat_sub_of_le _ _ (UInt64.le_iff_toNat_le.mpr enough)]
      rfl
    · next short =>
      exact ⟨rfl, rfl⟩
  gain place leads := by
    rw [step_gain leads]
    refine ⟨rfl, (references_set rfl).trans ?_⟩
    rw [Descriptor.gain, UInt64.toNat_add]
    rfl
  drop place leads := by
    rw [step_drop leads]
    have missing_iff : custody.references target = 0 ↔
        (custody.monitor.store.get target).references = 0 := by
      rw [references, ← UInt64.toNat_zero, UInt64.toNat_inj]
    have dropped := Descriptor.toNat_references_drop (custody.monitor.store.get target)
    simp only [missing_iff]
    split
    · next missing =>
      rw [if_pos missing] at dropped
      exact ⟨by rw [Descriptor.dropFault?, if_pos missing]; rfl, (references_set rfl).trans dropped⟩
    · next present =>
      rw [if_neg present] at dropped
      exact ⟨by rw [Descriptor.dropFault?, if_neg present]; rfl, (references_set rfl).trans dropped⟩
  other operation others := references_of_effect (custody.step_effect operation) others

/-- How the references to a granule go with an event: exactly, or once round the upper end, or once
round the lower end, and then a count of this granule faults. -/
def Books (before after : Custody region) (event : Event region) (target : Target region) : Prop :=
  after.references target + event.removed target =
      before.references target + event.added target ∨
    after.references target + event.removed target + UInt64.size =
      before.references target + event.added target ∨
    after.references target + event.removed target =
        before.references target + event.added target + UInt64.size ∧
      event.operation.Counts target ∧ event.outcome.isFault = true

/-- What has no effect and contributes nothing is in the books. -/
theorem books_of_nothing {before after : Custody region} {event : Event region}
    (same : after.references target = before.references target)
    (added : event.added target = 0) (removed : event.removed target = 0) :
    Books before after event target :=
  .inl (by rw [same, added, removed])

/-- A use of the guard of a granule is in the books. -/
theorem books_useGuard (custody : Custody region) (guard : Guard region) (call : GuardCall) :
    Books custody (custody.step (.useGuard guard call)).2
      ⟨.useGuard guard call, (custody.step (.useGuard guard call)).1⟩ guard.target := by
  by_cases counts : (Operation.useGuard guard call).Counts guard.target
  case neg =>
    obtain ⟨added, removed⟩ := Event.contributes_nothing counts
    exact books_of_nothing ((accounts custody _).other _ counts) added removed
  by_cases mine : guard ∈ custody.live
  case neg =>
    rw [step_of_dead (by simpa [Operation.guard?] using mine)]
    exact books_of_nothing rfl (by cases call <;> rfl) (by cases call <;> rfl)
  cases call with
  | raise amount =>
    have counted := (accounts custody guard.target).raise mine amount
    dsimp only at counted
    split at counted
    · obtain ⟨replied, references⟩ := counted
      left
      rw [replied, references]
      simp [Event.added, Event.removed]
    · obtain ⟨halted, references⟩ := counted
      rw [halted]
      exact books_of_nothing references rfl rfl
  | lower amount =>
    have counted := (accounts custody guard.target).lower mine amount
    dsimp only at counted
    split at counted
    · next enough =>
      obtain ⟨replied, references⟩ := counted
      left
      rw [replied, references]
      simp [Event.added, Event.removed]
      omega
    · obtain ⟨halted, references⟩ := counted
      rw [halted]
      exact books_of_nothing references rfl rfl
  | _ => exact counts.elim

/-- A reference that is counted without the lock is in the books. -/
theorem books_count (custody : Custody region) (call : CountCall) {place : Place}
    {target : Target region} (leads : place.target region = .ok target) :
    Books custody (custody.step (.count call place)).2
      ⟨.count call place, (custody.step (.count call place)).1⟩ target := by
  have isWord : custody.references target < UInt64.size := UInt64.toNat_lt _
  have found := toOption_eq_some_iff.mpr leads
  cases call with
  | gain =>
    obtain ⟨replied, references⟩ := (accounts custody target).gain place leads
    have added : Event.added ⟨.count .gain place, .replied .done⟩ target = 1 := if_pos found
    have removed : Event.removed ⟨.count .gain place, .replied .done⟩ target = 0 := rfl
    unfold Books
    rw [replied, references, added, removed]
    by_cases last : custody.references target + 1 = UInt64.size
    · rw [last, Nat.mod_self]
      exact .inr (.inl rfl)
    · rw [Nat.mod_eq_of_lt (by omega)]
      exact .inl rfl
  | drop =>
    have counted := (accounts custody target).drop place leads
    dsimp only at counted
    split at counted
    · next missing =>
      obtain ⟨halted, references⟩ := counted
      have added :
          Event.added ⟨.count .drop place, .halted (.fault .referenceMissing)⟩ target = 0 := rfl
      have removed :
          Event.removed ⟨.count .drop place, .halted (.fault .referenceMissing)⟩ target = 1 :=
        if_pos found
      refine .inr (.inr ?_)
      rw [halted, references, missing, added, removed]
      exact ⟨rfl, leads, rfl⟩
    · next present =>
      obtain ⟨replied, references⟩ := counted
      have added : Event.added ⟨.count .drop place, .replied .done⟩ target = 0 := rfl
      have removed : Event.removed ⟨.count .drop place, .replied .done⟩ target = 1 :=
        if_pos found
      left
      rw [replied, references, added, removed]
      omega

/-- Every step is in the books. -/
theorem books_step (custody : Custody region) (operation : Operation region)
    (target : Target region) :
    Books custody (custody.step operation).2 ⟨operation, (custody.step operation).1⟩ target := by
  by_cases counts : operation.Counts target
  case neg =>
    obtain ⟨added, removed⟩ := Event.contributes_nothing counts
    exact books_of_nothing ((accounts custody _).other _ counts) added removed
  cases operation with
  | useGuard guard call =>
    have same : guard.target = target := by
      cases call <;> first | exact counts | exact counts.elim
    exact same ▸ books_useGuard custody guard call
  | count call place => exact books_count custody call counts
  | _ => exact counts.elim

/-- Round either end, the count is the same modulo the number of words. -/
theorem Books.modEq {before after : Custody region} {event : Event region}
    (books : Books before after event target) :
    after.references target + event.removed target ≡
      before.references target + event.added target [MOD UInt64.size] := by
  rcases books with exact | above | ⟨under, -⟩
  · rw [exact]
  · rw [← above]
    exact (Nat.add_modEq_right).symm
  · rw [under]
    exact Nat.add_modEq_right

/-- The references to a granule are what was added less what was removed, modulo the number of
words. -/
theorem modEq_play (operations : List (Operation region)) (custody : Custody region)
    (target : Target region) :
    (custody.play operations).2.references target +
        Event.totalRemoved (custody.play operations).1 target ≡
      custody.references target + Event.totalAdded (custody.play operations).1 target
        [MOD UInt64.size] := by
  induction operations generalizing custody with
  | nil => rfl
  | cons first rest inductionHypothesis =>
    have firstBooks := (books_step custody first target).modEq
    have laterBooks := inductionHypothesis (custody.step first).2
    rw [play_cons]
    simp only [Event.totalAdded_cons, Event.totalRemoved_cons]
    calc
      _ = _ + Event.totalRemoved ((custody.step first).2.play rest).1 target +
          Event.removed ⟨first, (custody.step first).1⟩ target := by
        rw [add_left_comm, add_comm]
      _ ≡ _ [MOD UInt64.size] := laterBooks.add_right _
      _ = _ + Event.totalAdded ((custody.step first).2.play rest).1 target :=
        add_right_comm _ _ _
      _ ≡ _ [MOD UInt64.size] := firstBooks.add_right _
      _ = _ := add_assoc _ _ _

/-- As long as no count of a granule faults and what is added stays a word, the references to it are
exactly what was added less what was removed. -/
theorem references_play (operations : List (Operation region)) {custody : Custody region}
    {target : Target region}
    (orderly : ∀ event ∈ (custody.play operations).1,
      event.operation.Counts target → event.outcome.isFault = false)
    (fits : custody.references target + Event.totalAdded (custody.play operations).1 target <
      UInt64.size) :
    (custody.play operations).2.references target +
        Event.totalRemoved (custody.play operations).1 target =
      custody.references target + Event.totalAdded (custody.play operations).1 target := by
  induction operations generalizing custody with
  | nil => rfl
  | cons first rest inductionHypothesis =>
    rw [play_cons] at orderly fits ⊢
    obtain ⟨firstOrderly, laterOrderly⟩ := List.forall_mem_cons.mp orderly
    simp only [Event.totalAdded_cons, Event.totalRemoved_cons] at fits ⊢
    have exact : (custody.step first).2.references target +
          Event.removed ⟨first, (custody.step first).1⟩ target =
        custody.references target + Event.added ⟨first, (custody.step first).1⟩ target := by
      rcases books_step custody first target with exact | above | ⟨-, counts, fault⟩
      · exact exact
      · omega
      · rw [firstOrderly counts] at fault
        contradiction
    have later := inductionHypothesis laterOrderly (by omega)
    omega

/-- References are conserved. After every run on a new table, the number of references to a granule
is what was added to it less what was removed, modulo the number of words; and exactly so if no
count of the granule faulted and what was added is a word. What comes next, whatever it is, is
counted as `Accounts` says. -/
theorem references_conserved (memory : Memory) (operations : List (Operation region))
    (target : Target region) :
    let run := (start (Monitor.create region memory)).play operations
    run.2.references target + Event.totalRemoved run.1 target ≡
        Event.totalAdded run.1 target [MOD UInt64.size] ∧
      ((∀ event ∈ run.1, event.operation.Counts target → event.outcome.isFault = false) →
        Event.totalAdded run.1 target < UInt64.size →
          run.2.references target + Event.totalRemoved run.1 target =
            Event.totalAdded run.1 target) ∧
      run.2.Accounts target := by
  intro run
  have none : (start (Monitor.create region memory)).references target = 0 := by
    rw [references, start, Monitor.get_create]
    rfl
  have conserved := modEq_play operations (start (Monitor.create region memory)) target
  rw [none, zero_add] at conserved
  refine ⟨conserved, fun orderly fits => ?_, accounts run.2 target⟩
  have counted := references_play operations orderly (by rwa [none, zero_add])
  rwa [none, zero_add] at counted

/-- Counts references to one granule in both ways, while another granule is in the way. -/
def errand : List (Operation threeGranules) :=
  [.acquire (.lockAt ⟨0x1000, .nonsecure⟩),
    .count .gain (.granule 0x1000),
    .useGuard lowest (.raise 7),
    .useGuard lowest (.lower 2),
    .acquire (.lock (.granule 0x2000) .data),
    .useGuard middle (.raise 4),
    .count .drop (.granule 0x1000)]

/-- Of eight references three are removed again, and no more can be removed than are left. -/
theorem errand_conserved :
    let run := (start (Monitor.create threeGranules .absent)).play errand
    run.2.references lowest.target + 3 = 8 ∧
      (run.2.step (.useGuard lowest (.lower 6))).1 =
        .halted (.fault (.referenceUnderflow 5 6)) := by
  have orderly : ∀ event ∈ ((start (Monitor.create threeGranules .absent)).play errand).1,
      event.operation.Counts lowest.target → event.outcome.isFault = false := by
    decide +kernel
  have mine : lowest ∈ ((start (Monitor.create threeGranules .absent)).play errand).2.live := by
    decide +kernel
  have added : Event.totalAdded ((start (Monitor.create threeGranules .absent)).play errand).1
      lowest.target = 8 := by
    decide +kernel
  have removed : Event.totalRemoved ((start (Monitor.create threeGranules .absent)).play errand).1
      lowest.target = 3 := by
    decide +kernel
  obtain ⟨-, conserved, accounts⟩ := references_conserved .absent errand lowest.target
  have counted := conserved orderly (by rw [added]; decide)
  rw [added, removed] at counted
  have five : ((start (Monitor.create threeGranules .absent)).play errand).2.references
      lowest.target = 5 := by
    omega
  have refused := accounts.lower mine 6
  dsimp only at refused
  rw [five, if_neg (by decide), UInt64.toNat_inj.mp (five.trans (by decide : 5 = (5 : UInt64).toNat))]
    at refused
  exact ⟨counted, refused.1⟩

end Custody

end GranuleMonitor
