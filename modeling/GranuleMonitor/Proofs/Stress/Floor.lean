import GranuleMonitor.Proofs.Stress.Ledger

/-!
# Workers on one floor

Between two calls, whatever the workers have done so far, a granule is either at rest with nobody
about to use it, or it is locked and one worker is about to use it and to give it back in order:
`Floor.Tended`. A floor is `Floor.Sound` if this is so for all its granules and if the references
are what the pending calls owe. `Floor.Sound.progress` says what a step of such a floor can be, and
`Floor.Sound.steps` that the floor stays sound in every run.
-/

namespace GranuleMonitor

variable {region : Region} {k : Nat}

namespace Stress

/-- How a granule is left: non-secure, or delegated with zero content. -/
def Arena.Settled (arena : Arena region) (index : Fin region.size) : Prop :=
  (arena.get index).role = .nonsecure ∨
    index.val < sharedGranules ∧ (arena.get index).role = .delegated ∧ arena.Zeroed index

namespace Floor

/-- The calls that a worker is about to make before it begins another round. -/
def pending (floor : Floor region k) (worker : Fin k) : List (Call region) :=
  (floor.workers.get worker).pending

/-- How a granule is found between two calls. -/
inductive Tended (floor : Floor region k) (index : Fin region.size) : Prop where
  /-- It is at rest. -/
  | free (unlocked : (floor.arena.get index).locked = false)
      (unused : ∀ worker, ¬ Holds (floor.pending worker) index)
      (settled : floor.arena.Settled index)
  /-- One worker has its lock and is going to give it back. -/
  | held (worker : Fin k) (locked : (floor.arena.get index).locked = true)
      (alone : ∀ other, Holds (floor.pending other) index → other = worker)
      (ready : Ready index (floor.pending worker) (floor.arena.get index).role
        (floor.arena.Zeroed index))

/-- All granules are tended to, no worker was broken off, and what is owed is owed. -/
structure Sound (floor : Floor region k) : Prop extends floor.arena.Sound where
  tended : ∀ index, floor.Tended index
  underway : ∀ worker, Underway (floor.pending worker)
  unbroken : ∀ worker, (floor.workers.get worker).broken = false
  references : ∀ index, (Ledger.references index).total floor = 0
  idle : floor.arena.tally.busy = 0

/-- What a step of a sound floor can be. -/
inductive Progress (floor : Floor region k) : Floor region k → Prop where
  /-- A worker has begun a round. -/
  | opened (index : Fin k) {worker : Worker region} {left : Nat} {calls : List (Call region)}
      {arena : Arena region} (present : floor.workers.get index = worker)
      (between : worker.pending = []) (more : worker.left = left + 1)
      (opens : Opens (floor.arenaOf worker).monitor calls arena.monitor)
      (tally : arena.tally = floor.arena.tally) :
      Progress floor (floor.put index { worker with left, pending := calls } arena)
  /-- A worker has made its next call. -/
  | done (index : Fin k) {worker : Worker region} {call : Call region}
      {later : List (Call region)} {arena : Arena region}
      (present : floor.workers.get index = worker) (next : worker.pending = call :: later)
      (fits : call.Fits (floor.arenaOf worker)) (does : call.Does (floor.arenaOf worker) arena) :
      Progress floor (floor.put index { worker with pending := later } arena)

/-- A step replaces the pending calls of one worker. -/
theorem pending_put (floor : Floor region k) (index other : Fin k) (worker : Worker region)
    (arena : Arena region) :
    (floor.put index worker arena).pending other =
      if other = index then worker.pending else floor.pending other := by
  rw [pending, put, vectorGet_set, pending]
  split <;> rfl

namespace Sound

variable {floor next : Floor region k} (sound : floor.Sound)
include sound

/-- The references to a granule are what the pending calls are going to give back. -/
theorem references_eq (index : Fin region.size) :
    ((floor.arena.get index).references.toNat : Int) =
      - ∑ worker, weigh (Call.references index) (floor.pending worker) := by
  have total := sound.references index
  simp only [Ledger.total, Ledger.now, Ledger.ahead, Ledger.references, zero_mul, zero_add] at total
  change ((floor.arena.get index).references.toNat : Int) +
    ∑ worker, weigh (Call.references index) (floor.pending worker) = 0 at total
  omega

/-- Nobody refers to a granule whose references no pending call counts. -/
theorem references_eq_zero {index : Fin region.size}
    (balanced : ∀ worker, weigh (Call.references index) (floor.pending worker) = 0) :
    (floor.arena.get index).references = 0 := by
  have counted := sound.references_eq index
  simp only [balanced, Finset.sum_const_zero, neg_zero, Nat.cast_eq_zero] at counted
  exact UInt64.toNat_inj.mp counted

/-- Nobody refers to an unlocked granule that can be locked. -/
theorem unreferenced {index : Fin region.size} (shared : index.val < sharedGranules)
    (unlocked : (floor.arena.get index).locked = false) :
    (floor.arena.get index).references = 0 := by
  cases sound.tended index with
  | free _ unused _ =>
    exact sound.references_eq_zero fun worker =>
      (sound.underway worker).weigh_references shared (unused worker)
  | held worker locked alone ready => simp [locked] at unlocked

/-- An unlocked granule is settled. -/
theorem settled {index : Fin region.size} (unlocked : (floor.arena.get index).locked = false) :
    floor.arena.Settled index := by
  cases sound.tended index with
  | free _ _ settled => exact settled
  | held worker locked alone ready => simp [locked] at unlocked

/-- Every worker finds the table in order. -/
theorem orderly (worker : Worker region) : Orderly (floor.arenaOf worker).monitor where
  backs := sound.backs
  rests _ unlocked :=
    ⟨sound.settled unlocked, fun shared => sound.unreferenced shared unlocked⟩

/-- A granule that a call is about is tended to by the worker who is about to make the call. -/
theorem ready {worker : Fin k} {index : Fin region.size}
    (holds : Holds (floor.pending worker) index) :
    (floor.arena.get index).locked = true ∧
      (∀ other, Holds (floor.pending other) index → other = worker) ∧
      Ready index (floor.pending worker) (floor.arena.get index).role
        (floor.arena.Zeroed index) := by
  cases sound.tended index with
  | free _ unused _ => exact (unused worker holds).elim
  | held owner locked alone ready =>
    obtain rfl := alone worker holds
    exact ⟨locked, alone, ready⟩

/-- A granule that the next call of a worker is about is fit for it. -/
theorem ready_next {worker : Fin k} {call : Call region} {later : List (Call region)}
    {index : Fin region.size} (next : floor.pending worker = call :: later)
    (about : call.index? = some index) :
    index.val < sharedGranules ∧ (floor.arena.get index).locked = true ∧
      (∀ other, Holds (floor.pending other) index → other = worker) ∧
      call.Accepts (floor.arena.get index).role (floor.arena.Zeroed index) ∧
      if call.GivesBack then ¬ Holds later index
      else Ready index later (call.roleAfter (floor.arena.get index).role)
        (call.ZeroedAfter (floor.arena.Zeroed index)) := by
  have holds : Holds (floor.pending worker) index := by
    rw [next]
    exact holds_cons.mpr (.inl about)
  have shared := (sound.underway worker).shared_of_holds holds
  obtain ⟨locked, alone, ready⟩ := sound.ready holds
  rw [next, Ready, if_pos about] at ready
  exact ⟨shared, locked, alone, ready⟩

/-- The next call of a worker leaves a number of references. -/
theorem counts (few : k < UInt64.size) {worker : Fin k} {call : Call region}
    {later : List (Call region)} (next : floor.pending worker = call :: later)
    (index : Fin region.size) :
    0 ≤ ((floor.arena.get index).references.toNat : Int) + call.references index ∧
      ((floor.arena.get index).references.toNat : Int) + call.references index <
        UInt64.size := by
  let rest (other : Fin k) : List (Call region) :=
    if other = worker then later else floor.pending other
  have others (other : Fin k) (differs : other ≠ worker) :
      weigh (Call.references index) (rest other) =
        weigh (Call.references index) (floor.pending other) := by
    rw [show rest other = floor.pending other from if_neg differs]
  have repays (other : Fin k) : Repays index (rest other) := by
    by_cases same : other = worker
    · rw [show rest other = later from if_pos same]
      exact (next ▸ sound.underway worker).tail.repays index
    · rw [show rest other = floor.pending other from if_neg same]
      exact (sound.underway other).repays index
  have change := sum_eq_of_others worker others
  rw [show rest worker = later from if_pos rfl, next, weigh_cons] at change
  have bounds := sum_bounds fun other => (repays other).bounds
  have counted := sound.references_eq index
  omega

/-- The next call of a worker fits. -/
theorem fits (few : k < UInt64.size) {worker : Fin k} {call : Call region}
    {later : List (Call region)} (next : floor.pending worker = call :: later) :
    call.Fits (floor.arenaOf (floor.workers.get worker)) := by
  have underway := sound.underway worker
  rw [next] at underway
  refine ⟨⟨sound.backs, sound.windows, sound.mappable⟩, underway.proper call (by simp),
    fun index about => ?_, fun gives index about => ?_, fun index => ?_⟩
  · obtain ⟨-, -, -, accepts, -⟩ := sound.ready_next next about
    exact accepts
  · obtain ⟨shared, -, alone, -, ready⟩ := sound.ready_next next about
    rw [if_pos gives] at ready
    refine sound.references_eq_zero fun other => ?_
    by_cases same : other = worker
    · rw [same, next, weigh_cons, Call.references_of_givesBack gives, zero_add]
      exact underway.tail.weigh_references shared ready
    · exact (sound.underway other).weigh_references shared fun uses =>
        same (alone other uses)
  · exact sound.counts few next index

end Sound

section Tending

variable {floor next : Floor region k} {index : Fin region.size}

/-- What is settled stays so if the role stays and the content is not touched. -/
theorem settled_of_same {before after : Arena region} (settled : before.Settled index)
    (role : (after.get index).role = (before.get index).role)
    (zeroed : before.Zeroed index → after.Zeroed index) : after.Settled index := by
  rw [Arena.Settled, role]
  exact settled.imp_right fun ⟨shared, delegated, isZeroed⟩ => ⟨shared, delegated, zeroed isZeroed⟩

/-- What a step is not about stays as it is. -/
theorem Tended.elsewhere (tended : floor.Tended index)
    (role : (next.arena.get index).role = (floor.arena.get index).role)
    (locked : (next.arena.get index).locked = (floor.arena.get index).locked)
    (zeroed : floor.arena.Zeroed index → next.arena.Zeroed index)
    (holds : ∀ worker, Holds (next.pending worker) index → Holds (floor.pending worker) index)
    (ready : ∀ worker role zeroed, Ready index (floor.pending worker) role zeroed →
      Ready index (next.pending worker) role zeroed) : next.Tended index := by
  cases tended with
  | free unlocked unused settled =>
    exact .free (locked.trans unlocked) (fun worker uses => unused worker (holds worker uses))
      (settled_of_same settled role zeroed)
  | held worker isLocked alone isReady =>
    refine .held worker (locked.trans isLocked) (fun other uses => alone other (holds other uses)) ?_
    rw [role]
    exact (ready _ _ _ isReady).mono zeroed

/-- After an attempt, the granules that it has locked are held, and all others are as before. -/
theorem tended_opened (sound : floor.Sound) {owner : Fin k} {worker : Worker region}
    {calls : List (Call region)} {arena : Arena region} (between : floor.pending owner = [])
    (pending : worker.pending = calls)
    (opens : Opens (floor.arenaOf (floor.workers.get owner)).monitor calls arena.monitor)
    (index : Fin region.size) : (floor.put owner worker arena).Tended index := by
  have zeroed : floor.arena.Zeroed index → arena.Zeroed index := by
    intro isZeroed
    rw [Arena.Zeroed, opens.memory]
    exact isZeroed
  have role : (arena.get index).role = (floor.arena.get index).role := (opens.descriptor index).1
  by_cases holds : Holds calls index
  · obtain ⟨unlocked, ready, taken⟩ := opens.taken index holds
    have locked : (arena.get index).locked = true := by
      rw [Arena.get, taken]
      rfl
    refine .held owner locked (fun other uses => ?_) ?_
    · by_contra differs
      rw [pending_put, if_neg differs] at uses
      have held : (floor.arena.get index).locked = true := (sound.ready uses).1
      exact Bool.false_ne_true (unlocked.symm.trans held)
    · rw [pending_put, if_pos rfl, pending]
      change Ready index calls (arena.get index).role _
      rw [role]
      exact ready.mono zeroed
  · refine (sound.tended index).elsewhere role ?_ zeroed (fun other uses => ?_)
      fun other role zeroed ready => ?_
    · exact congrArg Descriptor.locked (opens.untouched index holds)
    · rw [pending_put] at uses
      split at uses
      · exact (holds (pending ▸ uses)).elim
      · exact uses
    · rw [pending_put]
      split
      · next same =>
        rw [same, between] at ready
        exact ready.elim
      · exact ready

/-- After a call, the granule that it was about is held or given back, and all others are as
before. -/
theorem tended_done (sound : floor.Sound) {owner : Fin k} {worker : Worker region}
    {call : Call region} {later : List (Call region)} {arena : Arena region}
    (next : floor.pending owner = call :: later) (pending : worker.pending = later)
    (does : call.Does (floor.arenaOf (floor.workers.get owner)) arena)
    (index : Fin region.size) : (floor.put owner worker arena).Tended index := by
  have role : (arena.get index).role = call.roleOn index (floor.arena.get index).role :=
    does.role index
  have locked : (arena.get index).locked = call.lockedOn index (floor.arena.get index).locked :=
    does.locked index
  have zeroed : call.ZeroedOn index (floor.arena.Zeroed index) → arena.Zeroed index :=
    does.zeroed index
  by_cases about : call.index? = some index
  · obtain ⟨shared, wasLocked, alone, accepts, ready⟩ := sound.ready_next next about
    rw [Call.roleOn, if_pos about] at role
    rw [Call.ZeroedOn, if_pos about] at zeroed
    by_cases gives : call.GivesBack
    · rw [Call.lockedOn, if_pos ⟨about, gives⟩] at locked
      rw [if_pos gives] at ready
      refine .free locked (fun other uses => ?_) ?_
      · rw [pending_put] at uses
        split at uses
        · exact ready (pending ▸ uses)
        · next differs => exact differs (alone other uses)
      · change arena.Settled index
        rw [Arena.Settled, role]
        rcases Call.settled_of_givesBack gives accepts with nonsecure | ⟨delegated, isZeroed⟩
        · exact .inl nonsecure
        · exact .inr ⟨shared, delegated, zeroed isZeroed⟩
    · rw [Call.lockedOn, if_neg fun both => gives both.2] at locked
      rw [if_neg gives] at ready
      refine .held owner (locked.trans wasLocked) (fun other uses => ?_) ?_
      · by_contra differs
        rw [pending_put, if_neg differs] at uses
        exact differs (alone other uses)
      · rw [pending_put, if_pos rfl, pending]
        change Ready index later (arena.get index).role _
        rw [role]
        exact ready.mono zeroed
  · rw [Call.roleOn, if_neg about] at role
    rw [Call.lockedOn, if_neg fun both => about both.1] at locked
    rw [Call.ZeroedOn, if_neg about] at zeroed
    refine (sound.tended index).elsewhere role locked zeroed (fun other uses => ?_)
      fun other role zeroed ready => ?_
    · rw [pending_put] at uses
      split at uses
      · next same =>
        rw [same, next]
        exact holds_cons.mpr (.inr (pending ▸ uses))
      · exact uses
    · rw [pending_put]
      split
      · next same =>
        rw [same, next, Ready, if_neg about] at ready
        rwa [pending]
      · exact ready

end Tending

/-- No step changes what a number is going to be. -/
theorem Progress.total {floor next : Floor region k} (progress : Progress floor next)
    {ledger : Ledger region} (kept : ledger.Kept) : ledger.total next = ledger.total floor := by
  cases progress with
  | @opened index worker left calls arena present between more opens tally =>
    have now : ledger.now arena = ledger.now floor.arena := by
      rw [Ledger.now, kept.opens opens, tally]
      rfl
    have ahead : ledger.ahead { worker with left, pending := calls } = ledger.ahead worker := by
      rw [Ledger.ahead, Ledger.ahead, between, more, kept.plan opens.plan, weigh_nil, Nat.cast_add,
        Nat.cast_one, mul_add, mul_one, add_zero]
    rw [ledger.total_put, present, now, ahead]
    omega
  | @done index worker call later arena present next fits does =>
    have now : ledger.now arena = ledger.now (floor.arenaOf worker) + ledger.weight call :=
      kept.does fits does
    have same : ledger.now (floor.arenaOf worker) = ledger.now floor.arena := rfl
    have ahead : ledger.ahead worker =
        ledger.weight call + ledger.ahead { worker with pending := later } := by
      rw [Ledger.ahead, Ledger.ahead, next, weigh_cons]
      exact add_left_comm _ _ _
    rw [ledger.total_put, present, now, same, ahead]
    omega

/-- A step of a sound floor leads to a sound floor. -/
theorem Progress.sound {floor next : Floor region k} (progress : Progress floor next)
    (sound : floor.Sound) : next.Sound := by
  have references (index : Fin region.size) : (Ledger.references index).total next = 0 :=
    (progress.total (Ledger.kept_references index)).trans (sound.references index)
  cases progress with
  | @opened owner worker left calls arena present between more opens tally =>
    subst present
    have backs : arena.monitor.memory.Backs region := by
      rw [opens.memory]
      exact sound.backs
    have windows (cpu : Cpu) (slot : WindowSlot) :
        arena.monitor.windows.occupant? cpu slot = none := by
      rw [opens.windows]
      exact sound.windows cpu slot
    refine ⟨⟨backs, windows, sound.mappable⟩, tended_opened sound between rfl opens,
      fun other => ?_, fun other => ?_, references, ?_⟩
    · rw [pending_put]
      split
      · exact opens.plan.toUnderway
      · exact sound.underway other
    · rw [put, vectorGet_set]
      split
      · exact sound.unbroken owner
      · exact sound.unbroken other
    · exact (congrArg Tally.busy tally).trans sound.idle
  | @done owner worker call later arena present next fits does =>
    subst present
    have underway : Underway (call :: later) := next ▸ sound.underway owner
    refine ⟨does.toSound, tended_done sound next rfl does, fun other => ?_, fun other => ?_,
      references, ?_⟩
    · rw [pending_put]
      split
      · exact underway.tail
      · exact sound.underway other
    · rw [put, vectorGet_set]
      split
      · exact sound.unbroken owner
      · exact sound.unbroken other
    · change arena.tally.busy = 0
      rw [does.tally]
      cases call with
      | count outcome =>
        have proper : outcome ≠ .busy := underway.proper (.count outcome) (by simp)
        cases outcome <;> first | exact sound.idle | exact absurd rfl proper
      | _ => exact sound.idle

/-- A step of a sound floor is not broken off. -/
theorem Sound.progress {floor next : Floor region k} (sound : floor.Sound)
    (suited : Suited region) (few : k < UInt64.size) (step : Step floor next) :
    Progress floor next := by
  cases step with
  | @attempt index worker left task calls arena present between more unbroken allowed made =>
    have begins := attempt_begins (sound.orderly worker) suited allowed
    unfold Begins at begins
    unfold Exercise.onMonitor at made
    cases ended : task.attempt (floor.arenaOf worker).monitor with
    | ok found monitor =>
      rw [ended] at begins
      simp only [ended, EStateM.Result.ok.injEq] at made
      obtain ⟨rfl, rfl⟩ := made
      exact .opened index present between more begins rfl
    | error halt monitor => simp [ended] at made
  | @attemptFault index worker left task cause arena present between more unbroken allowed made =>
    have begins := attempt_begins (sound.orderly worker) suited allowed
    unfold Begins at begins
    unfold Exercise.onMonitor at made
    cases ended : task.attempt (floor.arenaOf worker).monitor with
    | ok found monitor => simp [ended] at made
    | error halt monitor =>
      simp only [ended, EStateM.Result.error.injEq] at made
      rw [ended, made.1] at begins
      exact begins.elim
  | @call index worker call later byte arena present next positive made =>
    subst present
    have fits := sound.fits few next
    obtain ⟨after, done, does⟩ := Call.does fits byte
    rw [Call.performBefore_of_ok done] at made
    obtain ⟨-, rfl⟩ := EStateM.Result.ok.inj made
    exact .done index rfl next fits does
  | @callFault index worker call later byte cause arena present next positive made =>
    subst present
    obtain ⟨after, done, -⟩ := Call.does (sound.fits few next) byte
    rw [Call.performBefore_of_ok done] at made
    contradiction

end Floor

end Stress

end GranuleMonitor
