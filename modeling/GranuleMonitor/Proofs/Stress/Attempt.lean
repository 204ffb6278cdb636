import GranuleMonitor.Proofs.Locking.Expectation
import GranuleMonitor.Proofs.Region.Lookup
import GranuleMonitor.Proofs.Stress.Plan

/-!
# What a task begins with

When all unlocked granules are at rest, the attempt of an allowed task ends in one of two ways. It
waits for a lock that somebody has; or it gives the calls of a whole task, has taken the locks of
the granules that these are about, and has changed nothing else: `Opens`. It never faults, which is
`attempt_begins`. For that the region must be `Suited`: the addresses behind it that some attempts
ask for would be too large otherwise.
-/

namespace GranuleMonitor

variable {region : Region}

/-- The ways in which locking a pair ends. Both granules are locked; or the pair is refused with a
record and no other effect; or a lock is waited for; or a granule was left in disorder. -/
theorem lockPair_cases (first second : Request) (monitor : Monitor region) :
    (∃ one other, one ≠ other ∧ first.addr = region.address one ∧
        second.addr = region.address other ∧
        (monitor.store.get (.entry one)).attempt first.role = .taken ∧
        (monitor.store.get (.entry other)).attempt second.role = .taken ∧
        lockPair first second monitor = .ok (some (⟨.entry one⟩, ⟨.entry other⟩))
          { monitor with
            store := monitor.store.adjust .lock [⟨.entry one⟩, ⟨.entry other⟩] }) ∨
      (∃ notice, lockPair first second monitor =
        .ok none { monitor with log := monitor.log.push notice }) ∨
      (∃ index last, lockPair first second monitor = .error (.waiting (.entry index)) last ∧
        (monitor.store.get (.entry index)).locked = true) ∨
      ∃ cause last, lockPair first second monitor = .error (.fault cause) last ∧
        Neglected monitor cause := by
  have pair : lockPair first second monitor = _ := Act.bind_apply _ _ _
  rcases lockSet_cases #v[first, second] monitor with
    ⟨granule, leads, obtainable, ended⟩ | ⟨notice, ended⟩ | ⟨index, last, ended, locked⟩ |
    ⟨cause, last, ended, neglected⟩ <;> rw [ended] at pair
  · have guards : (claimsOn #v[first, second] granule).map Claim.guard =
        #v[⟨.entry (granule 0)⟩, ⟨.entry (granule 1)⟩] := by
      apply Vector.ext
      intro position within
      match position with
      | 0 | 1 => simp [claimsOn, Claim.guard, Claim.target]
    rw [guards] at pair
    exact .inl ⟨granule 0, granule 1, leads.different.ne (by decide), leads.addr_eq 0,
      leads.addr_eq 1, obtainable 0, obtainable 1, pair⟩
  · exact .inr (.inl ⟨notice, pair⟩)
  · exact .inr (.inr (.inl ⟨index, last, pair, locked⟩))
  · exact .inr (.inr (.inr ⟨cause, last, pair, neglected⟩))

namespace Stress

/-- How an unlocked granule is left: non-secure, or delegated with zero content, and with nobody
referring to it. References to the granules that are never locked may come and go. -/
structure Rests (monitor : Monitor region) (index : Fin region.size) : Prop where
  role : (monitor.store.get (.entry index)).role = .nonsecure ∨
    index.val < sharedGranules ∧ (monitor.store.get (.entry index)).role = .delegated ∧
      monitor.memory.Zeroed (region.address index)
  references : index.val < sharedGranules → (monitor.store.get (.entry index)).references = 0

/-- The memory is behind the table, and all unlocked granules are at rest. -/
structure Orderly (monitor : Monitor region) : Prop where
  backs : monitor.memory.Backs region
  rests : ∀ index, (monitor.store.get (.entry index)).locked = false → Rests monitor index

/-- An attempt has taken the locks of the granules that the calls after it are about. -/
structure Opens (before : Monitor region) (calls : List (Call region)) (after : Monitor region) :
    Prop where
  plan : Plan calls
  memory : after.memory = before.memory
  windows : after.windows = before.windows
  cpu : after.cpu = before.cpu
  taken : ∀ index, Holds calls index →
    (before.store.get (.entry index)).locked = false ∧
      Ready index calls (before.store.get (.entry index)).role
        (before.memory.Zeroed (region.address index)) ∧
      after.store.get (.entry index) = (before.store.get (.entry index)).lock
  untouched : ∀ index, ¬ Holds calls index →
    after.store.get (.entry index) = before.store.get (.entry index)

/-- An attempt opens a task, or it waits for the lock of a granule. -/
def Begins (attempt : Act region (List (Call region))) (monitor : Monitor region) : Prop :=
  match attempt monitor with
  | .ok calls last => Opens monitor calls last
  | .error (.waiting target) _ =>
    ∃ index, target = .entry index ∧ (monitor.store.get (.entry index)).locked = true
  | .error (.fault _) _ => False

/-- A table that the tasks are made for. It has the number of granules that they assume, and all
addresses that they try are words, also those behind the table. -/
structure Suited (region : Region) : Prop where
  size : region.size = granules
  reach : region.base.toNat + granuleSize * (granules + outsideGranules) ≤ UInt64.size

section Attempts

variable {monitor : Monitor region} {index : Fin region.size}

/-- An attempt goes on with what it finds. -/
theorem begins_get {next : Monitor region → Act region (List (Call region))}
    (begins : Begins (next monitor) monitor) : Begins (get >>= next) monitor :=
  begins

/-- An attempt goes on with a value that was computed. -/
theorem begins_ofExcept {α : Type} {computed : Except Fault α} {value : α}
    (given : computed = .ok value) {next : α → Act region (List (Call region))}
    (begins : Begins (next value) monitor) :
    Begins (Act.ofExcept computed >>= next) monitor := by
  rw [given]
  exact begins

/-- In an orderly table, nothing is left in disorder. -/
theorem Orderly.not_neglected (orderly : Orderly monitor) (cause : Fault) :
    ¬ Neglected monitor cause := by
  rintro ⟨index, free, fault⟩
  obtain ⟨delegated, referenced, -⟩ := Descriptor.releaseFault?_eq_some_iff.mp fault
  have rests := orderly.rests index free
  rcases rests.role with nonsecure | ⟨shared, -⟩
  · rw [delegated] at nonsecure
    contradiction
  · exact referenced (rests.references shared)

/-- A request that is turned down has no effect but a record. -/
theorem Opens.rejection (log : Array Notice) :
    Opens monitor [.count .rejected] { monitor with log } where
  plan := .rejection
  memory := rfl
  windows := rfl
  cpu := rfl
  taken index holds := by simp [Holds, Call.index?] at holds
  untouched _ _ := rfl

/-- An address that leads nowhere is turned down. -/
theorem tryInvalid_apply {addr : Address} (nowhere : region.index? addr = none) :
    tryInvalid addr monitor = .ok [.count .rejected]
      { monitor with log := monitor.log.push (.unknownAddress addr) } := by
  rw [tryInvalid, Act.bind_apply, lockAt_of_nowhere (target_of_unknown nowhere)]
  rfl

/-- Trying an address that leads nowhere opens a task with nothing to do. -/
theorem begins_tryInvalid {addr : Address} (nowhere : region.index? addr = none) :
    Begins (tryInvalid addr) monitor := by
  rw [Begins, tryInvalid_apply nowhere]
  exact .rejection _

/-- The address of a granule of the table is computed. -/
theorem Orderly.granuleAddress_inside (orderly : Orderly monitor) (index : Fin region.size) :
    granuleAddress monitor.memory index = .ok (region.address index) :=
  granuleAddress_eq_ok (by rw [region.toNat_address, orderly.backs.base])

/-- So is an address inside of a granule. -/
theorem sum_address (index : Fin region.size) {offset : Nat} (short : offset < granuleSize) :
    Word.sum (region.address index) (UInt64.ofNat offset) =
      .ok (region.address index + UInt64.ofNat offset) := by
  have fits := region.fits
  have within := index.isLt
  rw [Word.sum_eq_ok_iff]
  simp only [UInt64.toNat_add, Region.toNat_address, UInt64.toNat_ofNat', Region.size,
    granuleSize_eq, UInt64.size] at fits within short ⊢
  omega

/-- So is an address that is tried behind the table, and it leads nowhere. -/
theorem Orderly.exists_granuleAddress_behind (orderly : Orderly monitor) (suited : Suited region)
    {index : Nat} (allowed : (Task.outside index).Allowed) :
    ∃ addr, granuleAddress monitor.memory index = .ok addr ∧ region.index? addr = none := by
  obtain ⟨behind, near⟩ := allowed
  have reach := suited.reach
  rw [← suited.size] at behind
  refine ⟨region.base + UInt64.ofNat index * granuleBytes, granuleAddress_eq_ok ?_,
    region.index?_behind behind ?_⟩
  · rw [orderly.backs.base]
    simp only [UInt64.toNat_add, UInt64.toNat_mul, UInt64.toNat_ofNat', toNat_granuleBytes,
      granules, outsideGranules, granuleSize_eq, UInt64.size] at near reach ⊢
    omega
  · simp only [granules, outsideGranules, granuleSize_eq, UInt64.size] at near ⊢
    omega

/-- An address behind the table is turned down. -/
theorem Orderly.outside_apply (orderly : Orderly monitor) (suited : Suited region)
    {index : Nat} (allowed : (Task.outside index).Allowed) :
    ∃ log, (Task.outside index).attempt monitor =
      .ok [.count .rejected] { monitor with log } := by
  obtain ⟨addr, given, nowhere⟩ := orderly.exists_granuleAddress_behind suited allowed
  refine ⟨_, Eq.trans ?_ (tryInvalid_apply nowhere)⟩
  have got : (get : Act region (Monitor region)) monitor = .ok monitor monitor := rfl
  rw [Task.attempt, Act.bind_apply, got]
  dsimp only
  rw [given]
  rfl

/-- A task that begins by locking one granule that nobody should refer to. -/
theorem begins_unreferenced (orderly : Orderly monitor) (shared : index.val < sharedGranules)
    {role : Role} {calls : Guard region → List (Call region)} (plan : Plan (calls ⟨.entry index⟩))
    (about : ∀ other, Holds (calls ⟨.entry index⟩) other → other = index)
    (ready : Ready index (calls ⟨.entry index⟩) role False) :
    Begins (lockUnreferenced (region.address index) role >>= fun result =>
      pure (afterUnreferenced calls result)) monitor := by
  have looked : lockUnreferenced (region.address index) role monitor = _ :=
    lockUnreferenced_apply (region.target_address index)
  rw [Begins, Act.bind_apply, looked]
  cases attempt : (monitor.store.get (.entry index)).attempt role with
  | held => exact ⟨index, rfl, Descriptor.attempt_eq_held_iff.mp attempt⟩
  | mismatch actual => exact .rejection _
  | taken =>
    obtain ⟨free, rfl⟩ := Descriptor.attempt_eq_taken_iff.mp attempt
    simp only [if_pos ((orderly.rests index free).references shared)]
    refine ⟨plan, rfl, rfl, rfl, fun other holds => ?_, fun other others => ?_⟩
    · obtain rfl := about other holds
      exact ⟨free, ready.mono False.elim, by simp⟩
    · have elsewhere : Target.entry other ≠ .entry index := by
        intro same
        obtain rfl := Target.entry.inj same
        exact others ready.holds
      exact Store.get_set_ne monitor.store (monitor.store.get (.entry index)).lock elsewhere

/-- What the calls after a pair are about. -/
theorem holds_afterPair {first second other : Fin region.size} {role : Role} :
    Holds (afterPair role (some (⟨.entry first⟩, ⟨.entry second⟩))) other ↔
      other = first ∨ other = second := by
  by_cases nonsecure : role = .nonsecure
  · simp [Holds, afterPair, nonsecure, Call.index?, Target.index?, eq_comm (a := other)]
    tauto
  · simp [Holds, afterPair, nonsecure, Call.index?, Target.index?, eq_comm (a := other), or_comm]

/-- Both granules of a pair are ready for the calls if they are at rest in the role. -/
theorem ready_afterPair {first second other : Fin region.size} {role : Role} {zeroed : Prop}
    (differ : first ≠ second) (one : other = first ∨ other = second)
    (fit : role = .nonsecure ∨ role = .delegated ∧ zeroed) :
    Ready other (afterPair role (some (⟨.entry first⟩, ⟨.entry second⟩))) role zeroed := by
  rcases one with rfl | rfl <;> rcases fit with rfl | ⟨rfl, isZeroed⟩ <;>
    simp_all [afterPair, Ready, Call.index?, Target.index?, Call.Accepts, Call.GivesBack,
      Call.roleAfter, Call.ZeroedAfter, Holds, Ne.symm differ]

/-- A task that begins by locking two granules. -/
theorem begins_pair (orderly : Orderly monitor) (first second : Fin region.size) (role : Role)
    (firstShared : first.val < sharedGranules) (secondShared : second.val < sharedGranules) :
    Begins (lockPair ⟨region.address first, role⟩ ⟨region.address second, role⟩ >>= fun pair? =>
      pure (afterPair role pair?)) monitor := by
  rw [Begins, Act.bind_apply]
  rcases lockPair_cases ⟨region.address first, role⟩ ⟨region.address second, role⟩ monitor with
    ⟨one, other, differ, sameFirst, sameSecond, firstTaken, secondTaken, ended⟩ |
    ⟨notice, ended⟩ | ⟨index, last, ended, locked⟩ | ⟨cause, last, ended, neglected⟩
  · obtain rfl := region.address_injective sameFirst
    obtain rfl := region.address_injective sameSecond
    obtain ⟨firstFree, firstRole⟩ := Descriptor.attempt_eq_taken_iff.mp firstTaken
    obtain ⟨secondFree, secondRole⟩ := Descriptor.attempt_eq_taken_iff.mp secondTaken
    rw [ended]
    have mem_guards (other : Fin region.size) :
        (⟨.entry other⟩ : Guard region) ∈ [⟨.entry first⟩, ⟨.entry second⟩] ↔
          other = first ∨ other = second := by
      simp
    have atRest (other : Fin region.size) (one : other = first ∨ other = second) :
        (monitor.store.get (.entry other)).locked = false ∧
          (monitor.store.get (.entry other)).role = role := by
      rcases one with rfl | rfl
      · exact ⟨firstFree, firstRole⟩
      · exact ⟨secondFree, secondRole⟩
    refine ⟨.pair firstShared secondShared differ role, rfl, rfl, rfl, fun other holds => ?_,
      fun other others => ?_⟩
    · have one := holds_afterPair.mp holds
      obtain ⟨free, same⟩ := atRest other one
      refine ⟨free, ?_, (Store.get_adjust_lock _ _ _).trans (if_pos ((mem_guards other).mpr one))⟩
      rw [same]
      refine ready_afterPair differ one ?_
      rw [← same]
      exact (orderly.rests other free).role.imp_right And.right
    · refine (Store.get_adjust_lock _ _ _).trans (if_neg ?_)
      rw [mem_guards]
      exact fun one => others (holds_afterPair.mpr one)
  · rw [ended]
    exact .rejection _
  · rw [ended]
    exact ⟨index, rfl, locked⟩
  · exact (orderly.not_neglected cause neglected).elim

/-- Taking a granule from the non-secure world opens or waits. -/
theorem begins_delegation (orderly : Orderly monitor) (index : Fin region.size)
    (shared : index.val < sharedGranules) :
    Begins (lockUnreferenced (region.address index) .nonsecure >>= fun result =>
      pure (afterUnreferenced (fun guard =>
        [.scrub guard, .inspect (region.address index), .transition guard .delegated,
          .count .delegated]) result)) monitor := by
  refine begins_unreferenced orderly shared (.delegation shared) (fun other holds => ?_) ?_
  · simpa [Holds, Call.index?, Target.index?, region.index?_address, eq_comm] using holds
  · simp [Ready, Call.index?, Target.index?, region.index?_address, Call.Accepts, Call.GivesBack,
      Call.roleAfter, Call.ZeroedAfter, Holds]

/-- Giving a granule back to the non-secure world opens or waits. -/
theorem begins_undelegation (orderly : Orderly monitor) (index : Fin region.size)
    (shared : index.val < sharedGranules) :
    Begins (lockUnreferenced (region.address index) .delegated >>= fun result =>
      pure (afterUnreferenced (fun guard =>
        [.refill (region.address index), .transition guard .nonsecure, .count .undelegated])
          result)) monitor := by
  refine begins_unreferenced orderly shared (.undelegation shared) (fun other holds => ?_) ?_
  · simpa [Holds, Call.index?, Target.index?, region.index?_address, eq_comm] using holds
  · simp [Ready, Call.index?, Target.index?, region.index?_address, Call.Accepts, Call.GivesBack,
      Call.roleAfter, Call.ZeroedAfter, Holds]

/-- Counting a granule that is never locked opens a task. -/
theorem begins_count (index : Fin region.size) (unshared : sharedGranules ≤ index.val) :
    Begins (match region.entryAt? (region.address index) with
      | some target => return [.gain target, .drop target, .count .atomic]
      | none => Act.fail (.missingGranule (region.address index))) monitor := by
  have found : region.entryAt? (region.address index) = some (.entry index) := by
    rw [Region.entryAt?, region.index?_address]
    rfl
  rw [found]
  refine ⟨.count unshared, rfl, rfl, rfl, fun other holds => ?_, fun _ _ => rfl⟩
  simp [Holds, Call.index?] at holds

/-- In an orderly table that the tasks are made for, every allowed task opens or waits. -/
theorem attempt_begins (orderly : Orderly monitor) (suited : Suited region) {task : Task}
    (allowed : task.Allowed) : Begins task.attempt monitor := by
  have inside {index : Nat} (shared : index < sharedGranules) : index < region.size := by
    rw [suited.size]
    exact shared.trans (by decide)
  cases task with
  | delegate index =>
    let granule : Fin region.size := ⟨index, inside allowed⟩
    have given := orderly.granuleAddress_inside granule
    exact begins_get (begins_ofExcept given (begins_delegation orderly granule allowed))
  | undelegate index =>
    let granule : Fin region.size := ⟨index, inside allowed⟩
    have given := orderly.granuleAddress_inside granule
    exact begins_get (begins_ofExcept given (begins_undelegation orderly granule allowed))
  | pair first second role =>
    obtain ⟨firstShared, secondShared, -⟩ := allowed
    let one : Fin region.size := ⟨first, inside firstShared⟩
    let other : Fin region.size := ⟨second, inside secondShared⟩
    have firstGiven := orderly.granuleAddress_inside one
    have secondGiven := orderly.granuleAddress_inside other
    have begins := begins_pair orderly one other role firstShared secondShared
    exact begins_get (begins_ofExcept firstGiven (begins_ofExcept secondGiven begins))
  | count index =>
    obtain ⟨unshared, within⟩ := allowed
    rw [← suited.size] at within
    let granule : Fin region.size := ⟨index, within⟩
    have given := orderly.granuleAddress_inside granule
    exact begins_get (begins_ofExcept given (begins_count granule unshared))
  | misaligned index offset =>
    obtain ⟨within, positive, short⟩ := allowed
    rw [← suited.size] at within
    let granule : Fin region.size := ⟨index, within⟩
    have given := orderly.granuleAddress_inside granule
    have nowhere := region.index?_between granule positive short
    exact begins_get (begins_ofExcept given
      (begins_ofExcept (sum_address granule short) (begins_tryInvalid nowhere)))
  | outside index =>
    obtain ⟨addr, given, nowhere⟩ := orderly.exists_granuleAddress_behind suited allowed
    exact begins_get (begins_ofExcept given (begins_tryInvalid nowhere))

end Attempts

end Stress

end GranuleMonitor
