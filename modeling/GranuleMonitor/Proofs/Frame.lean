import GranuleMonitor.Custody
import GranuleMonitor.Proofs.Locking.Seizure

/-!
# What becomes of the store

Apart from locking operations, no operation waits for a lock, and each turns the store into one that
can be named beforehand, with or without a fault: `Act.Turns`. Operations on windows and on memory
do not touch a descriptor, which is `Act.Lockless`. Whatever follows without touching one does not
matter, so that zeroing a granule inherits this from its parts. All that is done with a guard, and
every count without the lock, comes down to one write: `GuardCall.turns_perform`,
`CountCall.turns_perform` and `Session.releaseGuard_apply` say which.
-/

namespace GranuleMonitor

variable {region : Region} {α β : Type}

/-- A computation gives a value if it does not fault. -/
theorem toOption_eq_some_iff {computed : Except Fault α} {value : α} :
    computed.toOption = some value ↔ computed = .ok value := by
  cases computed <;> simp [Except.toOption]

/-- A member of a vector that was replaced is read as it is now, every other one as it was. -/
theorem vectorGet_set {n : Nat} (members : Vector α n) (index other : Fin n) (member : α) :
    (members.set index member index.isLt).get other =
      if other = index then member else members.get other := by
  by_cases same : other = index
  · simp [vectorGet_eq, same]
  · simp [vectorGet_eq, same, Fin.val_ne_of_ne (Ne.symm same)]

/-- A member of a mapped vector comes from the member at the same index. -/
theorem vectorGet_map {n : Nat} (change : α → β) (members : Vector α n) (index : Fin n) :
    (members.map change).get index = change (members.get index) := by
  simp [vectorGet_eq]

/-- In a new table every descriptor is fresh. -/
theorem Monitor.get_create (memory : Memory) (target : Target region) :
    (Monitor.create region memory).store.get target = .fresh :=
  Store.get_fresh target

namespace Act

/-- The action waits for nothing, and turns the store into another one, whatever its outcome. -/
def Turns (action : Act region α) (change : Store region → Store region) : Prop :=
  ∀ monitor,
    match action monitor with
    | .ok _ last | .error (.fault _) last => last.store = change monitor.store
    | .error (.waiting _) _ => False

/-- The action has nothing to do with descriptors and locks. -/
abbrev Lockless (action : Act region α) : Prop := action.Turns id

namespace Turns

variable {action : Act region α} {change : Store region → Store region} {monitor : Monitor region}

theorem store_after (turns : action.Turns change) :
    (action.after monitor).store = change monitor.store := by
  have turned := turns monitor
  unfold after
  cases ended : action monitor with
  | ok value last => rwa [ended] at turned
  | error halt last =>
    rw [ended] at turned
    cases halt with
    | fault cause => exact turned
    | waiting target => exact turned.elim

theorem not_waiting (turns : action.Turns change) {target : Target region}
    {last : Monitor region} : action monitor ≠ .error (.waiting target) last := by
  intro waits
  have turned := turns monitor
  rwa [waits] at turned

/-- What follows without touching a descriptor does not matter. -/
theorem bind {next : α → Act region β} (first : action.Turns change)
    (second : ∀ value, (next value).Lockless) : (action >>= next).Turns change := by
  intro monitor
  have turned := first monitor
  rw [bind_apply]
  cases ended : action monitor with
  | ok value middle =>
    rw [ended] at turned
    have kept := second value middle
    dsimp only
    cases later : next value middle with
    | ok result last =>
      rw [later] at kept
      exact kept.trans turned
    | error halt last =>
      rw [later] at kept
      cases halt with
      | fault cause => exact kept.trans turned
      | waiting target => exact kept.elim
  | error halt middle =>
    rw [ended] at turned
    cases halt with
    | fault cause => exact turned
    | waiting target => exact turned

end Turns

section Surroundings

variable (addr window : Address) (slot : WindowSlot)

theorem lockless_pure (value : α) : (pure value : Act region α).Lockless := fun _ => rfl

theorem lockless_fail (cause : Fault) : (fail cause : Act region α).Lockless := fun _ => rfl

theorem lockless_ofExcept (computed : Except Fault α) :
    (ofExcept computed : Act region α).Lockless := by
  cases computed
  · exact lockless_fail _
  · exact lockless_pure _

theorem lockless_selectCpu (cpu : UInt64) : (selectCpu cpu : Act region Unit).Lockless := by
  intro monitor
  unfold selectCpu
  by_cases known : cpu.toNat < maxCpus <;> simp [known]

theorem lockless_fill (value : UInt8) : (fill addr value : Act region Unit).Lockless := by
  intro monitor
  unfold fill
  cases monitor.memory.fill addr value <;> rfl

theorem lockless_isZeroed : (isZeroed addr : Act region Bool).Lockless := by
  intro monitor
  unfold isZeroed
  cases monitor.memory.isZeroed addr <;> rfl

theorem lockless_readInto (buffer : Array UInt8) :
    (readInto addr buffer : Act region (Array UInt8)).Lockless :=
  fun monitor => lockless_ofExcept (monitor.memory.read addr buffer) monitor

theorem lockless_mapWindow : (mapWindow slot addr : Act region (Option Address)).Lockless := by
  intro monitor
  unfold mapWindow
  rcases monitor.windows.map monitor.cpu slot addr with _ | ⟨_, _⟩ <;> rfl

theorem lockless_unmapWindow : (unmapWindow slot window : Act region Unit).Lockless := by
  intro monitor
  unfold unmapWindow
  cases monitor.windows.unmapFault? monitor.cpu slot window <;> rfl

theorem lockless_scrubWindow : (scrubWindow window : Act region Unit).Lockless := by
  intro monitor
  unfold scrubWindow
  cases monitor.memory.index? window with
  | none => rfl
  | some index => cases zeroWindow monitor.memory.pages[index] <;> rfl

end Surroundings

end Act

/-- Zeroing a granule does not touch its descriptor, also if the window cannot be had. -/
theorem Guard.lockless_zero (guard : Guard region) (slot : WindowSlot) :
    (guard.zero slot).Lockless := by
  unfold Guard.zero
  dsimp only
  by_cases reserved : slot = .nonsecure
  · rw [if_pos reserved]
    exact fun _ => rfl
  rw [if_neg reserved]
  refine .bind (Act.lockless_ofExcept _) fun addr => ?_
  refine .bind (Act.lockless_mapWindow addr slot) fun window? => ?_
  cases window? with
  | none => exact Act.lockless_fail _
  | some window =>
    exact .bind (Act.lockless_scrubWindow window) fun _ => Act.lockless_unmapWindow window slot

theorem Place.lockless_references (place : Place) :
    (place.references : Act region UInt64).Lockless :=
  .bind (Act.lockless_ofExcept _) fun _ _ => rfl

namespace Descriptor

/-- The descriptor after its guard was used. A count that does not fit changes nothing. -/
def afterUse (descriptor : Descriptor) : GuardCall → Descriptor
  | .setRole role => { descriptor with role }
  | .raise added => (descriptor.raise added).toOption.getD descriptor
  | .lower removed => (descriptor.lower removed).toOption.getD descriptor
  | .view | .describe | .address | .zero _ => descriptor

/-- The descriptor after a reference was counted without the lock. -/
def afterCount (descriptor : Descriptor) : CountCall → Descriptor
  | .gain => descriptor.gain
  | .drop => descriptor.drop

/-- The descriptor with the role that its granule is given, if there is one. -/
def become (descriptor : Descriptor) (next? : Option Role) : Descriptor :=
  { descriptor with role := next?.getD descriptor.role }

/-- Using a guard does not give its lock back. -/
theorem locked_afterUse (descriptor : Descriptor) (call : GuardCall) :
    (descriptor.afterUse call).locked = descriptor.locked := by
  cases call with
  | raise added =>
    cases raised : descriptor.raise added with
    | error cause => simp [afterUse, raised, Except.toOption]
    | ok after => simpa [afterUse, raised, Except.toOption] using (raise_eq_ok_iff.mp raised).2.1
  | lower removed =>
    cases lowered : descriptor.lower removed with
    | error cause => simp [afterUse, lowered, Except.toOption]
    | ok after => simpa [afterUse, lowered, Except.toOption] using (lower_eq_ok_iff.mp lowered).2.1
  | setRole role => rfl
  | view => rfl
  | describe => rfl
  | address => rfl
  | zero slot => rfl

theorem locked_afterCount (descriptor : Descriptor) (call : CountCall) :
    (descriptor.afterCount call).locked = descriptor.locked := by
  cases call <;> rfl

end Descriptor

namespace Store

/-- The store after a guard was used. -/
def afterUse (store : Store region) (guard : Guard region) (call : GuardCall) : Store region :=
  store.set guard.target ((store.get guard.target).afterUse call)

/-- The store after a reference was counted without the lock. -/
def afterCount (store : Store region) (target : Target region) (call : CountCall) : Store region :=
  store.set target ((store.get target).afterCount call)

/-- Using a guard does not give a lock back. -/
theorem locked_afterUse (store : Store region) (guard : Guard region) (call : GuardCall)
    (target : Target region) :
    ((store.afterUse guard call).get target).locked = (store.get target).locked :=
  locked_set_of_eq (Descriptor.locked_afterUse _ _) target

/-- Counting without the lock does not change a lock. -/
theorem locked_afterCount (store : Store region) (counted : Target region) (call : CountCall)
    (target : Target region) :
    ((store.afterCount counted call).get target).locked = (store.get target).locked :=
  locked_set_of_eq (Descriptor.locked_afterCount _ _) target

end Store

/-- References are added under the lock, or refused with no effect at all. -/
theorem Guard.raise_apply (guard : Guard region) (amount : UInt64) (monitor : Monitor region) :
    guard.raise amount monitor =
      match (monitor.store.get guard.target).raise amount with
      | .ok after => .ok () { monitor with store := monitor.store.set guard.target after }
      | .error cause => .error (.fault cause) monitor := by
  cases raised : (monitor.store.get guard.target).raise amount <;>
    simp [raise, Act.ofExcept_apply, raised]

/-- References are removed under the lock, or refused with no effect at all. -/
theorem Guard.lower_apply (guard : Guard region) (amount : UInt64) (monitor : Monitor region) :
    guard.lower amount monitor =
      match (monitor.store.get guard.target).lower amount with
      | .ok after => .ok () { monitor with store := monitor.store.set guard.target after }
      | .error cause => .error (.fault cause) monitor := by
  cases lowered : (monitor.store.get guard.target).lower amount <;>
    simp [lower, Act.ofExcept_apply, lowered]

/-- Adding a reference without the lock is one write. -/
theorem Target.gain_apply (target : Target region) (monitor : Monitor region) :
    target.gain monitor =
      .ok () { monitor with
        store := monitor.store.set target (monitor.store.get target).gain } := rfl

/-- Removing a reference without the lock is one write, and then a report of what was wrong. -/
theorem Target.drop_apply (target : Target region) (monitor : Monitor region) :
    target.drop monitor =
      Act.failIf (monitor.store.get target).dropFault? { monitor with
        store := monitor.store.set target (monitor.store.get target).drop } := by
  simp [drop]

/-- Whatever is done with a guard, and however it ends, comes down to one write. -/
theorem GuardCall.turns_perform (guard : Guard region) (call : GuardCall) :
    (call.perform guard).Turns fun store => store.afterUse guard call := by
  have unchanged (store : Store region) :
      store.set guard.target (store.get guard.target) = store := store.set_get_self guard.target
  cases call with
  | view => exact fun monitor => (unchanged monitor.store).symm
  | describe => exact fun monitor => (unchanged monitor.store).symm
  | setRole role => exact fun monitor => rfl
  | address =>
    rw [show (fun store => Store.afterUse store guard .address) = id from funext unchanged]
    exact .bind (Act.lockless_ofExcept _) fun _ => Act.lockless_pure _
  | zero slot =>
    rw [show (fun store => Store.afterUse store guard (.zero slot)) = id from funext unchanged]
    exact .bind (guard.lockless_zero slot) fun _ => Act.lockless_pure _
  | raise added =>
    intro monitor
    cases raised : (monitor.store.get guard.target).raise added <;>
      simp [GuardCall.perform, Guard.raise_apply, Store.afterUse, Descriptor.afterUse, raised,
        Except.toOption, unchanged]
  | lower removed =>
    intro monitor
    cases lowered : (monitor.store.get guard.target).lower removed <;>
      simp [GuardCall.perform, Guard.lower_apply, Store.afterUse, Descriptor.afterUse, lowered,
        Except.toOption, unchanged]

/-- A reference that is counted without the lock changes the count of one descriptor. -/
theorem Session.turns_countOnce (call : CountCall) (target : Target region) :
    (Session.countOnce target call).Turns fun store => store.afterCount target call := by
  intro monitor
  cases call with
  | gain => rfl
  | drop =>
    cases fault : (monitor.store.get target).dropFault? <;>
      simp [Session.countOnce, Target.drop_apply, Act.failIf_apply, fault, Store.afterCount,
        Descriptor.afterCount]

/-- At a place that leads to a descriptor, that one is counted. -/
theorem CountCall.perform_eq (call : CountCall) {place : Place} {target : Target region}
    (leads : place.target region = .ok target) :
    (call.perform place : Act region Unit) = Session.countOnce target call := by
  unfold CountCall.perform
  rw [leads]
  rfl

/-- A reference that is counted at a place changes the count of the descriptor there. -/
theorem CountCall.turns_perform (call : CountCall) {place : Place} {target : Target region}
    (leads : place.target region = .ok target) :
    (call.perform place).Turns fun store => store.afterCount target call := by
  rw [call.perform_eq leads]
  exact Session.turns_countOnce call target

/-- A place that leads nowhere is a fault before anything is counted. -/
theorem CountCall.lockless_perform (call : CountCall) {place : Place} {cause : Fault}
    (nowhere : place.target region = .error cause) :
    (call.perform place : Act region Unit).Lockless := by
  unfold CountCall.perform
  rw [nowhere]
  exact fun _ => rfl

/-- A guard that is given back gives the granule its role, gives the lock back, and then reports
what is wrong. -/
theorem Session.releaseGuard_apply (guard : Guard region) (next? : Option Role)
    (monitor : Monitor region) :
    Session.releaseGuard guard next? monitor =
      Act.failIf ((monitor.store.get guard.target).become next?).releaseFault? { monitor with
        store := monitor.store.set guard.target
          ((monitor.store.get guard.target).become next?).unlock } := by
  cases next? with
  | none => exact guard.release_apply monitor
  | some next =>
    simp [Session.releaseGuard, Guard.transition, Guard.setRole, Guard.release_apply,
      Descriptor.become, Store.set_set]

/-- The monitor that is left when a guard is given back. -/
theorem Session.after_releaseGuard (guard : Guard region) (next? : Option Role)
    (monitor : Monitor region) :
    (Session.releaseGuard guard next?).after monitor = { monitor with
      store := monitor.store.set guard.target
        ((monitor.store.get guard.target).become next?).unlock } := by
  unfold Act.after
  rw [releaseGuard_apply, Act.failIf_apply]
  cases ((monitor.store.get guard.target).become next?).releaseFault? <;> rfl

end GranuleMonitor
