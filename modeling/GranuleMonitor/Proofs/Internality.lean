import GranuleMonitor.Proofs.Custody.Independence

/-!
# Actions on the table alone

Locking, counting and releasing change descriptors and leave records, and nothing else: an action is
`Act.Internal` if windows, processor and memory are in the end as they were. Actions that follow one
another are internal if each of them is, so every operation on descriptors inherits this from
reading and writing one of them. Zeroing a granule is the one operation on descriptors that is not.
-/

namespace GranuleMonitor

variable {region : Region} {α β : Type}

namespace Act

/-- The action changes nothing but descriptors and records. -/
def Internal (action : Act region α) : Prop :=
  ∀ monitor, ∃ store log, action.after monitor = { monitor with store, log }

/-- An internal action leaves memory as it is. -/
theorem Internal.memory_after {action : Act region α} (internal : action.Internal)
    (monitor : Monitor region) : (action.after monitor).memory = monitor.memory := by
  obtain ⟨store, log, left⟩ := internal monitor
  rw [left]

theorem internal_pure (value : α) : (pure value : Act region α).Internal :=
  fun _ => ⟨_, _, rfl⟩

theorem internal_throw (halt : Halt region) : (throw halt : Act region α).Internal :=
  fun _ => ⟨_, _, rfl⟩

theorem internal_fail (cause : Fault) : (fail cause : Act region α).Internal :=
  fun _ => ⟨_, _, rfl⟩

theorem internal_ofExcept (computed : Except Fault α) :
    (ofExcept computed : Act region α).Internal := by
  cases computed with
  | ok value => exact internal_pure value
  | error cause => exact internal_fail cause

theorem internal_failIf (fault? : Option Fault) : (failIf fault? : Act region Unit).Internal := by
  cases fault? with
  | none => exact internal_pure ()
  | some cause => exact internal_fail cause

theorem internal_note (notice : Notice) : (note notice : Act region Unit).Internal :=
  fun _ => ⟨_, _, rfl⟩

theorem internal_read (target : Target region) : (read target).Internal :=
  fun _ => ⟨_, _, rfl⟩

theorem internal_write (target : Target region) (descriptor : Descriptor) :
    (write target descriptor).Internal :=
  fun _ => ⟨_, _, rfl⟩

namespace Internal

variable {action : Act region α}

/-- Internal actions may follow one another. -/
theorem bind {next : α → Act region β} (first : action.Internal)
    (second : ∀ value, (next value).Internal) : (action >>= next).Internal := by
  intro monitor
  obtain ⟨store, log, left⟩ := first monitor
  rw [after_bind]
  unfold after at left
  cases ended : action monitor with
  | ok value middle =>
    rw [ended] at left
    subst left
    exact second value _
  | error halt middle =>
    rw [ended] at left
    exact ⟨store, log, left⟩

/-- The value may be handed on in another form. -/
theorem map (first : action.Internal) (f : α → β) :
    (action >>= fun value => pure (f value)).Internal :=
  first.bind fun _ => internal_pure _

end Internal

end Act

namespace Target

variable (target : Target region)

theorem internal_lock (expected : Role) : (target.lock expected).Internal := by
  refine .bind (Act.internal_read target) fun descriptor => ?_
  cases descriptor.attempt expected with
  | held => exact Act.internal_throw _
  | mismatch actual => exact Act.internal_fail _
  | taken => exact .map (Act.internal_write target _) _

theorem internal_lockOnMatch (expected : Role) : (target.lockOnMatch expected).Internal := by
  refine .bind (Act.internal_read target) fun descriptor => ?_
  cases descriptor.attempt expected with
  | held => exact Act.internal_throw _
  | mismatch actual => exact .map (Act.internal_note _) _
  | taken => exact .map (Act.internal_write target _) _

theorem internal_references : target.references.Internal :=
  .map (Act.internal_read target) _

theorem internal_countOnce (call : CountCall) : (Session.countOnce target call).Internal := by
  cases call with
  | gain => exact .bind (Act.internal_read target) fun _ => Act.internal_write target _
  | drop =>
    exact .bind (Act.internal_read target) fun _ =>
      .bind (Act.internal_write target _) fun _ => Act.internal_failIf _

end Target

namespace Guard

variable (guard : Guard region)

theorem internal_abandon : guard.abandon.Internal :=
  .bind (Act.internal_read _) fun _ => Act.internal_write _ _

theorem internal_release : guard.release.Internal :=
  .bind (Act.internal_read _) fun _ => .bind (Act.internal_write _ _) fun _ => Act.internal_failIf _

theorem internal_setRole (role : Role) : (guard.setRole role).Internal :=
  .bind (Act.internal_read _) fun _ => Act.internal_write _ _

theorem internal_raise (added : UInt64) : (guard.raise added).Internal :=
  .bind (Act.internal_read _) fun _ =>
    .bind (Act.internal_ofExcept _) fun _ => Act.internal_write _ _

theorem internal_lower (removed : UInt64) : (guard.lower removed).Internal :=
  .bind (Act.internal_read _) fun _ =>
    .bind (Act.internal_ofExcept _) fun _ => Act.internal_write _ _

theorem internal_releaseGuard (next? : Option Role) :
    (Session.releaseGuard guard next?).Internal := by
  cases next? with
  | none => exact guard.internal_release
  | some next => exact .bind (guard.internal_setRole next) fun _ => guard.internal_release

theorem internal_forM_abandon (guards : List (Guard region)) :
    (guards.forM abandon : Act region Unit).Internal := by
  induction guards with
  | nil => exact Act.internal_pure ()
  | cons guard rest inductionHypothesis =>
    exact .bind guard.internal_abandon fun _ => inductionHypothesis

theorem internal_releaseAll (guards : List (Guard region)) : (releaseAll guards).Internal := by
  induction guards with
  | nil => exact Act.internal_pure ()
  | cons guard rest inductionHypothesis =>
    refine .bind (Act.internal_read _) fun descriptor => ?_
    refine .bind guard.internal_abandon fun _ => ?_
    cases descriptor.releaseFault? with
    | none => exact inductionHypothesis
    | some cause => exact .bind (internal_forM_abandon rest) fun _ => Act.internal_fail cause

/-- Every use of a guard is internal, except that its granule is zeroed. -/
theorem internal_perform {call : GuardCall} (other : ∀ slot, call ≠ .zero slot) :
    (call.perform guard).Internal := by
  cases call with
  | view => exact fun _ => ⟨_, _, rfl⟩
  | describe => exact fun _ => ⟨_, _, rfl⟩
  | address => exact .map (Act.internal_ofExcept _) _
  | setRole role => exact .map (guard.internal_setRole role) _
  | raise added => exact .map (guard.internal_raise added) _
  | lower removed => exact .map (guard.internal_lower removed) _
  | zero slot => exact absurd rfl (other slot)

end Guard

section Locking

theorem internal_lockAt (addr : Address) (expected : Role) :
    (lockAt addr expected : Act region (Except Refusal (Guard region))).Internal := by
  unfold lockAt
  cases region.entryAt? addr with
  | none => exact .map (Act.internal_note _) _
  | some target =>
    refine .bind (target.internal_lockOnMatch expected) fun guard? => ?_
    cases guard? <;> exact Act.internal_pure _

theorem internal_lockUnreferenced (addr : Address) (expected : Role) :
    (lockUnreferenced addr expected : Act region (Except Refusal (Guard region))).Internal := by
  refine .bind (internal_lockAt addr expected) fun result => ?_
  cases result with
  | error reason => exact Act.internal_pure _
  | ok guard =>
    refine .bind guard.target.internal_references fun references => ?_
    by_cases referenced : references ≠ 0
    · simp only [if_pos referenced]
      exact .bind (Act.internal_note _) fun _ => .map guard.internal_release _
    · simp only [if_neg referenced]
      exact Act.internal_pure _

variable {n : Nat}

theorem internal_lockNext (claims : Vector (Claim region) n) (holdings : Holdings region n)
    (position : Fin n) : (lockNext claims holdings position).Internal := by
  refine .bind (Target.internal_lockOnMatch _ _) fun guard? => ?_
  cases guard? with
  | some guard => exact Act.internal_pure _
  | none => exact .map (Guard.internal_releaseAll _) _

theorem internal_lockInOrder (claims : Vector (Claim region) n) (order : List (Fin n))
    (holdings : Holdings region n) : (lockInOrder claims order holdings).Internal := by
  induction order generalizing holdings with
  | nil => exact Act.internal_pure _
  | cons position rest inductionHypothesis =>
    refine .bind (internal_lockNext claims holdings position) fun holdings? => ?_
    cases holdings? with
    | none => exact Act.internal_pure _
    | some holdings => exact inductionHypothesis holdings

theorem internal_lockClaims (claims : Vector (Claim region) n) : (lockClaims claims).Internal := by
  refine .bind (internal_lockInOrder claims _ _) fun holdings? => ?_
  cases holdings? with
  | none => exact Act.internal_pure _
  | some holdings =>
    dsimp only
    cases holdings.complete? with
    | none => exact Act.internal_fail _
    | some guards => exact Act.internal_pure _

theorem internal_lockSet (requests : Vector Request n) :
    (lockSet requests : Act region (Option (Vector (Guard region) n))).Internal := by
  unfold lockSet
  cases resolveAll region requests with
  | error addr => exact .map (Act.internal_note _) _
  | ok claims =>
    dsimp only
    split
    · exact .map (Act.internal_note _) _
    · exact internal_lockClaims claims

/-- Every locking operation is internal. -/
theorem Acquisition.internal_perform (call : Acquisition) :
    (call.perform : Act region (Acquired region)).Internal := by
  cases call with
  | lock place role =>
    exact .bind (Act.internal_ofExcept _) fun target => .map (target.internal_lock role) _
  | lockOnMatch place role =>
    exact .bind (Act.internal_ofExcept _) fun target => .map (target.internal_lockOnMatch role) _
  | lockAt request => exact .map (internal_lockAt _ _) _
  | lockUnreferenced request => exact .map (internal_lockUnreferenced _ _) _
  | lockPair first second =>
    refine .bind (.bind (internal_lockSet _) fun guards? => ?_) fun pair? => ?_
    · cases guards? <;> exact Act.internal_pure _
    · cases pair? <;> exact Act.internal_pure _
  | lockSet requests =>
    refine .bind (internal_lockSet _) fun guards? => ?_
    cases guards? <;> exact Act.internal_pure _

end Locking

/-- Every operation on descriptors is internal, except that a granule is zeroed. -/
theorem Operation.internal_perform {operation : Operation region}
    (onDescriptors : operation.OnDescriptors)
    (other : ∀ guard slot, operation ≠ .useGuard guard (.zero slot)) :
    operation.perform.Internal := by
  cases operation with
  | acquire call => exact .map call.internal_perform _
  | useGuard guard call =>
    refine .map (guard.internal_perform fun slot zeroes => ?_) _
    exact other guard slot (zeroes ▸ rfl)
  | release guard next? => exact .map (guard.internal_releaseGuard next?) _
  | abandon guard => exact .map guard.internal_abandon _
  | count call place =>
    refine .map (.bind (Act.internal_ofExcept _) fun target => ?_) _
    exact target.internal_countOnce call
  | references place =>
    exact .map (.bind (Act.internal_ofExcept _) fun target => target.internal_references) _
  | _ => exact onDescriptors.elim

end GranuleMonitor
