import GranuleMonitor.Proofs.Frame
import GranuleMonitor.Proofs.Locking.Acquisition
import GranuleMonitor.Proofs.Zeroing

/-!
# Which descriptors an action is about

An action is `Act.Local` to some descriptors if it looks at no others and changes no others.
Monitors that agree on these descriptors, `Monitor.Alike`, are the same to it: it ends in the same
way on both and leaves the same behind. Actions that follow one another are local to what each of
them is local to, so every operation on descriptors inherits this from reading and writing one of
them. Windows may be looked at and used, as zeroing does, if they are as before in the end. Memory
and records are not looked at by such an action.
-/

namespace GranuleMonitor

variable {region : Region} {α β : Type} {own : Target region → Prop}

/-- The monitors agree on some descriptors, on the windows and on the current processor. -/
structure Monitor.Alike (own : Target region → Prop) (left right : Monitor region) : Prop where
  descriptors : ∀ target, own target → left.store.get target = right.store.get target
  windows : left.windows = right.windows
  cpu : left.cpu = right.cpu

namespace Monitor.Alike

variable {left middle right : Monitor region}

theorem refl (own : Target region → Prop) (monitor : Monitor region) : monitor.Alike own monitor :=
  ⟨fun _ _ => rfl, rfl, rfl⟩

theorem symm (alike : left.Alike own right) : right.Alike own left :=
  ⟨fun target mine => (alike.descriptors target mine).symm, alike.windows.symm, alike.cpu.symm⟩

theorem trans (first : left.Alike own middle) (second : middle.Alike own right) :
    left.Alike own right :=
  ⟨fun target mine => (first.descriptors target mine).trans (second.descriptors target mine),
    first.windows.trans second.windows, first.cpu.trans second.cpu⟩

theorem mono {fewer : Target region → Prop} (alike : left.Alike own right)
    (part : ∀ target, fewer target → own target) : left.Alike fewer right :=
  ⟨fun target mine => alike.descriptors target (part target mine), alike.windows, alike.cpu⟩

/-- Agreement on two parts is agreement on both. -/
theorem union {other : Target region → Prop} (first : left.Alike own right)
    (second : left.Alike other right) :
    left.Alike (fun target => own target ∨ other target) right :=
  ⟨fun target mine => mine.elim (first.descriptors target) (second.descriptors target),
    first.windows, first.cpu⟩

end Monitor.Alike

namespace Act

/-- The action looks at no other descriptors than its own and changes no others, and the windows are
in the end as they were. -/
structure Local (own : Target region → Prop) (action : Act region α) : Prop where
  /-- What is not looked at does not matter to how the action ends, -/
  result : ∀ {left right : Monitor region}, left.Alike own right →
    action.result left = action.result right
  /-- nor to what it leaves behind of its own descriptors. -/
  inside : ∀ {left right : Monitor region}, left.Alike own right →
    (action.after left).Alike own (action.after right)
  /-- All other descriptors stay as they are. -/
  outside : ∀ monitor : Monitor region,
    (action.after monitor).Alike (fun target => ¬ own target) monitor

/-- Two runs of one action that end in the same way, both with a value or both halted. -/
theorem eq_of_result {action : Act region α} {left right : Monitor region}
    (same : action.result left = action.result right) :
    (∃ value, action left = .ok value (action.after left) ∧
        action right = .ok value (action.after right)) ∨
      ∃ halt, action left = .error halt (action.after left) ∧
        action right = .error halt (action.after right) := by
  unfold result at same
  unfold after
  cases endedLeft : action left <;> cases endedRight : action right <;>
    simp_all only [reduceCtorEq, Except.ok.injEq, Except.error.injEq]
  · exact .inl ⟨_, rfl, rfl⟩
  · exact .inr ⟨_, rfl, rfl⟩

theorem local_pure (value : α) : (pure value : Act region α).Local own :=
  ⟨fun _ => rfl, id, .refl _⟩

namespace Local

variable {action : Act region α} {next : α → Act region β}

/-- An action that is followed by another one is local if the second one is, for all values that
the first one gives. -/
theorem bind_of_ok (first : action.Local own)
    (second : ∀ {monitor value last}, action monitor = .ok value last → (next value).Local own) :
    (action >>= next).Local own where
  result {left right} alike := by
    rw [result_bind, result_bind]
    rcases eq_of_result (first.result alike) with
      ⟨value, endedLeft, endedRight⟩ | ⟨halt, endedLeft, endedRight⟩
    · rw [endedLeft, endedRight]
      exact (second endedLeft).result (first.inside alike)
    · rw [endedLeft, endedRight]
  inside {left right} alike := by
    rw [after_bind, after_bind]
    rcases eq_of_result (first.result alike) with
      ⟨value, endedLeft, endedRight⟩ | ⟨halt, endedLeft, endedRight⟩
    · rw [endedLeft, endedRight]
      exact (second endedLeft).inside (first.inside alike)
    · rw [endedLeft, endedRight]
      exact first.inside alike
  outside monitor := by
    have kept := first.outside monitor
    rw [after_bind]
    unfold after at kept
    cases ended : action monitor with
    | ok value middle =>
      rw [ended] at kept
      exact ((second ended).outside middle).trans kept
    | error halt middle =>
      rw [ended] at kept
      exact kept

/-- Local actions may follow one another. -/
theorem bind (first : action.Local own) (second : ∀ value, (next value).Local own) :
    (action >>= next).Local own :=
  first.bind_of_ok fun {_ value _} _ => second value

/-- The value may be handed on in another form. -/
theorem map (first : action.Local own) (f : α → β) :
    (action >>= fun value => pure (f value)).Local own :=
  first.bind fun _ => local_pure _

end Local

theorem local_throw (halt : Halt region) : (throw halt : Act region α).Local own :=
  ⟨fun _ => rfl, id, .refl _⟩

theorem local_fail (cause : Fault) : (fail cause : Act region α).Local own :=
  ⟨fun _ => rfl, id, .refl _⟩

theorem local_failIf (fault? : Option Fault) : (failIf fault? : Act region Unit).Local own := by
  cases fault? with
  | none => exact local_pure ()
  | some cause => exact local_fail cause

theorem local_ofExcept (computed : Except Fault α) :
    (ofExcept computed : Act region α).Local own := by
  cases computed with
  | ok value => exact local_pure value
  | error cause => exact local_fail cause

/-- Records may differ. -/
theorem local_note (notice : Notice) : (note notice : Act region Unit).Local own :=
  ⟨fun _ => rfl, fun alike => ⟨alike.descriptors, alike.windows, alike.cpu⟩,
    fun _ => ⟨fun _ _ => rfl, rfl, rfl⟩⟩

section Descriptors

variable {target : Target region} (mine : own target)
include mine

theorem local_read : (read target).Local own :=
  ⟨fun alike => congrArg Except.ok (alike.descriptors target mine), id, .refl _⟩

theorem local_write (descriptor : Descriptor) : (write target descriptor).Local own where
  result _ := rfl
  inside alike := by
    refine ⟨fun other otherMine => ?_, alike.windows, alike.cpu⟩
    simp only [after, write_apply, Store.get_set, alike.descriptors other otherMine]
  outside monitor := by
    refine ⟨fun other foreign => ?_, rfl, rfl⟩
    refine Store.get_set_ne _ _ ?_
    rintro rfl
    exact foreign mine

end Descriptors

end Act

namespace Target

variable {target : Target region} (mine : own target)
include mine

theorem local_lock (expected : Role) : (target.lock expected).Local own := by
  refine .bind (Act.local_read mine) fun descriptor => ?_
  cases descriptor.attempt expected with
  | held => exact Act.local_throw _
  | mismatch actual => exact Act.local_fail _
  | taken => exact .bind (Act.local_write mine _) fun _ => Act.local_pure _

theorem local_lockOnMatch (expected : Role) : (target.lockOnMatch expected).Local own := by
  refine .bind (Act.local_read mine) fun descriptor => ?_
  cases descriptor.attempt expected with
  | held => exact Act.local_throw _
  | mismatch actual => exact .bind (Act.local_note _) fun _ => Act.local_pure _
  | taken => exact .bind (Act.local_write mine _) fun _ => Act.local_pure _

theorem local_references : target.references.Local own :=
  .map (Act.local_read mine) _

theorem local_countOnce (call : CountCall) : (Session.countOnce target call).Local own := by
  cases call with
  | gain => exact .bind (Act.local_read mine) fun _ => Act.local_write mine _
  | drop =>
    exact .bind (Act.local_read mine) fun _ =>
      .bind (Act.local_write mine _) fun _ => Act.local_failIf _

end Target

namespace Guard

section Single

variable {guard : Guard region} (mine : own guard.target)
include mine

theorem local_abandon : guard.abandon.Local own :=
  .bind (Act.local_read mine) fun _ => Act.local_write mine _

theorem local_release : guard.release.Local own :=
  .bind (Act.local_read mine) fun _ => .bind (Act.local_write mine _) fun _ => Act.local_failIf _

theorem local_setRole (role : Role) : (guard.setRole role).Local own :=
  .bind (Act.local_read mine) fun _ => Act.local_write mine _

theorem local_raise (added : UInt64) : (guard.raise added).Local own :=
  .bind (Act.local_read mine) fun _ => .bind (Act.local_ofExcept _) fun _ => Act.local_write mine _

theorem local_lower (removed : UInt64) : (guard.lower removed).Local own :=
  .bind (Act.local_read mine) fun _ => .bind (Act.local_ofExcept _) fun _ => Act.local_write mine _

theorem local_releaseGuard (next? : Option Role) :
    (Session.releaseGuard guard next?).Local own := by
  cases next? with
  | none => exact local_release mine
  | some next => exact .bind (local_setRole mine next) fun _ => local_release mine

omit mine in
/-- Zeroing a granule looks at the windows only, and leaves them as they were. -/
theorem local_zero (guard : Guard region) (slot : WindowSlot) : (guard.zero slot).Local own := by
  have after (monitor : Monitor region) :
      ((guard.zero slot).after monitor).Alike (fun _ => True) monitor := by
    unfold Act.after
    rw [zero_eq]
    cases guard.zeroFault? slot monitor <;> exact ⟨fun _ _ => rfl, rfl, rfl⟩
  have whole (fewer : Target region → Prop) (monitor : Monitor region) :
      ((guard.zero slot).after monitor).Alike fewer monitor :=
    (after monitor).mono fun _ _ => trivial
  refine ⟨fun {left right} alike => ?_, fun {left right} alike => ?_, whole _⟩
  · have fault : guard.zeroFault? slot left = guard.zeroFault? slot right := by
      unfold zeroFault?
      rw [alike.windows, alike.cpu]
    unfold Act.result
    rw [zero_eq, zero_eq, fault]
    cases guard.zeroFault? slot right <;> rfl
  · exact ((whole own left).trans alike).trans (whole own right).symm

/-- What a guard shows is read from its descriptor. -/
theorem local_view (reply : GuardView → Reply region) :
    Act.Local own fun monitor => .ok (reply (monitor.view guard)) monitor := by
  refine ⟨fun {left right} alike => ?_, id, .refl _⟩
  refine congrArg (fun view => Except.ok (reply view)) ?_
  rw [Monitor.view, Monitor.view, alike.descriptors _ mine]

theorem local_perform (call : GuardCall) : (call.perform guard).Local own := by
  cases call with
  | view => exact local_view mine .view
  | describe => exact local_view mine fun view => .text view.describe
  | address => exact .map (Act.local_ofExcept _) _
  | setRole role => exact .map (local_setRole mine role) _
  | raise added => exact .map (local_raise mine added) _
  | lower removed => exact .map (local_lower mine removed) _
  | zero slot => exact .map (guard.local_zero slot) _

end Single

theorem local_forM_abandon {guards : List (Guard region)}
    (mine : ∀ guard ∈ guards, own guard.target) : (guards.forM abandon : Act region Unit).Local own := by
  induction guards with
  | nil => exact Act.local_pure ()
  | cons guard rest inductionHypothesis =>
    obtain ⟨firstMine, restMine⟩ := List.forall_mem_cons.mp mine
    exact .bind (local_abandon firstMine) fun _ => inductionHypothesis restMine

theorem local_releaseAll {guards : List (Guard region)}
    (mine : ∀ guard ∈ guards, own guard.target) : (releaseAll guards).Local own := by
  induction guards with
  | nil => exact Act.local_pure ()
  | cons guard rest inductionHypothesis =>
    obtain ⟨firstMine, restMine⟩ := List.forall_mem_cons.mp mine
    refine .bind (Act.local_read firstMine) fun descriptor => ?_
    refine .bind (local_abandon firstMine) fun _ => ?_
    cases descriptor.releaseFault? with
    | none => exact inductionHypothesis restMine
    | some cause => exact .bind (local_forM_abandon restMine) fun _ => Act.local_fail cause

end Guard

section Single

variable {addr : Address} (mine : ∀ target, region.entryAt? addr = some target → own target)
include mine

theorem local_lockAt (expected : Role) :
    (lockAt addr expected : Act region (Except Refusal (Guard region))).Local own := by
  unfold lockAt
  cases found : region.entryAt? addr with
  | none => exact .map (Act.local_note _) _
  | some target =>
    refine .bind (Target.local_lockOnMatch (mine target found) expected) fun guard? => ?_
    cases guard? <;> exact Act.local_pure _

theorem local_lockUnreferenced (expected : Role) :
    (lockUnreferenced addr expected : Act region (Except Refusal (Guard region))).Local own := by
  refine .bind_of_ok (local_lockAt mine expected) fun {monitor result last} ended => ?_
  cases result with
  | error reason => exact Act.local_pure _
  | ok guard =>
    -- the guard that was just given is that of the granule at the address
    have free := ((lockAt_seizes monitor expected addr).granted ended).2.1
    have guardMine := mine _ (free guard (by simp [Acquired.ofExcept, Acquired.toList])).2
    refine .bind (Target.local_references guardMine) fun references => ?_
    by_cases referenced : references ≠ 0
    · simp only [if_pos referenced]
      exact .bind (Act.local_note _) fun _ => .map (Guard.local_release guardMine) _
    · simp only [if_neg referenced]
      exact Act.local_pure _

end Single

section Several

variable {n : Nat}

section Claims

variable {claims : Vector (Claim region) n} (mine : ∀ position, own (claims.get position).target)
include mine

theorem local_lockNext (taken : List (Fin n)) (position : Fin n) :
    (lockNext claims (.ofTaken claims taken) position).Local own := by
  refine .bind (Target.local_lockOnMatch (mine position) _) fun guard? => ?_
  cases guard? with
  | some guard => exact Act.local_pure _
  | none =>
    refine .map (Guard.local_releaseAll fun guard member => ?_) _
    obtain ⟨earlier, -, rfl⟩ := List.mem_map.mp (Holdings.mem_guards_ofTaken.mp member)
    exact mine earlier

/-- The loop is local as long as all guards it holds are those of its claims. -/
theorem local_lockInOrder (order taken : List (Fin n)) :
    (lockInOrder claims order (.ofTaken claims taken)).Local own := by
  induction order generalizing taken with
  | nil => exact Act.local_pure _
  | cons position rest inductionHypothesis =>
    refine .bind_of_ok (local_lockNext mine taken position) fun {monitor holdings? last} ended => ?_
    cases holdings? with
    | none => exact Act.local_pure _
    | some holdings =>
      have held : holdings = .ofTaken claims (taken ++ [position]) := by
        rw [lockNext_apply] at ended
        split at ended
        · contradiction
        · obtain ⟨_, _, -, other⟩ := Act.bind_apply_eq_ok_iff.mp ended
          simp at other
        · simpa using (EStateM.Result.ok.inj ended).1.symm
      subst held
      exact inductionHypothesis _

theorem local_lockClaims : (lockClaims claims).Local own := by
  unfold lockClaims
  rw [← Holdings.ofTaken_nil claims]
  refine .bind (local_lockInOrder mine _ _) fun holdings? => ?_
  cases holdings? with
  | none => exact Act.local_pure _
  | some holdings =>
    dsimp only
    cases holdings.complete? with
    | none => exact Act.local_fail _
    | some guards => exact Act.local_pure _

end Claims

theorem local_lockSet {requests : Vector Request n}
    (mine : ∀ position target,
      region.entryAt? (requests.get position).addr = some target → own target) :
    (lockSet requests : Act region (Option (Vector (Guard region) n))).Local own := by
  unfold lockSet
  cases resolved : resolveAll region requests with
  | error addr => exact .map (Act.local_note _) _
  | ok claims =>
    have claimsMine (position : Fin n) : own (claims.get position).target := by
      refine mine position _ ?_
      rw [Region.entryAt?, (resolveAll_eq_ok_iff.mp resolved position).1]
      rfl
    dsimp only
    split
    · exact .map (Act.local_note _) _
    · exact local_lockClaims claimsMine

end Several

end GranuleMonitor
