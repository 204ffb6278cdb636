import GranuleMonitor.Concurrent.Section
import GranuleMonitor.Proofs.Frame
import Mathlib.Algebra.GroupWithZero.Nat

/-!
# What comes of a section

A section is about one descriptor, so what comes of it can be computed from that alone:
`Section.outcome` gives what is learnt and what the descriptor becomes, or nothing if a rule is
broken. `Point.remaining` does the same for what is left of a section at some point of it.
`Section.perform_apply` says that executing a whole section comes to its outcome, and
`Section.outcome_spec` what an outcome amounts to: the role that is left, the references that were
added and removed, and whether the lock was granted.
-/

namespace GranuleMonitor

variable {region : Region} {k : Nat}

namespace Touch

/-- What a use of a guard shows, and what the descriptor becomes. -/
def apply (descriptor : Descriptor) : Touch → Option (List Seen × Descriptor)
  | .readRole => some ([.role descriptor.role], descriptor)
  | .writeRole role => some ([], { descriptor with role })
  | .readReferences => some ([.references descriptor.references], descriptor)
  | .raise added => (descriptor.raise added).toOption.map ([], ·)
  | .lower removed => (descriptor.lower removed).toOption.map ([], ·)

/-- What several uses of a guard show, and what the descriptor becomes. -/
def applyAll : List Touch → Descriptor → Option (List Seen × Descriptor)
  | [], descriptor => some ([], descriptor)
  | first :: rest, descriptor =>
    (first.apply descriptor).bind fun (seen, after) =>
      (applyAll rest after).map (Prod.map (seen ++ ·) id)

/-- The role that a use of a guard gives to the granule. -/
def written? : Touch → Option Role
  | .writeRole role => some role
  | .readRole | .readReferences | .raise _ | .lower _ => none

/-- How many references a use of a guard adds. -/
def raised : Touch → Nat
  | .raise added => added.toNat
  | .readRole | .writeRole _ | .readReferences | .lower _ => 0

/-- How many references a use of a guard removes. -/
def lowered : Touch → Nat
  | .lower removed => removed.toNat
  | .readRole | .writeRole _ | .readReferences | .raise _ => 0

end Touch

/-- The answer to an attempt to take the lock, among what is learnt. -/
def Seen.answer? : Seen → Option Bool
  | .entered granted => some granted
  | .role _ | .references _ => none

/-- The descriptor after its guard was given back, unless this finds a fault. -/
def Descriptor.leave (descriptor : Descriptor) (next? : Option Role) : Option Descriptor :=
  match (descriptor.become next?).releaseFault? with
  | none => some (descriptor.become next?).unlock
  | some _ => none

/-- What comes of the rest of a section whose lock was granted. -/
def Section.rest (touches : List Touch) (next? : Option Role) (descriptor : Descriptor) :
    Option (List Seen × Descriptor) :=
  (Touch.applyAll touches descriptor).bind fun (seen, after) => (after.leave next?).map (seen, ·)

/-- What comes of the rest of a section at a point of it. -/
def Point.remaining (descriptor : Descriptor) : Point → Option (List Seen × Descriptor)
  | .outside => some ([], descriptor)
  | .comparing sect =>
    if descriptor.role = sect.expected then
      (Section.rest sect.touches sect.next? descriptor).map (Prod.map ([.entered true] ++ ·) id)
    else some ([.entered false], descriptor.unlock)
  | .touching touches next? => Section.rest touches next? descriptor
  | .storing references touches next? => Section.rest touches next? { descriptor with references }
  | .checking => if descriptor.references = 0 then some ([], descriptor.unlock) else none
  | .unlocking => some ([], descriptor.unlock)
  | .broken => none

namespace Section

variable (sect : Section)

/-- What comes of a section that finds the lock free. -/
def outcome (descriptor : Descriptor) : Option (List Seen × Descriptor) :=
  (Point.comparing sect).remaining descriptor.lock

/-- The role that a section leaves behind if it finds a role. -/
def leaves (role : Role) : Role :=
  if role = sect.expected then
    sect.next?.getD ((sect.touches.filterMap Touch.written?).getLast?.getD role)
  else role

/-- How many references a section adds that is granted the lock. -/
def raised : Nat := (sect.touches.map Touch.raised).sum

/-- How many references a section removes that is granted the lock. -/
def lowered : Nat := (sect.touches.map Touch.lowered).sum

end Section

section Whole

variable (guard : Guard region) (target : Target region) (monitor : Monitor region)

/-- A use of a guard comes to what is computed from the descriptor, or it faults. -/
theorem Section.touch_apply (touch : Touch) :
    match touch.apply (monitor.store.get guard.target) with
    | some (seen, after) => Section.touch guard touch monitor =
        .ok seen { monitor with store := monitor.store.set guard.target after }
    | none => ∃ cause last, Section.touch guard touch monitor = .error (.fault cause) last := by
  have unchanged := monitor.store.set_get_self guard.target
  cases touch with
  | readRole => simp [Touch.apply, Section.touch, Guard.role, unchanged, -bind_pure_comp]
  | writeRole role => simp [Touch.apply, Section.touch, Guard.setRole]
  | readReferences =>
    simp [Touch.apply, Section.touch, Guard.references, Target.references, unchanged,
      -bind_pure_comp]
  | raise added =>
    cases raised : (monitor.store.get guard.target).raise added <;>
      simp [Touch.apply, Section.touch, Guard.raise_apply, raised, Except.toOption]
  | lower removed =>
    cases lowered : (monitor.store.get guard.target).lower removed <;>
      simp [Touch.apply, Section.touch, Guard.lower_apply, lowered, Except.toOption]

/-- Several uses of a guard come to what is computed from the descriptor, or one of them faults. -/
theorem Section.touchAll_apply (touches : List Touch) :
    match Touch.applyAll touches (monitor.store.get guard.target) with
    | some (seen, after) => Section.touchAll guard touches monitor =
        .ok seen { monitor with store := monitor.store.set guard.target after }
    | none => ∃ cause last,
        Section.touchAll guard touches monitor = .error (.fault cause) last := by
  induction touches generalizing monitor with
  | nil => simp [Touch.applyAll, Section.touchAll, monitor.store.set_get_self]
  | cons first rest inductionHypothesis =>
    have touched := Section.touch_apply guard monitor first
    cases applied : first.apply (monitor.store.get guard.target) with
    | none =>
      rw [applied] at touched
      obtain ⟨cause, last, ended⟩ := touched
      simp only [Touch.applyAll, applied, Option.bind_none]
      exact ⟨cause, last, by simp [Section.touchAll, ended, -bind_pure_comp]⟩
    | some result =>
      obtain ⟨seen, after⟩ := result
      rw [applied] at touched
      have later := inductionHypothesis
        { monitor with store := monitor.store.set guard.target after }
      simp only [Store.get_set_self] at later
      simp only [Touch.applyAll, applied, Option.bind_some]
      cases appliedLater : Touch.applyAll rest after with
      | none =>
        rw [appliedLater] at later
        obtain ⟨cause, last, ended⟩ := later
        exact ⟨cause, last, by simp [Section.touchAll, touched, ended, -bind_pure_comp]⟩
      | some result =>
        rw [appliedLater] at later
        simp [Section.touchAll, touched, later, Store.set_set, -bind_pure_comp]

/-- A section locks, uses the guard, and gives it back. -/
theorem Section.perform_eq (sect : Section) :
    sect.perform target = target.lockOnMatch sect.expected >>= fun
      | none => pure [.entered false]
      | some guard => Section.touchAll guard sect.touches >>= fun seen =>
          Session.releaseGuard guard sect.next? >>= fun _ => pure (.entered true :: seen) := by
  unfold Section.perform
  cases sect.next? <;> rfl

/-- Using a guard and giving it back comes to what is computed from the descriptor, or it faults. -/
theorem Section.rest_apply (touches : List Touch) (next? : Option Role) :
    match Section.rest touches next? (monitor.store.get guard.target) with
    | some (seen, after) =>
      ∃ used, Section.touchAll guard touches monitor = .ok seen used ∧
        Session.releaseGuard guard next? used =
          .ok () { monitor with store := monitor.store.set guard.target after }
    | none =>
      (∃ cause last, Section.touchAll guard touches monitor = .error (.fault cause) last) ∨
        ∃ seen used cause last, Section.touchAll guard touches monitor = .ok seen used ∧
          Session.releaseGuard guard next? used = .error (.fault cause) last := by
  have touched := Section.touchAll_apply guard monitor touches
  unfold Section.rest
  cases applied : Touch.applyAll touches (monitor.store.get guard.target) with
  | none =>
    rw [applied] at touched
    exact .inl touched
  | some result =>
    obtain ⟨seen, after⟩ := result
    rw [applied] at touched
    have released := Session.releaseGuard_apply guard next?
      { monitor with store := monitor.store.set guard.target after }
    simp only [Store.get_set_self, Store.set_set, Act.failIf_apply] at released
    simp only [Option.bind_some, Descriptor.leave]
    cases fault : (after.become next?).releaseFault? with
    | none =>
      rw [fault] at released
      exact ⟨_, touched, released⟩
    | some cause =>
      rw [fault] at released
      exact .inr ⟨_, _, cause, _, touched, released⟩

end Whole

namespace Section

variable {sect : Section} {descriptor : Descriptor}

/-- A section that is not granted a free lock leaves the descriptor as it is. -/
theorem outcome_of_mismatch (free : descriptor.locked = false)
    (differs : descriptor.role ≠ sect.expected) :
    sect.outcome descriptor = some ([.entered false], descriptor) := by
  have refused : sect.outcome descriptor = some ([.entered false], descriptor.lock.unlock) :=
    if_neg differs
  rw [refused, Descriptor.unlock_lock free]

/-- A section that is granted the lock goes on with the locked descriptor. -/
theorem outcome_of_match (same : descriptor.role = sect.expected) :
    sect.outcome descriptor = (rest sect.touches sect.next? descriptor.lock).map
      (Prod.map ([.entered true] ++ ·) id) :=
  if_pos same

/-- A whole section that finds the lock free comes to its outcome, or it faults. -/
theorem perform_apply (sect : Section) (target : Target region) (monitor : Monitor region)
    (free : (monitor.store.get target).locked = false) :
    match sect.outcome (monitor.store.get target) with
    | some (seen, after) => ∃ log, sect.perform target monitor =
        .ok seen { monitor with store := monitor.store.set target after, log }
    | none => ∃ cause last, sect.perform target monitor = .error (.fault cause) last := by
  have locking := target.lockOnMatch_apply sect.expected monitor
  by_cases granted : (monitor.store.get target).role = sect.expected
  case neg =>
    rw [Descriptor.attempt_eq_mismatch_iff.mpr ⟨free, granted, rfl⟩] at locking
    rw [outcome_of_mismatch free granted]
    refine ⟨monitor.log.push (.roleMismatch (monitor.store.get target).role sect.expected), ?_⟩
    rw [perform_eq, Act.bind_apply, locking, monitor.store.set_get_self]
    rfl
  rw [Descriptor.attempt_eq_taken_iff.mpr ⟨free, granted⟩] at locking
  rw [outcome_of_match granted, perform_eq, Act.bind_apply, locking]
  have ended := rest_apply ⟨target⟩
    { monitor with store := monitor.store.set target (monitor.store.get target).lock }
    sect.touches sect.next?
  simp only [Store.get_set_self, Store.set_set] at ended
  cases comes : rest sect.touches sect.next? (monitor.store.get target).lock with
  | some result =>
    rw [comes] at ended
    obtain ⟨used, touched, released⟩ := ended
    exact ⟨monitor.log, by simp [touched, released, -bind_pure_comp]⟩
  | none =>
    rw [comes] at ended
    rcases ended with ⟨cause, last, ended⟩ | ⟨seen, used, cause, last, touched, released⟩
    · exact ⟨cause, last, by simp [ended, -bind_pure_comp]⟩
    · exact ⟨cause, last, by simp [touched, released, -bind_pure_comp]⟩

end Section

namespace Touch

variable {before after : Descriptor} {seen : List Seen}

/-- What a use of a guard makes of the role and the references. The lock stays as it is. -/
theorem apply_spec {touch : Touch} (applied : touch.apply before = some (seen, after)) :
    after.role = touch.written?.getD before.role ∧
      after.references.toNat + touch.lowered = before.references.toNat + touch.raised ∧
      after.locked = before.locked ∧ seen.filterMap Seen.answer? = [] := by
  cases touch with
  | raise added =>
    obtain ⟨_, counted, same⟩ := Option.map_eq_some_iff.mp applied
    obtain ⟨rfl, rfl⟩ := Prod.mk.inj same
    obtain ⟨role, locked, references⟩ :=
      Descriptor.raise_eq_ok_iff.mp (toOption_eq_some_iff.mp counted)
    exact ⟨role, references, locked, rfl⟩
  | lower removed =>
    obtain ⟨_, counted, same⟩ := Option.map_eq_some_iff.mp applied
    obtain ⟨rfl, rfl⟩ := Prod.mk.inj same
    obtain ⟨role, locked, references⟩ :=
      Descriptor.lower_eq_ok_iff.mp (toOption_eq_some_iff.mp counted)
    exact ⟨role, references.symm, locked, rfl⟩
  | _ =>
    obtain ⟨rfl, rfl⟩ := Prod.mk.inj (Option.some.inj applied)
    exact ⟨rfl, rfl, rfl, rfl⟩

/-- What several uses of a guard make of the role and the references. -/
theorem applyAll_spec {touches : List Touch} (applied : applyAll touches before = some (seen, after)) :
    after.role = (touches.filterMap written?).getLast?.getD before.role ∧
      after.references.toNat + (touches.map lowered).sum =
        before.references.toNat + (touches.map raised).sum ∧
      after.locked = before.locked ∧ seen.filterMap Seen.answer? = [] := by
  induction touches generalizing before seen with
  | nil =>
    obtain ⟨rfl, rfl⟩ := Prod.mk.inj (Option.some.inj applied)
    exact ⟨rfl, rfl, rfl, rfl⟩
  | cons first rest inductionHypothesis =>
    obtain ⟨⟨learnt, middle⟩, used, applied⟩ := Option.bind_eq_some_iff.mp applied
    obtain ⟨⟨later, last⟩, usedLater, same⟩ := Option.map_eq_some_iff.mp applied
    obtain ⟨rfl, rfl⟩ := Prod.mk.inj same
    obtain ⟨firstRole, firstReferences, firstLocked, firstAnswers⟩ := apply_spec used
    obtain ⟨role, references, locked, answers⟩ := inductionHypothesis usedLater
    refine ⟨?_, ?_, locked.trans firstLocked, ?_⟩
    · rw [role, firstRole, List.filterMap_cons]
      cases first.written? with
      | none => rfl
      | some given => rw [List.getLast?_cons]; rfl
    · simp only [List.map_cons, List.sum_cons]
      omega
    · rw [List.filterMap_append, firstAnswers]
      exact answers

end Touch

/-- What a section amounts to that finds the lock free: the answer to its attempt, the role that it
leaves, and the references that it added and removed. -/
theorem Section.outcome_spec {sect : Section} {before after : Descriptor} {seen : List Seen}
    (free : before.locked = false) (comes : sect.outcome before = some (seen, after)) :
    after.role = sect.leaves before.role ∧
      (after.references.toNat + if before.role = sect.expected then sect.lowered else 0) =
        (before.references.toNat + if before.role = sect.expected then sect.raised else 0) ∧
      after.locked = false ∧
      seen.filterMap Seen.answer? = [decide (before.role = sect.expected)] := by
  by_cases granted : before.role = sect.expected
  case neg =>
    rw [outcome_of_mismatch free granted] at comes
    obtain ⟨rfl, rfl⟩ := Prod.mk.inj (Option.some.inj comes)
    simp [leaves, granted, free, Seen.answer?]
  rw [outcome_of_match granted] at comes
  obtain ⟨⟨later, left⟩, rested, same⟩ := Option.map_eq_some_iff.mp comes
  obtain ⟨rfl, rfl⟩ := Prod.mk.inj same
  obtain ⟨⟨shown, used⟩, applied, leaving⟩ := Option.bind_eq_some_iff.mp rested
  obtain ⟨role, references, -, answers⟩ := Touch.applyAll_spec applied
  obtain ⟨final, leaves, same⟩ := Option.map_eq_some_iff.mp leaving
  obtain ⟨rfl, rfl⟩ := Prod.mk.inj same
  obtain rfl : final = (used.become sect.next?).unlock := by
    unfold Descriptor.leave at leaves
    split at leaves
    · exact (Option.some.inj leaves).symm
    · contradiction
  simp only [if_pos granted]
  refine ⟨?_, references, rfl, ?_⟩
  · rw [Section.leaves, if_pos granted]
    exact congrArg sect.next?.getD role
  · simp [Seen.answer?, granted, answers]

end GranuleMonitor
