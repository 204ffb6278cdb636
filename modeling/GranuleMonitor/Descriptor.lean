import GranuleMonitor.Fault

/-!
# Descriptors

The monitor keeps one descriptor per granule: its role, how many references to it exist, and whether
it is locked. This module holds what can happen to one descriptor.

References are counted in two ways. Whoever holds the lock counts exactly: `raise` and `lower`
refuse what does not fit and then change nothing. Without the lock, `gain` and `drop` change the
count at once and modulo `2 ^ 64`, and a `drop` of a reference that does not exist is found out
only afterwards. `raise_eq_ok_iff` and `lower_eq_ok_iff` state the exact counts.
-/

namespace GranuleMonitor

/-- What the monitor knows about a granule. -/
structure Descriptor where
  role : Role
  references : UInt64
  locked : Bool
deriving DecidableEq, Repr

namespace Descriptor

/-- The descriptor of a granule that nobody has claimed yet. -/
def fresh : Descriptor := ⟨.initial, 0, false⟩

instance : Inhabited Descriptor := ⟨fresh⟩

/-- How an attempt to lock a descriptor ends. -/
inductive Attempt where
  /-- Somebody else has the lock. -/
  | held
  /-- The lock was free, but the granule has another role and stays unlocked. -/
  | mismatch (actual : Role)
  /-- The lock is taken. -/
  | taken
deriving DecidableEq, Repr

/-- Tries to lock a descriptor that should have a certain role. -/
def attempt (descriptor : Descriptor) (expected : Role) : Attempt :=
  if descriptor.locked then .held
  else if descriptor.role = expected then .taken
  else .mismatch descriptor.role

/-- The descriptor with its lock taken. -/
def lock (descriptor : Descriptor) : Descriptor := { descriptor with locked := true }

/-- The descriptor with its lock given back. -/
def unlock (descriptor : Descriptor) : Descriptor := { descriptor with locked := false }

/-- What is wrong with giving back the lock now. A delegated granule must have no references. -/
def releaseFault? (descriptor : Descriptor) : Option Fault :=
  if descriptor.role = .delegated ∧ descriptor.references ≠ 0 then
    some (.delegatedInUse descriptor.references)
  else none

/-- Adds references under the lock. -/
def raise (descriptor : Descriptor) (added : UInt64) : Except Fault Descriptor :=
  match Word.add? descriptor.references added with
  | some references => .ok { descriptor with references }
  | none => .error (.referenceOverflow descriptor.references added)

/-- Gives references back under the lock. -/
def lower (descriptor : Descriptor) (removed : UInt64) : Except Fault Descriptor :=
  match Word.sub? descriptor.references removed with
  | some references => .ok { descriptor with references }
  | none => .error (.referenceUnderflow descriptor.references removed)

/-- Adds one reference without the lock. -/
def gain (descriptor : Descriptor) : Descriptor :=
  { descriptor with references := descriptor.references + 1 }

/-- Gives one reference back without the lock. -/
def drop (descriptor : Descriptor) : Descriptor :=
  { descriptor with references := descriptor.references - 1 }

/-- What is wrong with having given back a reference without the lock. -/
def dropFault? (descriptor : Descriptor) : Option Fault :=
  if descriptor.references = 0 then some .referenceMissing else none

/-- References are added under the lock exactly if the sum is a word, and nothing else changes. -/
theorem raise_eq_ok_iff {before after : Descriptor} {added : UInt64} :
    before.raise added = .ok after ↔
      after.role = before.role ∧ after.locked = before.locked ∧
        after.references.toNat = before.references.toNat + added.toNat := by
  obtain ⟨role, references, locked⟩ := after
  unfold raise
  split
  · next sum exact =>
    have exact := Word.add?_eq_some_iff.mp exact
    simp only [Except.ok.injEq, mk.injEq, ← UInt64.toNat_inj]
    constructor
    · rintro ⟨sameRole, sameReferences, sameLock⟩
      exact ⟨sameRole.symm, sameLock.symm, by omega⟩
    · rintro ⟨sameRole, sameLock, sameReferences⟩
      exact ⟨sameRole.symm, by omega, sameLock.symm⟩
  · next overflows =>
    simp only [reduceCtorEq, false_iff, not_and]
    intro _ _ sum
    have exact : Word.add? before.references added = some references :=
      Word.add?_eq_some_iff.mpr sum.symm
    rw [exact] at overflows
    contradiction

/-- References are given back under the lock exactly if there are so many, and nothing else
changes. -/
theorem lower_eq_ok_iff {before after : Descriptor} {removed : UInt64} :
    before.lower removed = .ok after ↔
      after.role = before.role ∧ after.locked = before.locked ∧
        before.references.toNat = after.references.toNat + removed.toNat := by
  obtain ⟨role, references, locked⟩ := after
  unfold lower
  split
  · next difference exact =>
    have exact := Word.sub?_eq_some_iff.mp exact
    simp only [Except.ok.injEq, mk.injEq, ← UInt64.toNat_inj]
    constructor
    · rintro ⟨sameRole, sameReferences, sameLock⟩
      exact ⟨sameRole.symm, sameLock.symm, by omega⟩
    · rintro ⟨sameRole, sameLock, sameReferences⟩
      exact ⟨sameRole.symm, by omega, sameLock.symm⟩
  · next underflows =>
    simp only [reduceCtorEq, false_iff, not_and]
    intro _ _ sum
    have exact : Word.sub? before.references removed = some references :=
      Word.sub?_eq_some_iff.mpr (by omega)
    rw [exact] at underflows
    contradiction

/-- References that were added can be given back, and then nothing has changed. -/
theorem lower_of_raise {descriptor more : Descriptor} {added : UInt64}
    (raised : descriptor.raise added = .ok more) : more.lower added = .ok descriptor := by
  obtain ⟨role, locked, references⟩ := raise_eq_ok_iff.mp raised
  exact lower_eq_ok_iff.mpr ⟨role.symm, locked.symm, references⟩

/-- Counting under the lock does not depend on the lock. -/
theorem raise_lock (descriptor : Descriptor) (added : UInt64) :
    descriptor.lock.raise added = (descriptor.raise added).map lock := by
  simp only [raise, lock]
  cases Word.add? descriptor.references added <;> rfl

theorem lower_lock (descriptor : Descriptor) (removed : UInt64) :
    descriptor.lock.lower removed = (descriptor.lower removed).map lock := by
  simp only [lower, lock]
  cases Word.sub? descriptor.references removed <;> rfl

/-- A lock may be given back unless the granule is delegated and has references. -/
theorem releaseFault?_eq_none_iff {descriptor : Descriptor} :
    descriptor.releaseFault? = none ↔
      (descriptor.role = .delegated → descriptor.references = 0) := by
  simp [releaseFault?]

/-- The lock of a non-secure granule can always be given back. -/
theorem releaseFault?_of_nonsecure {descriptor : Descriptor}
    (nonsecure : descriptor.role = .nonsecure) : descriptor.releaseFault? = none :=
  releaseFault?_eq_none_iff.mpr fun delegated => by
    rw [nonsecure] at delegated
    contradiction

/-- A delegated granule with references is what is wrong with giving a lock back. -/
theorem releaseFault?_eq_some_iff {descriptor : Descriptor} {cause : Fault} :
    descriptor.releaseFault? = some cause ↔
      descriptor.role = .delegated ∧ descriptor.references ≠ 0 ∧
        cause = .delegatedInUse descriptor.references := by
  simp [releaseFault?, and_assoc, eq_comm]

/-- Giving a reference back without the lock is in order exactly if there is one. -/
theorem dropFault?_eq_none_iff {descriptor : Descriptor} :
    descriptor.dropFault? = none ↔ 0 < descriptor.references.toNat := by
  rw [Nat.pos_iff_ne_zero, ← UInt64.toNat_zero, ne_eq, UInt64.toNat_inj]
  simp [dropFault?]

/-- A reference that is given back right after it was gained leaves no trace. -/
theorem drop_gain (descriptor : Descriptor) : descriptor.gain.drop = descriptor := by
  simp [gain, drop]

end Descriptor

end GranuleMonitor
