import GranuleMonitor.Descriptor
import GranuleMonitor.Region

/-!
# Stores

A store holds the descriptors of all granules of a region, and besides them one descriptor that
stands alone: it can be locked and counted like the others, but no address leads to it. A `Target`
names one descriptor of a store. `get_set_self` and `get_set_ne` are the two laws of a store.
-/

namespace GranuleMonitor

/-- Names a descriptor. -/
inductive Target (region : Region) where
  /-- The descriptor of a granule of the region. -/
  | entry (index : Fin region.size)
  /-- The descriptor that stands alone. -/
  | detached
deriving DecidableEq, Repr

/-- The descriptors of a region's granules, and one that stands alone. -/
structure Store (region : Region) where
  entries : Vector Descriptor region.size
  detached : Descriptor

/-- Reading a vector at a bounded index is reading it at that number. -/
theorem vectorGet_eq {α : Type} {n : Nat} (members : Vector α n) (index : Fin n) :
    members.get index = members[index.val] := rfl

namespace Store

variable {region : Region}

/-- The store in which no granule has been claimed. -/
def fresh (region : Region) : Store region :=
  ⟨.replicate region.size .fresh, .fresh⟩

/-- The descriptor that a target names. -/
def get (store : Store region) : Target region → Descriptor
  | .entry index => store.entries.get index
  | .detached => store.detached

/-- Replaces the descriptor that a target names. -/
def set (store : Store region) (target : Target region) (descriptor : Descriptor) : Store region :=
  match target with
  | .entry index => { store with entries := store.entries.set index descriptor index.isLt }
  | .detached => { store with detached := descriptor }

/-- What was written to a target is read from it. -/
@[simp]
theorem get_set_self (store : Store region) (target : Target region) (descriptor : Descriptor) :
    (store.set target descriptor).get target = descriptor := by
  cases target <;> simp [get, set, vectorGet_eq]

/-- A write leaves every other target as it is. -/
theorem get_set_ne (store : Store region) {target other : Target region} (descriptor : Descriptor)
    (differs : other ≠ target) :
    (store.set target descriptor).get other = store.get other := by
  cases target <;> cases other <;> simp_all [get, set, vectorGet_eq, Fin.ext_iff, eq_comm]

/-- Two stores with the same descriptors are the same store. -/
theorem ext_get {left right : Store region}
    (same : ∀ target, left.get target = right.get target) : left = right := by
  obtain ⟨leftEntries, leftDetached⟩ := left
  obtain ⟨rightEntries, rightDetached⟩ := right
  have detached : leftDetached = rightDetached := same .detached
  have entries : leftEntries = rightEntries :=
    Vector.ext fun index within => same (.entry ⟨index, within⟩)
  rw [detached, entries]

/-- In a fresh store every descriptor is fresh. -/
theorem get_fresh (target : Target region) : (fresh region).get target = .fresh := by
  cases target <;> simp [get, fresh, vectorGet_eq]

end Store

end GranuleMonitor
