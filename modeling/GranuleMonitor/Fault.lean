import GranuleMonitor.Address
import GranuleMonitor.Role
import GranuleMonitor.Window.Slot

/-!
# Faults

A fault is the breach of a rule that trusted callers have to keep, for instance a reference that is
given back twice. It ends the operation that finds it. There is one constructor for each cause, and
`Fault.message` holds all their texts.
-/

namespace GranuleMonitor

/-- Why an operation was broken off. -/
inductive Fault where
  /-- A granule was to be locked in a role that it does not have. -/
  | roleMismatch (actual expected : Role)
  /-- A reference count would exceed the largest word. -/
  | referenceOverflow (references added : UInt64)
  /-- More references were to be given back under the lock than the granule has. -/
  | referenceUnderflow (references removed : UInt64)
  /-- A reference was given back without the lock although the granule had none. -/
  | referenceMissing
  /-- The lock of a delegated granule was given back while the granule had references. -/
  | delegatedInUse (references : UInt64)
  /-- An address was taken for that of a granule of the table. -/
  | notAGranule (addr base limit : Address)
  /-- The address of a descriptor was asked for that is not part of the table. -/
  | foreignDescriptor
  /-- A granule was to be zeroed through the slot that is kept for the non-secure world. -/
  | nonsecureWindow
  /-- A granule could not be given a window. -/
  | unmappable (addr : Address) (slot : WindowSlot)
  /-- A window was to be zeroed that does not span one granule. -/
  | partialWindow (length : Nat)
  /-- A window slot was to be used while it was occupied. -/
  | windowOccupied (slot : WindowSlot) (cpu : Nat) (occupant : Address)
  /-- A window was given back that is not the one in the slot; an empty slot counts as zero. -/
  | windowMismatch (slot : WindowSlot) (cpu : Nat) (occupant returned : Address)
  /-- A processor number is too high. -/
  | unknownCpu (cpu : UInt64)
  /-- The slots of a processor were looked at that does not exist. -/
  | noSuchCpu (cpu : UInt64)
  /-- An address was used that no memory stands behind. -/
  | unbacked (addr : Address)
  /-- A number was taken for that of a role. -/
  | unknownRole (number : Nat)
  /-- A granule of a set that was locked is missing from the set. -/
  | setIncomplete
  /-- The room for measurements differs from the number of repetitions. -/
  | roomMismatch (repetitions room : Nat)
  /-- A set of granules was to be drawn from a table that is too small for it. -/
  | setTooLarge
  /-- A set of granules was to be drawn that has no member. -/
  | emptySet
  /-- A granule was handed over whose content is not zero. -/
  | notScrubbed (addr : Address)
  /-- A granule that the table was created with could not be found. -/
  | missingGranule (addr : Address)
  /-- An address that has to be refused was accepted. -/
  | invalidAccepted
  /-- The table of the process was used before it was created. -/
  | noTable
  /-- A sum needs more than 64 bits. -/
  | sumOverflow
  /-- A product needs more than 64 bits. -/
  | productOverflow
deriving DecidableEq, Repr

namespace Fault

/-- The text for two values that had to be equal, or, for the operator `!=`, different. -/
def comparisonText (operator detail left right : String) : String :=
  s!"assertion `left {operator} right` failed{detail}\n  left: {left}\n right: {right}"

/-- The text of a fault. -/
def message : Fault → String
  | .roleMismatch actual expected =>
    s!"granule is in state {actual.name} but was expected to be in state {expected.name}"
  | .referenceOverflow references added => s!"granule refcount overflow ({references} + {added})"
  | .referenceUnderflow references removed =>
    s!"granule refcount underflow ({references} - {removed})"
  | .referenceMissing => "granule refcount underflow"
  | .delegatedInUse references =>
    comparisonText "==" ": delegated granule is released with a non-zero refcount"
      (toString references) "0"
  | .notAGranule addr base limit =>
    s!"address {hexText addr} is not a granule in [{hexText base}, {hexText limit})"
  | .foreignDescriptor => "granule descriptor is not part of the table"
  | .nonsecureWindow =>
    comparisonText "!=" ": granules cannot be zeroed through the NS slot" "Ns" "Ns"
  | .unmappable addr slot => s!"could not map granule {hexText addr} into slot {slot.name}"
  | .partialWindow length =>
    comparisonText "==" ": window is not one granule long" (toString length) (toString granuleSize)
  | .windowOccupied slot cpu occupant =>
    s!"slot {slot.name} of cpu {cpu} already maps {hexText occupant}"
  | .windowMismatch slot cpu occupant returned =>
    comparisonText "==" s!": slot {slot.name} of cpu {cpu} does not map the released window"
      (toString occupant) (toString returned)
  | .unknownCpu cpu => s!"cpu id {cpu} is out of range"
  | .noSuchCpu cpu => s!"index out of bounds: the len is {maxCpus} but the index is {cpu}"
  | .unbacked addr => s!"address {hexText addr} is not backed by this host memory"
  | .unknownRole number => s!"invalid granule state {number}"
  | .setIncomplete => "every requested granule is locked"
  | .roomMismatch repetitions room =>
    comparisonText "==" "" (toString repetitions) (toString room)
  | .setTooLarge => "assertion failed: N <= table.len()"
  | .emptySet => "attempt to divide by zero"
  | .notScrubbed addr => s!"granule {hexText addr} was not zeroed"
  | .missingGranule addr =>
    s!"internal error: entered unreachable code: granule {hexText addr} is part of the table"
  | .invalidAccepted => comparisonText "==" "" "None" "Some(Input)"
  | .noTable => "granule table is not initialized"
  | .sumOverflow => "attempt to add with overflow"
  | .productOverflow => "attempt to multiply with overflow"

end Fault

namespace Word

/-- The sum of two words, which has to be a word. -/
def sum (a b : UInt64) : Except Fault UInt64 :=
  match add? a b with
  | some total => .ok total
  | none => .error .sumOverflow

/-- The product of two words, which has to be a word. -/
def product (a b : UInt64) : Except Fault UInt64 :=
  match mul? a b with
  | some total => .ok total
  | none => .error .productOverflow

/-- A sum is the exact sum, and is given whenever that is a word. -/
theorem sum_eq_ok_iff {a b c : UInt64} : sum a b = .ok c ↔ a.toNat + b.toNat = c.toNat := by
  rw [← add?_eq_some_iff, sum]
  cases add? a b <;> simp

/-- A product is the exact product, and is given whenever that is a word. -/
theorem product_eq_ok_iff {a b c : UInt64} :
    product a b = .ok c ↔ a.toNat * b.toNat = c.toNat := by
  rw [← mul?_eq_some_iff, product]
  cases mul? a b <;> simp

end Word

/-- The role with a number that a trusted caller gives. -/
def Role.ofTrusted (n : Nat) : Except Fault Role :=
  match Role.ofNumber? n with
  | some role => .ok role
  | none => .error (.unknownRole n)

end GranuleMonitor
