import GranuleMonitor.Refusal

/-!
# Roles

Every granule has a role, which says who may use it and for what. A role has a number, by which
callers pass it, a name for messages and a label for structured diagnostics. The numbers run from
zero without gaps, so the roles are ordered by them and can be walked in a circle.
-/

namespace GranuleMonitor

/-- What a granule is used for. -/
inductive Role where
  /-- Left to the non-secure world. -/
  | nonsecure
  /-- Handed to the monitor, not in use yet. -/
  | delegated
  /-- Holds the descriptor of a realm. -/
  | realm
  /-- Holds an execution context of a realm. -/
  | context
  /-- Holds an auxiliary part of an execution context. -/
  | auxiliary
  /-- Holds data of a realm. -/
  | data
  /-- Holds a translation table of a realm. -/
  | translation
deriving DecidableEq, Repr, Inhabited

namespace Role

/-- All roles, by ascending number. -/
def all : List Role := [.nonsecure, .delegated, .realm, .context, .auxiliary, .data, .translation]

/-- How many roles there are. -/
def count : Nat := 7

/-- The role with the highest number. -/
def last : Role := .translation

/-- The role of a granule that nobody has claimed yet. -/
def initial : Role := .nonsecure

/-- The number of a role. -/
def number : Role → Nat
  | .nonsecure => 0
  | .delegated => 1
  | .realm => 2
  | .context => 3
  | .auxiliary => 4
  | .data => 5
  | .translation => 6

/-- The role with a given number, if there is one. -/
def ofNumber? : Nat → Option Role
  | 0 => some .nonsecure
  | 1 => some .delegated
  | 2 => some .realm
  | 3 => some .context
  | 4 => some .auxiliary
  | 5 => some .data
  | 6 => some .translation
  | _ => none

/-- Reads a number that an untrusted caller gives. -/
def read (n : Nat) : Except Refusal Role :=
  match ofNumber? n with
  | some role => .ok role
  | none => .error .input

/-- The role with the next number; the first one follows the last. -/
def next : Role → Role
  | .nonsecure => .delegated
  | .delegated => .realm
  | .realm => .context
  | .context => .auxiliary
  | .auxiliary => .data
  | .data => .translation
  | .translation => .nonsecure

/-- The name of a role in messages. -/
def name : Role → String
  | .nonsecure => "NS"
  | .delegated => "DELEGATED"
  | .realm => "RD"
  | .context => "REC"
  | .auxiliary => "REC_AUX"
  | .data => "DATA"
  | .translation => "RTT"

/-- The label of a role in structured diagnostics. -/
def label : Role → String
  | .nonsecure => "Ns"
  | .delegated => "Delegated"
  | .realm => "Rd"
  | .context => "Rec"
  | .auxiliary => "RecAux"
  | .data => "Data"
  | .translation => "Rtt"

/-- The role with a given name. -/
def ofName? (name : String) : Option Role :=
  all.find? (·.name == name)

/-- Roles compare by their numbers. -/
instance : Ord Role where
  compare a b := compare a.number b.number

/-- The role with the higher number. -/
def max (a b : Role) : Role :=
  if a.number ≤ b.number then b else a

/-- The role with the lower number. -/
def min (a b : Role) : Role :=
  if a.number ≤ b.number then a else b

/-- Reading a role's number gives the role back. -/
theorem ofNumber?_number (role : Role) : ofNumber? role.number = some role := by
  cases role <;> rfl

/-- Walking on adds one to the number, modulo the number of roles. -/
theorem number_next (role : Role) : role.next.number = (role.number + 1) % count := by
  cases role <;> rfl

/-- `all` holds every role. -/
theorem mem_all (role : Role) : role ∈ all := by
  cases role <;> decide

end Role

end GranuleMonitor
