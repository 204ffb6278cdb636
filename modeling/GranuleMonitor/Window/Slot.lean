/-!
# Window slots

A processor reaches the content of a granule through a window, and each processor has one window
slot per purpose. Slots have consecutive numbers from zero, and a name for messages.
-/

namespace GranuleMonitor

/-- What a window of a processor is used for. -/
inductive WindowSlot where
  /-- Memory of the non-secure world. -/
  | nonsecure
  /-- A granule that changes hands. -/
  | delegated
  /-- The descriptor of a realm. -/
  | realm
  /-- An execution context. -/
  | context
  /-- A second execution context. -/
  | secondContext
  /-- The execution context that a request is aimed at. -/
  | targetContext
  /-- The first auxiliary part of an execution context. -/
  | firstAuxiliary
  /-- A translation table. -/
  | translation
  /-- A second translation table. -/
  | secondTranslation
  /-- The arguments of a call made by a realm. -/
  | realmCall
deriving DecidableEq, Repr, Inhabited

namespace WindowSlot

/-- All slots, by ascending number. -/
def all : List WindowSlot :=
  [.nonsecure, .delegated, .realm, .context, .secondContext, .targetContext, .firstAuxiliary,
    .translation, .secondTranslation, .realmCall]

/-- How many window slots a processor has. -/
abbrev count : Nat := 10

/-- The number of a slot. -/
def number : WindowSlot → Fin count
  | .nonsecure => 0
  | .delegated => 1
  | .realm => 2
  | .context => 3
  | .secondContext => 4
  | .targetContext => 5
  | .firstAuxiliary => 6
  | .translation => 7
  | .secondTranslation => 8
  | .realmCall => 9

/-- The name of a slot in messages. -/
def name : WindowSlot → String
  | .nonsecure => "Ns"
  | .delegated => "Delegated"
  | .realm => "Rd"
  | .context => "Rec"
  | .secondContext => "Rec2"
  | .targetContext => "RecTarget"
  | .firstAuxiliary => "RecAux0"
  | .translation => "Rtt"
  | .secondTranslation => "Rtt2"
  | .realmCall => "RsiCall"

/-- The slot with a given name. -/
def ofName? (text : String) : Option WindowSlot :=
  all.find? (·.name == text)

/-- Different slots have different numbers. -/
theorem number_injective {a b : WindowSlot} (same : a.number = b.number) : a = b := by
  cases a <;> cases b <;> first | rfl | exact absurd same (by decide)

/-- `all` holds every slot. -/
theorem mem_all (slot : WindowSlot) : slot ∈ all := by
  cases slot <;> decide

end WindowSlot

end GranuleMonitor
