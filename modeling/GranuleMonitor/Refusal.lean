/-!
# Refusals

A refusal answers an untrusted caller: the operation had no effect, and the caller learns which of
two reasons applies. Each reason has a text and a status number, and zero is the status of success.
-/

namespace GranuleMonitor

/-- Why the request of an untrusted caller was turned down. -/
inductive Refusal where
  /-- The address is not that of a granule, or the granule has another role. -/
  | input
  /-- The granule has the requested role but is still referenced. -/
  | inUse
deriving DecidableEq, Repr

/-- What the caller of a service is told. -/
inductive ServiceStatus where
  | success
  | refused (reason : Refusal)
deriving DecidableEq, Repr

namespace Refusal

/-- The text of a refusal. -/
def message : Refusal → String
  | .input => "invalid granule address or state"
  | .inUse => "granule is still in use"

/-- The label of a refusal in structured diagnostics. -/
def label : Refusal → String
  | .input => "Input"
  | .inUse => "InUse"

end Refusal

namespace ServiceStatus

/-- The number that a caller receives. -/
def code : ServiceStatus → Nat
  | .success => 0
  | .refused .input => 1
  | .refused .inUse => 2

/-- The label of a status in structured diagnostics. -/
def label : ServiceStatus → String
  | .success => "Success"
  | .refused reason => "Error" ++ reason.label

/-- The status for the outcome of an operation. -/
def ofResult {α : Type} : Except Refusal α → ServiceStatus
  | .ok _ => .success
  | .error reason => .refused reason

end ServiceStatus

end GranuleMonitor
