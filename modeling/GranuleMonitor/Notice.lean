import GranuleMonitor.Address
import GranuleMonitor.Role

/-!
# Notices

The monitor records what an operator may want to know, above all why it turned a request down. A
notice has a level, by which records are selected, and a text.
-/

namespace GranuleMonitor

/-- How important a record is. -/
inductive Level where
  | trace
  | debug
  | info
  | warn
  | error
deriving DecidableEq, Repr

namespace Level

/-- The name of a level in records. -/
def name : Level → String
  | .trace => "TRACE"
  | .debug => "DEBUG"
  | .info => "INFO"
  | .warn => "WARN"
  | .error => "ERROR"

/-- The rank of a level; more important levels have higher ranks. -/
def rank : Level → Nat
  | .trace => 0
  | .debug => 1
  | .info => 2
  | .warn => 3
  | .error => 4

end Level

/-- Something that is worth a record. -/
inductive Notice where
  /-- A table for a range was created. -/
  | tableCreated (base : Address) (count : UInt64)
  /-- The table of the process was put in place. -/
  | tableStored
  /-- A granule was not locked because it has another role. -/
  | roleMismatch (actual expected : Role)
  /-- An address is not that of a granule. -/
  | unknownAddress (addr : Address)
  /-- A granule was not locked because it has references. -/
  | stillReferenced (addr : Address) (references : UInt64)
  /-- An address in a set of requests is not that of a granule. -/
  | unknownInSet (addr : Address)
  /-- Two requests of a set name the same granule. -/
  | duplicateInSet
  /-- A processor has done all its rounds. -/
  | cpuFinished (cpu : Nat)
  /-- There was no benchmark to run. -/
  | nothingSelected
deriving DecidableEq, Repr

namespace Notice

/-- The number of bytes that a descriptor takes up. -/
def descriptorBytes : Nat := 16

/-- The level of a notice. -/
def level : Notice → Level
  | .tableCreated .. | .tableStored | .cpuFinished .. => .debug
  | .roleMismatch .. | .unknownAddress .. | .stillReferenced .. | .unknownInSet ..
  | .duplicateInSet => .trace
  | .nothingSelected => .warn

/-- The text of a notice. -/
def message : Notice → String
  | .tableCreated base count =>
    s!"Created granule table: base={hexText base}, count={count}, " ++
      s!"descriptor size={descriptorBytes} bytes"
  | .tableStored => "Initialized process-wide granule table"
  | .roleMismatch actual expected =>
    s!"Lock: state {actual.name} does not match {expected.name}"
  | .unknownAddress addr => s!"Find and lock: invalid address {hexText addr}"
  | .stillReferenced addr references =>
    s!"Find and lock unused: granule {hexText addr} has {references} reference(s)"
  | .unknownInSet addr => s!"Lock granules: invalid address {hexText addr}"
  | .duplicateInSet => "Lock granules: duplicate address"
  | .cpuFinished cpu => s!"CPU {cpu} finished"
  | .nothingSelected => "No benchmarks selected"

/-- The record of a notice: its level and its text. -/
def record (notice : Notice) : String :=
  notice.level.name ++ " " ++ notice.message

end Notice

end GranuleMonitor
