import GranuleMonitor.Registry

/-!
# Callers that create the table of the process at the same time

A call that creates the table takes three steps: it looks whether there is a table, it puts its own
one in place, and it fetches the table that is there. Other callers may come in between. A
`CreationRace` is a registry with all calls so far and with what those were told who asked for the
table. `CreationRace.play` carries out the moves of any callers in any order; `Registry.create` is a
call whose steps follow one another.
-/

namespace GranuleMonitor

/-- How far a call has come. -/
inductive CreationStage where
  | begun
  /-- There was no table, and one for this region is about to be put in place. -/
  | looked (region : Region)
  /-- The call has put its table in place. -/
  | stored
  /-- The call has returned, in case of success with the region of the table. -/
  | ended (outcome : Except CreationError Region)
  /-- The call was broken off. -/
  | broken (cause : Fault)

/-- A call that creates the table. -/
structure CreationCall where
  spec : RegionSpec
  stage : CreationStage

/-- Carries out the next step of a call. -/
def CreationCall.advance (call : CreationCall) (registry : Registry) :
    CreationStage × Registry :=
  match call.stage with
  | .begun =>
    match registry.look call.spec with
    | (.ok region, registry) => (.looked region, registry)
    | (.error reason, registry) => (.ended (.error reason), registry)
  | .looked region =>
    match registry.put region with
    | (.ok _, registry) => (.stored, registry)
    | (.error reason, registry) => (.ended (.error reason), registry)
  | .stored =>
    match registry.table with
    | .ok table => (.ended (.ok table.1), registry)
    | .error cause => (.broken cause, registry)
  | .ended outcome => (.ended outcome, registry)
  | .broken cause => (.broken cause, registry)

/-- A registry, the calls that create its table, and what was answered to those who asked for it. -/
structure CreationRace where
  registry : Registry
  calls : List CreationCall
  answers : List (Except Fault Region)

/-- What may happen in a race. -/
inductive CreationMove where
  /-- A call is made. -/
  | call (spec : RegionSpec)
  /-- A call takes its next step. Callers are numbered in the order of their calls. -/
  | proceed (caller : Nat)
  /-- Somebody asks for the table. -/
  | ask
  /-- The table is used, which may change its descriptors in any way and leave records. -/
  | use (change : (region : Region) → Store region → Store region) (log : Array Notice)

namespace CreationRace

/-- No call has been made. -/
def start : CreationRace := ⟨.empty, [], []⟩

/-- The region of the table, if there is one. -/
def region? (race : CreationRace) : Option Region := race.registry.table?.map (·.1)

/-- Carries out a move. A caller that does not exist makes none. -/
def step (race : CreationRace) : CreationMove → CreationRace
  | .call spec => { race with calls := race.calls ++ [⟨spec, .begun⟩] }
  | .proceed caller =>
    match race.calls[caller]? with
    | none => race
    | some call =>
      let (stage, registry) := call.advance race.registry
      { race with registry, calls := race.calls.set caller ⟨call.spec, stage⟩ }
  | .ask => { race with answers := race.answers ++ [race.registry.table.map (·.1)] }
  | .use change log => { race with registry := race.registry.use change log }

/-- Carries out moves one after the other. -/
def play (race : CreationRace) (moves : List CreationMove) : CreationRace :=
  moves.foldl step race

end CreationRace

end GranuleMonitor
