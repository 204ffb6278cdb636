import GranuleMonitor.Stress.Call

/-!
# Stress runs on several processors at the same time

Each worker has a processor of its own. It does its rounds like a run on a single processor, but
between any two of its calls other workers may work. What a worker draws at random is left open: any
allowed task, and any byte but zero. An attempt that needs a lock which another worker has is not
made before that lock is given back.
-/

namespace GranuleMonitor.Stress

variable {region : Region} {k : Nat}

/-- A worker on a processor. -/
structure Worker (region : Region) where
  cpu : Cpu
  /-- How many rounds have not begun. -/
  left : Nat
  /-- The calls of the present round that are still to come. -/
  pending : List (Call region)
  /-- Whether a call was broken off by a fault. -/
  broken : Bool

/-- Workers on one arena. -/
structure Floor (region : Region) (k : Nat) where
  arena : Arena region
  workers : Vector (Worker region) k

namespace Floor

/-- The arena as a worker's processor uses it. -/
def arenaOf (floor : Floor region k) (worker : Worker region) : Arena region :=
  { floor.arena with monitor := { floor.arena.monitor with cpu := worker.cpu } }

/-- The floor after a worker has done something. -/
def put (floor : Floor region k) (index : Fin k) (worker : Worker region) (arena : Arena region) :
    Floor region k :=
  ⟨arena, floor.workers.set index worker index.isLt⟩

/-- One step of one worker. -/
inductive Step : Floor region k → Floor region k → Prop where
  /-- A worker begins a round. -/
  | attempt {floor} (index : Fin k) {worker : Worker region} {left : Nat} {task : Task}
      {calls : List (Call region)} {arena : Arena region} (present : floor.workers.get index = worker)
      (between : worker.pending = []) (more : worker.left = left + 1)
      (whole : worker.broken = false) (allowed : task.Allowed)
      (made : Exercise.onMonitor task.attempt (floor.arenaOf worker) = .ok calls arena) :
      Step floor (floor.put index { worker with left, pending := calls } arena)
  /-- The attempt of a worker is broken off. -/
  | attemptFault {floor} (index : Fin k) {worker : Worker region} {left : Nat} {task : Task}
      {cause : Fault} {arena : Arena region} (present : floor.workers.get index = worker)
      (between : worker.pending = []) (more : worker.left = left + 1)
      (whole : worker.broken = false) (allowed : task.Allowed)
      (made : Exercise.onMonitor task.attempt (floor.arenaOf worker) =
        .error (.fault cause) arena) :
      Step floor (floor.put index { worker with broken := true } arena)
  /-- A worker performs its next call. -/
  | call {floor} (index : Fin k) {worker : Worker region} {call : Call region}
      {later : List (Call region)} {byte : UInt8} {arena : Arena region}
      (present : floor.workers.get index = worker) (next : worker.pending = call :: later)
      (positive : byte ≠ 0)
      (made : call.performBefore later byte (floor.arenaOf worker) = .ok () arena) :
      Step floor (floor.put index { worker with pending := later } arena)
  /-- The next call of a worker is broken off. -/
  | callFault {floor} (index : Fin k) {worker : Worker region} {call : Call region}
      {later : List (Call region)} {byte : UInt8} {cause : Fault} {arena : Arena region}
      (present : floor.workers.get index = worker) (next : worker.pending = call :: later)
      (positive : byte ≠ 0)
      (made : call.performBefore later byte (floor.arenaOf worker) =
        .error (.fault cause) arena) :
      Step floor (floor.put index { worker with pending := [], broken := true } arena)

/-- Workers on different processors begin all their rounds on a monitor. -/
def start (monitor : Monitor region) (cpus : Vector Cpu k) : Floor region k :=
  ⟨⟨monitor, .zero⟩, cpus.map fun cpu => ⟨cpu, rounds, [], false⟩⟩

/-- A number of steps. -/
inductive Steps : Floor region k → Floor region k → Prop where
  | refl {floor} : Steps floor floor
  | step {floor middle last} (prior : Steps floor middle) (step : Step middle last) :
      Steps floor last

/-- All workers have done all their rounds. -/
def Finished (floor : Floor region k) : Prop :=
  ∀ index : Fin k, (floor.workers.get index).left = 0 ∧ (floor.workers.get index).pending = []

end Floor

end GranuleMonitor.Stress
