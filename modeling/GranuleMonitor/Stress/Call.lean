import GranuleMonitor.LockSet
import GranuleMonitor.Stress.Task
import GranuleMonitor.Zeroing

/-!
# What a task consists of

A task begins with one attempt to find or lock granules. If that succeeds, a list of calls follows,
and the guards that were obtained are used by these calls and given back by the last of them. Each
attempt and each call is indivisible, and in between other processors may work. The outcome of each
task is counted.
-/

namespace GranuleMonitor.Stress

/-- What is counted. -/
inductive Outcome where
  | delegated
  | undelegated
  | pairs
  | atomic
  | rejected
  | busy
deriving DecidableEq, Repr

/-- How often each outcome occurred. -/
structure Tally where
  delegated : Nat
  undelegated : Nat
  pairs : Nat
  atomic : Nat
  rejected : Nat
  busy : Nat
deriving DecidableEq, Repr

namespace Tally

/-- Nothing has occurred. -/
def zero : Tally := ⟨0, 0, 0, 0, 0, 0⟩

/-- Counts one outcome. -/
def add (tally : Tally) : Outcome → Tally
  | .delegated => { tally with delegated := tally.delegated + 1 }
  | .undelegated => { tally with undelegated := tally.undelegated + 1 }
  | .pairs => { tally with pairs := tally.pairs + 1 }
  | .atomic => { tally with atomic := tally.atomic + 1 }
  | .rejected => { tally with rejected := tally.rejected + 1 }
  | .busy => { tally with busy := tally.busy + 1 }

/-- The number of outcomes. -/
def total (tally : Tally) : Nat :=
  tally.delegated + tally.undelegated + tally.pairs + tally.atomic + tally.rejected + tally.busy

/-- Counting an outcome makes the total one larger. -/
theorem total_add (tally : Tally) (outcome : Outcome) :
    (tally.add outcome).total = tally.total + 1 := by
  cases outcome <;> simp only [add, total] <;> omega

end Tally

/-- What the processors work on. -/
structure Arena (region : Region) where
  monitor : Monitor region
  tally : Tally

/-- An action of a processor. -/
abbrev Exercise (region : Region) := EStateM (Halt region) (Arena region)

variable {region : Region}

namespace Exercise

/-- Performs an action on the monitor. -/
def onMonitor {α : Type} (action : Act region α) : Exercise region α := fun arena =>
  let ⟨monitor, tally⟩ := arena
  match action monitor with
  | .ok value monitor => .ok value ⟨monitor, tally⟩
  | .error halt monitor => .error halt ⟨monitor, tally⟩

/-- Counts an outcome. -/
def count (outcome : Outcome) : Exercise region Unit := fun arena =>
  .ok () { arena with tally := arena.tally.add outcome }

end Exercise

/-- A call that follows a successful attempt. -/
inductive Call (region : Region) where
  /-- Zero a locked granule. -/
  | scrub (guard : Guard region)
  /-- Make sure that a granule's content is zero. -/
  | inspect (addr : Address)
  /-- Fill a granule with a random byte. -/
  | refill (addr : Address)
  /-- Give a granule another role and its lock back. -/
  | transition (guard : Guard region) (next : Role)
  /-- Count a reference under the lock. -/
  | raise (guard : Guard region)
  /-- Give a reference back under the lock. -/
  | lower (guard : Guard region)
  /-- Give a lock back. -/
  | release (guard : Guard region)
  /-- Count a reference without the lock. -/
  | gain (target : Target region)
  /-- Give a reference back without the lock. -/
  | drop (target : Target region)
  /-- Count an outcome. -/
  | count (outcome : Outcome)
deriving DecidableEq, Repr

namespace Call

/-- The guard that a call uses. -/
def guard? : Call region → Option (Guard region)
  | .scrub guard | .transition guard _ | .raise guard | .lower guard | .release guard => some guard
  | .inspect _ | .refill _ | .gain _ | .drop _ | .count _ => none

/-- The byte that a call needs, drawn from a generator. -/
def draw (dice : Xoshiro256) : Call region → UInt8 × Xoshiro256
  | .refill _ => dice.positiveByte
  | _ => (0, dice)

/-- Performs a call, with a byte for the one that needs one. -/
def perform (byte : UInt8) : Call region → Exercise region Unit
  | .scrub guard => Exercise.onMonitor (guard.zero .delegated)
  | .inspect addr => Exercise.onMonitor do
    if ← Act.isZeroed addr then pure () else Act.fail (.notScrubbed addr)
  | .refill addr => Exercise.onMonitor (Act.fill addr byte)
  | .transition guard next => Exercise.onMonitor (guard.transition next)
  | .raise guard => Exercise.onMonitor (guard.raise 1)
  | .lower guard => Exercise.onMonitor (guard.lower 1)
  | .release guard => Exercise.onMonitor guard.release
  | .gain target => Exercise.onMonitor target.gain
  | .drop target => Exercise.onMonitor target.drop
  | .count outcome => Exercise.count outcome

/-- Performs a call while others are still to come. If it is broken off, the locks that those would
have given back are given back without a check. -/
def performBefore (later : List (Call region)) (byte : UInt8) (call : Call region) :
    Exercise region Unit := fun arena =>
  match call.perform byte arena with
  | .ok _ arena => .ok () arena
  | .error halt arena =>
    match Exercise.onMonitor ((later.filterMap guard?).forM Guard.abandon) arena with
    | .ok _ arena => .error halt arena
    | .error _ arena => .error halt arena

end Call

/-- The address of a granule of memory by its number, whether there is such a granule or not. -/
def granuleAddress (memory : Memory) (index : Nat) : Except Fault Address := do
  let offset ← Word.product (UInt64.ofNat index) granuleBytes
  Word.sum memory.base offset

/-- An address that is a word is given, and is the exact one. -/
theorem granuleAddress_eq_ok {memory : Memory} {index : Nat} {addr : Address}
    (exact : memory.base.toNat + granuleSize * index = addr.toNat) :
    granuleAddress memory index = .ok addr := by
  have bound := addr.toNat_lt
  simp only [granuleSize_eq] at exact
  have number : (UInt64.ofNat index).toNat = index :=
    UInt64.toNat_ofNat_of_lt' (by simp only [UInt64.size]; omega)
  have offset : (UInt64.ofNat (4096 * index)).toNat = 4096 * index :=
    UInt64.toNat_ofNat_of_lt' (by simp only [UInt64.size]; omega)
  have product : Word.product (UInt64.ofNat index) granuleBytes =
      .ok (UInt64.ofNat (4096 * index)) := by
    rw [Word.product_eq_ok_iff, number, offset, toNat_granuleBytes, granuleSize_eq, Nat.mul_comm]
  have sum : Word.sum memory.base (UInt64.ofNat (4096 * index)) = .ok addr := by
    rw [Word.sum_eq_ok_iff, offset, exact]
  rw [granuleAddress, product]
  exact sum

/-- The calls after a granule was asked for that nobody should refer to. -/
def afterUnreferenced (calls : Guard region → List (Call region)) :
    Except Refusal (Guard region) → List (Call region)
  | .ok guard => calls guard
  | .error .input => [.count .rejected]
  | .error .inUse => [.count .busy]

/-- The calls after two granules were asked for. References are only counted on non-secure
granules. -/
def afterPair (role : Role) : Option (Guard region × Guard region) → List (Call region)
  | none => [.count .rejected]
  | some (first, second) =>
    (if role = .nonsecure then [.raise first, .raise second, .lower first, .lower second]
      else []) ++
    [.count .pairs, .release second, .release first]

/-- Tries an address that has to be turned down. -/
def tryInvalid (addr : Address) : Act region (List (Call region)) := do
  match ← lockAt addr .nonsecure with
  | .error _ => return [.count .rejected]
  | .ok guard =>
    guard.release
    Act.fail .invalidAccepted

/-- Makes the attempt that a task begins with, and gives the calls that have to follow. -/
def Task.attempt (task : Task) : Act region (List (Call region)) := do
  let memory := (← get).memory
  match task with
  | .delegate index =>
    let addr ← Act.ofExcept (granuleAddress memory index)
    return afterUnreferenced
      (fun guard =>
        [.scrub guard, .inspect addr, .transition guard .delegated, .count .delegated])
      (← lockUnreferenced addr .nonsecure)
  | .undelegate index =>
    let addr ← Act.ofExcept (granuleAddress memory index)
    return afterUnreferenced
      (fun guard => [.refill addr, .transition guard .nonsecure, .count .undelegated])
      (← lockUnreferenced addr .delegated)
  | .pair first second role =>
    let firstAddr ← Act.ofExcept (granuleAddress memory first)
    let secondAddr ← Act.ofExcept (granuleAddress memory second)
    return afterPair role (← lockPair ⟨firstAddr, role⟩ ⟨secondAddr, role⟩)
  | .count index =>
    let addr ← Act.ofExcept (granuleAddress memory index)
    match region.entryAt? addr with
    | some target => return [.gain target, .drop target, .count .atomic]
    | none => Act.fail (.missingGranule addr)
  | .misaligned index offset =>
    let addr ← Act.ofExcept (granuleAddress memory index)
    tryInvalid (← Act.ofExcept (Word.sum addr (UInt64.ofNat offset)))
  | .outside index => tryInvalid (← Act.ofExcept (granuleAddress memory index))

end GranuleMonitor.Stress
