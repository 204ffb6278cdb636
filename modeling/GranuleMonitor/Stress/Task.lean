import GranuleMonitor.Random.Bounded
import GranuleMonitor.Role
import GranuleMonitor.Address

/-!
# Random tasks

The stress program lets several processors work on one table at random. In each round a processor
chooses a `Task`. The granules below `sharedGranules` are locked and change hands; those above it
are only counted, without a lock. A task can also be an attempt with an address that no granule of
the table has.
-/

namespace GranuleMonitor.Stress

/-- How many granules the tasks assume the table to have. -/
def granules : Nat := 256

/-- How many of the granules are locked; the others are only counted. -/
def sharedGranules : Nat := granules * 3 / 4

/-- How many addresses behind the table are tried. -/
def outsideGranules : Nat := 16

/-- How many rounds each processor does. -/
def rounds : Nat := 100000

/-- What a processor does in one round. -/
inductive Task where
  /-- Take a granule from the non-secure world and zero it. -/
  | delegate (index : Nat)
  /-- Give a granule back to the non-secure world, which then writes to it. -/
  | undelegate (index : Nat)
  /-- Lock two granules of the same role, and count references if they are non-secure. -/
  | pair (first second : Nat) (role : Role)
  /-- Count a reference without the lock. -/
  | count (index : Nat)
  /-- Try an address that does not lie on a granule boundary. -/
  | misaligned (index offset : Nat)
  /-- Try an address behind the table. -/
  | outside (index : Nat)
deriving DecidableEq, Repr

namespace Task

/-- The tasks that can be chosen. -/
def Allowed : Task → Prop
  | .delegate index | .undelegate index => index < sharedGranules
  | .pair first second role =>
    first < sharedGranules ∧ second < sharedGranules ∧ (role = .nonsecure ∨ role = .delegated)
  | .count index => sharedGranules ≤ index ∧ index < granules
  | .misaligned index offset => index < granules ∧ 0 < offset ∧ offset < granuleSize
  | .outside index => granules ≤ index ∧ index < granules + outsideGranules

/-- A number below a bound. -/
def drawBelow (dice : Xoshiro256) (bound : Nat) : Nat × Xoshiro256 :=
  let (number, dice) := dice.below (UInt64.ofNat bound)
  (number.toNat, dice)

/-- Chooses a task at random. -/
def draw (dice : Xoshiro256) : Task × Xoshiro256 :=
  let (kind, dice) := dice.belowSmall 5
  if kind = 0 then
    let (index, dice) := drawBelow dice sharedGranules
    (.delegate index, dice)
  else if kind = 1 then
    let (index, dice) := drawBelow dice sharedGranules
    (.undelegate index, dice)
  else if kind = 2 then
    let (first, dice) := drawBelow dice sharedGranules
    let (second, dice) := drawBelow dice sharedGranules
    let (nonsecure, dice) := dice.coin
    (.pair first second (if nonsecure then .nonsecure else .delegated), dice)
  else if kind = 3 then
    let (index, dice) := drawBelow dice (granules - sharedGranules)
    (.count (sharedGranules + index), dice)
  else
    let (inside, dice) := dice.coin
    if inside then
      let (index, dice) := drawBelow dice granules
      let (offset, dice) := drawBelow dice (granuleSize - 1)
      (.misaligned index (1 + offset), dice)
    else
      let (index, dice) := drawBelow dice outsideGranules
      (.outside (granules + index), dice)

end Task

end GranuleMonitor.Stress
