import GranuleMonitor.Random.Xoshiro256

/-!
# Random numbers below a bound

A random word is multiplied by the bound, and the upper half of the double-width product is the
number. To make all numbers equally likely, words whose product has a lower half beyond a `zone` are
drawn again. That happens with a chance of at most one half, so after `attempts` words the last one
is taken as it is: `toNat_highHalf_lt` says that it gives a number below the bound as well.
-/

namespace GranuleMonitor

/-- A source of random numbers: it gives a word and the source of the later ones. -/
abbrev Source (σ word : Type) := σ → word × σ

namespace Bounded

/-- How many words are drawn for one number at most. -/
def attempts : Nat := 128

/-- The upper half of the product of two 64-bit words. -/
def highHalf (a b : UInt64) : UInt64 := UInt64.ofNat ((a.toNat * b.toNat) >>> 64)

/-- Draws a number below a bound from 64-bit words. -/
def draw64 {σ : Type} (source : Source σ UInt64) (bound zone : UInt64) : Nat → σ → UInt64 × σ
  | 0, state =>
    let (word, state) := source state
    (highHalf word bound, state)
  | more + 1, state =>
    let (word, state) := source state
    if word * bound ≤ zone then (highHalf word bound, state)
    else draw64 source bound zone more state

/-- Draws a number below a bound from 32-bit words. -/
def draw32 {σ : Type} (source : Source σ UInt32) (bound zone : UInt32) : Nat → σ → UInt32 × σ
  | 0, state =>
    let (word, state) := source state
    (((word.toUInt64 * bound.toUInt64) >>> 32).toUInt32, state)
  | more + 1, state =>
    let (word, state) := source state
    if word * bound ≤ zone then (((word.toUInt64 * bound.toUInt64) >>> 32).toUInt32, state)
    else draw32 source bound zone more state

/-- The upper half of a product with a word is below that word. -/
theorem toNat_highHalf_lt (a : UInt64) {b : UInt64} (positive : 0 < b.toNat) :
    (highHalf a b).toNat < b.toNat := by
  have bound : a.toNat * b.toNat < b.toNat * 2 ^ 64 := by
    rw [Nat.mul_comm]
    exact Nat.mul_lt_mul_of_pos_left a.toNat_lt positive
  have quotient : (a.toNat * b.toNat) >>> 64 < b.toNat := by
    rw [Nat.shiftRight_eq_div_pow]
    exact Nat.div_lt_of_lt_mul (by rwa [Nat.mul_comm (2 ^ 64)])
  have small : (a.toNat * b.toNat) >>> 64 < 2 ^ 64 := Nat.lt_trans quotient b.toNat_lt
  rwa [highHalf, UInt64.toNat_ofNat', Nat.mod_eq_of_lt small]

end Bounded

namespace Xoshiro256

/-- The upper half of the next word, and the state after it. -/
def nextHalf (state : Xoshiro256) : UInt32 × Xoshiro256 :=
  let (word, state) := state.next
  ((word >>> 32).toUInt32, state)

/-- A number below a positive bound, from whole words. -/
def below (state : Xoshiro256) (bound : UInt64) : UInt64 × Xoshiro256 :=
  Bounded.draw64 next bound ((bound <<< (63 - bound.log2)) - 1) Bounded.attempts state

/-- A small number below a positive bound, from halves of words. -/
def belowSmall (state : Xoshiro256) (bound : UInt32) : UInt32 × Xoshiro256 :=
  Bounded.draw32 nextHalf bound ((bound <<< (31 - bound.log2)) - 1) Bounded.attempts state

/-- A byte other than zero. Bytes are drawn from halves of words too, with the largest possible
zone: a multiple of the bound less one. -/
def positiveByte (state : Xoshiro256) : UInt8 × Xoshiro256 :=
  let bound : UInt32 := 255
  let zone : UInt32 := 0xffffffff - (0xffffffff - bound + 1) % bound
  let (number, state) := Bounded.draw32 nextHalf bound zone Bounded.attempts state
  (1 + number.toUInt8, state)

/-- A fair coin. -/
def coin (state : Xoshiro256) : Bool × Xoshiro256 :=
  let (word, state) := state.next
  (word < 0x8000000000000000, state)

end Xoshiro256

end GranuleMonitor
