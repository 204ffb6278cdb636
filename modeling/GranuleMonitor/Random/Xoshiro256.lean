/-!
# The generator xoshiro256++

A pseudo-random generator of 64-bit words with 256 bits of state. A seed of 64 bits is expanded to
a state by the generator PCG32: each word of the state is made of two of its outputs, the first one
in the lower half. All arithmetic wraps.
-/

namespace GranuleMonitor

/-- The state of a xoshiro256++ generator. -/
structure Xoshiro256 where
  s0 : UInt64
  s1 : UInt64
  s2 : UInt64
  s3 : UInt64
deriving DecidableEq, Repr

namespace Xoshiro256

/-- Rotates a word to the left. -/
def rotateLeft (word distance : UInt64) : UInt64 :=
  (word <<< distance) ||| (word >>> (64 - distance))

/-- The next word, and the state after it. -/
def next (state : Xoshiro256) : UInt64 × Xoshiro256 :=
  let word := rotateLeft (state.s0 + state.s3) 23 + state.s0
  let shifted := state.s1 <<< 17
  let s2 := state.s2 ^^^ state.s0
  let s3 := state.s3 ^^^ state.s1
  let s1 := state.s1 ^^^ s2
  let s0 := state.s0 ^^^ s3
  (word, ⟨s0, s1, s2 ^^^ shifted, rotateLeft s3 45⟩)

/-- One output of PCG32, and the state after it. -/
def expandOnce (state : UInt64) : UInt32 × UInt64 :=
  let state := state * 6364136223846793005 + 11634580027462260723
  let word := (((state >>> 18) ^^^ state) >>> 27).toUInt32
  let distance := (state >>> 59).toUInt32
  ((word >>> distance) ||| (word <<< ((32 - distance) % 32)), state)

/-- Two outputs of PCG32 as one word, and the state after them. -/
def expandWord (state : UInt64) : UInt64 × UInt64 :=
  let (low, state) := expandOnce state
  let (high, state) := expandOnce state
  (low.toUInt64 ||| (high.toUInt64 <<< 32), state)

/-- The generator for a seed. -/
def ofSeed (seed : UInt64) : Xoshiro256 :=
  let (s0, seed) := expandWord seed
  let (s1, seed) := expandWord seed
  let (s2, seed) := expandWord seed
  let (s3, _) := expandWord seed
  ⟨s0, s1, s2, s3⟩

end Xoshiro256

end GranuleMonitor
