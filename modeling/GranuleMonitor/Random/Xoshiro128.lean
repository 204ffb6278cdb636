/-!
# The generator xoshiro128**

A pseudo-random generator of 32-bit words with 128 bits of state. All arithmetic wraps.
-/

namespace GranuleMonitor

/-- The state of a xoshiro128** generator. -/
structure Xoshiro128 where
  s0 : UInt32
  s1 : UInt32
  s2 : UInt32
  s3 : UInt32
deriving DecidableEq, Repr

namespace Xoshiro128

/-- Rotates a word to the left. -/
def rotateLeft (word distance : UInt32) : UInt32 :=
  (word <<< distance) ||| (word >>> (32 - distance))

/-- The next word, and the state after it. -/
def next (state : Xoshiro128) : UInt32 × Xoshiro128 :=
  let word := rotateLeft (state.s1 * 5) 7 * 9
  let shifted := state.s1 <<< 9
  let s2 := state.s2 ^^^ state.s0
  let s3 := state.s3 ^^^ state.s1
  let s1 := state.s1 ^^^ s2
  let s0 := state.s0 ^^^ s3
  (word, ⟨s0, s1, s2 ^^^ shifted, rotateLeft s3 11⟩)

end Xoshiro128

end GranuleMonitor
