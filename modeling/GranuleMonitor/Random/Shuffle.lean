import GranuleMonitor.Random.Bounded

/-!
# Shuffling

The members of a vector are brought into a random order, from the back: each one changes places with
itself or one before it, and that place is a random word modulo the number of places.
-/

namespace GranuleMonitor

/-- Shuffles the members up to a place, with random words from a source. -/
def shuffleUpTo {σ α : Type} {n : Nat} (source : Source σ UInt32) :
    (place : Nat) → place < n → Vector α n → σ → Vector α n × σ
  | 0, _, members, state => (members, state)
  | place + 1, within, members, state =>
    let (word, state) := source state
    let other := word.toNat % (place + 2)
    have otherWithin : other < n :=
      Nat.lt_of_lt_of_le (Nat.mod_lt _ (by omega)) within
    shuffleUpTo source place (by omega) (members.swap (place + 1) other within otherWithin) state

/-- Shuffles a vector, with random words from a source. -/
def shuffle {σ α : Type} {n : Nat} (source : Source σ UInt32) (members : Vector α n) (state : σ) :
    Vector α n × σ :=
  if some : 0 < n then shuffleUpTo source (n - 1) (by omega) members state else (members, state)

end GranuleMonitor
