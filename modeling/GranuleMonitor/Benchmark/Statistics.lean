/-!
# Statistics of measurements

The mean, the least and the greatest of a series of measurements. The mean is rounded down. All of
them are zero for a series without members.
-/

namespace GranuleMonitor

/-- What is reported of a series of measurements. -/
structure Summary where
  mean : UInt32
  least : UInt32
  greatest : UInt32
deriving DecidableEq, Repr

namespace Summary

/-- The sum of a series, as a 64-bit word. -/
def sum (series : List UInt32) : UInt64 :=
  series.foldl (fun total value => total + value.toUInt64) 0

/-- The smaller of two measurements. -/
def lesser (a b : UInt32) : UInt32 := if a ≤ b then a else b

/-- The larger of two measurements. -/
def greater (a b : UInt32) : UInt32 := if a ≤ b then b else a

/-- Summarizes a series. -/
def ofSeries : List UInt32 → Summary
  | [] => ⟨0, 0, 0⟩
  | first :: rest => {
    mean := (sum (first :: rest) / UInt64.ofNat (rest.length + 1)).toUInt32
    least := rest.foldl lesser first
    greatest := rest.foldl greater first }

end Summary

end GranuleMonitor
