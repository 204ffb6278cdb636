/-!
# Addresses and granules

Memory is handed out in granules of 4096 bytes, and a granule is named by the address of its first
byte. Addresses and reference counts are 64-bit words. Plain word arithmetic wraps; the checked
operations below answer `none` instead, and their lemmas say so in exact arithmetic.
-/

namespace GranuleMonitor

/-- A physical address. -/
abbrev Address := UInt64

/-- The binary logarithm of the size of a granule. -/
def granuleShift : Nat := 12

/-- The number of bytes in a granule. -/
abbrev granuleSize : Nat := 1 <<< granuleShift

theorem granuleSize_eq : granuleSize = 4096 := rfl

/-- The number of processors that may work on one table at a time. -/
abbrev maxCpus : Nat := 16

/-- The size of a granule as a word, for address arithmetic. -/
abbrev granuleBytes : UInt64 := 4096

theorem toNat_granuleBytes : granuleBytes.toNat = granuleSize := rfl

namespace Word

/-- The sum of two words, unless it needs more than 64 bits. -/
def add? (a b : UInt64) : Option UInt64 :=
  if a.toNat + b.toNat < UInt64.size then some (a + b) else none

/-- The difference of two words, unless it is negative. -/
def sub? (a b : UInt64) : Option UInt64 :=
  if b ≤ a then some (a - b) else none

/-- The product of two words, unless it needs more than 64 bits. -/
def mul? (a b : UInt64) : Option UInt64 :=
  if a.toNat * b.toNat < UInt64.size then some (a * b) else none

/-- A checked sum is the exact sum, and is given whenever that sum is a word. -/
theorem add?_eq_some_iff {a b c : UInt64} :
    add? a b = some c ↔ a.toNat + b.toNat = c.toNat := by
  have bound := c.toNat_lt
  unfold add?
  split
  · next fits =>
    rw [Option.some.injEq, ← UInt64.toNat_inj, UInt64.toNat_add, Nat.mod_eq_of_lt fits]
  · next overflows =>
    simp only [UInt64.size] at overflows
    simp only [reduceCtorEq, false_iff]
    omega

/-- A checked difference is the exact difference, and is given whenever that is not negative. -/
theorem sub?_eq_some_iff {a b c : UInt64} :
    sub? a b = some c ↔ a.toNat = b.toNat + c.toNat := by
  unfold sub?
  split
  · next le =>
    have leNat : b.toNat ≤ a.toNat := UInt64.le_iff_toNat_le.mp le
    rw [Option.some.injEq, ← UInt64.toNat_inj, UInt64.toNat_sub_of_le _ _ le]
    omega
  · next lt =>
    have ltNat : ¬ b.toNat ≤ a.toNat := fun le => lt (UInt64.le_iff_toNat_le.mpr le)
    simp only [reduceCtorEq, false_iff]
    omega

/-- A checked product is the exact product, and is given whenever that product is a word. -/
theorem mul?_eq_some_iff {a b c : UInt64} :
    mul? a b = some c ↔ a.toNat * b.toNat = c.toNat := by
  have bound := c.toNat_lt
  unfold mul?
  split
  · next fits =>
    rw [Option.some.injEq, ← UInt64.toNat_inj, UInt64.toNat_mul, Nat.mod_eq_of_lt fits]
  · next overflows =>
    simp only [UInt64.size] at overflows
    simp only [reduceCtorEq, false_iff]
    omega

end Word

/-- The hexadecimal text of a word: lower-case digits after `0x`, without leading zeros. -/
def hexText (word : UInt64) : String :=
  "0x" ++ String.ofList (Nat.toDigits 16 word.toNat)

end GranuleMonitor
