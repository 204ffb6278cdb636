import GranuleMonitor.Stress.Run

/-!
# What is drawn at random

A number that is drawn below a bound is below it, also if no word fell into the zone and the last one
was taken as it is. So the tasks that a generator gives are the allowed ones, and the bytes with
which granules are filled are not zero: `Stress.Task.draw_allowed` and
`Xoshiro256.positiveByte_ne_zero`.
-/

namespace GranuleMonitor

namespace Bounded

variable {σ : Type}

/-- However often a word is drawn again, the number is below the bound. -/
theorem toNat_draw64_lt (source : Source σ UInt64) {bound : UInt64} (zone : UInt64)
    (positive : 0 < bound.toNat) (attempts : Nat) (state : σ) :
    (draw64 source bound zone attempts state).1.toNat < bound.toNat := by
  induction attempts generalizing state with
  | zero => exact toNat_highHalf_lt _ positive
  | succ more inductionHypothesis =>
    rw [draw64]
    split
    split
    · exact toNat_highHalf_lt _ positive
    · exact inductionHypothesis _

/-- The upper half of a product of halves is below the factor. -/
theorem toNat_product32_lt (word : UInt32) {bound : UInt32} (positive : 0 < bound.toNat) :
    (((word.toUInt64 * bound.toUInt64) >>> 32).toUInt32).toNat < bound.toNat := by
  have wordBound := word.toNat_lt
  have bound64 := bound.toNat_lt
  have product : word.toNat * bound.toNat < bound.toNat * 4294967296 := by
    rw [Nat.mul_comm]
    exact Nat.mul_lt_mul_of_pos_left wordBound positive
  have fits : word.toNat * bound.toNat < 2 ^ 64 := by omega
  have quotient : word.toNat * bound.toNat / 4294967296 < bound.toNat :=
    Nat.div_lt_of_lt_mul (by rwa [Nat.mul_comm 4294967296])
  have exact : (((word.toUInt64 * bound.toUInt64) >>> 32).toUInt32).toNat =
      word.toNat * bound.toNat / 4294967296 := by
    rw [UInt64.toNat_toUInt32, UInt64.toNat_shiftRight, UInt64.toNat_mul, UInt32.toNat_toUInt64,
      UInt32.toNat_toUInt64, Nat.mod_eq_of_lt fits]
    change (word.toNat * bound.toNat) >>> 32 % 2 ^ 32 = _
    rw [Nat.shiftRight_eq_div_pow]
    omega
  rwa [exact]

/-- However often a word is drawn again, the number is below the bound. -/
theorem toNat_draw32_lt (source : Source σ UInt32) {bound : UInt32} (zone : UInt32)
    (positive : 0 < bound.toNat) (attempts : Nat) (state : σ) :
    (draw32 source bound zone attempts state).1.toNat < bound.toNat := by
  induction attempts generalizing state with
  | zero => exact toNat_product32_lt _ positive
  | succ more inductionHypothesis =>
    rw [draw32]
    split
    split
    · exact toNat_product32_lt _ positive
    · exact inductionHypothesis _

end Bounded

/-- A byte that is drawn for a fill is not zero. -/
theorem Xoshiro256.positiveByte_ne_zero (dice : Xoshiro256) : dice.positiveByte.1 ≠ 0 := by
  have below := Bounded.toNat_draw32_lt nextHalf (0xffffffff - (0xffffffff - 255 + 1) % 255)
    (show 0 < (255 : UInt32).toNat by decide) Bounded.attempts dice
  unfold positiveByte
  intro zero
  have sum := congrArg UInt8.toNat zero
  dsimp only at sum
  rw [UInt8.toNat_add, UInt32.toNat_toUInt8] at sum
  generalize (Bounded.draw32 nextHalf _ _ _ dice).1.toNat = number at below sum
  change number < 255 at below
  change (1 + number % 256) % 256 = 0 at sum
  omega

namespace Stress

namespace Task

/-- A number that is drawn for a task is below its bound. -/
theorem lt_of_drawBelow {dice next : Xoshiro256} {bound number : Nat} (positive : 0 < bound)
    (small : bound < UInt64.size) (drawn : drawBelow dice bound = (number, next)) :
    number < bound := by
  have exact : (UInt64.ofNat bound).toNat = bound := by
    rw [UInt64.toNat_ofNat', Nat.mod_eq_of_lt small]
  have below := Bounded.toNat_draw64_lt Xoshiro256.next
    ((UInt64.ofNat bound <<< (63 - (UInt64.ofNat bound).log2)) - 1) (exact.symm ▸ positive)
    Bounded.attempts dice
  rw [exact] at below
  obtain ⟨rfl, -⟩ := Prod.mk.inj drawn
  exact below

/-- Every task that is drawn is allowed. -/
theorem draw_allowed (dice : Xoshiro256) : (draw dice).1.Allowed := by
  have shared {dice next : Xoshiro256} {index : Nat}
      (drawn : drawBelow dice sharedGranules = (index, next)) : index < sharedGranules :=
    lt_of_drawBelow (by decide) (by decide) drawn
  -- One case for each kind of task, in the order in which `draw` tells them apart.
  unfold draw
  split
  split
  · split
    next drawn => exact shared drawn
  split
  · split
    next drawn => exact shared drawn
  split
  · split
    next firstDrawn =>
    split
    next secondDrawn =>
    split
    refine ⟨shared firstDrawn, shared secondDrawn, ?_⟩
    split
    · exact .inl rfl
    · exact .inr rfl
  split
  · split
    next drawn =>
    have below := lt_of_drawBelow (by decide) (by decide) drawn
    exact ⟨Nat.le_add_right _ _, by omega⟩
  split
  split
  · split
    next indexDrawn =>
    split
    next offsetDrawn =>
    have within := lt_of_drawBelow (by decide) (by decide) indexDrawn
    have short := lt_of_drawBelow (by decide) (by decide) offsetDrawn
    exact ⟨within, by omega, by omega⟩
  · split
    next drawn =>
    have below := lt_of_drawBelow (by decide) (by decide) drawn
    exact ⟨Nat.le_add_right _ _, by omega⟩

end Task

/-- A call is performed with the byte that is drawn for it as with one that is not zero. -/
theorem Call.perform_draw {region : Region} (call : Call region) (dice : Xoshiro256) :
    ∃ byte : UInt8, byte ≠ 0 ∧ call.perform (call.draw dice).1 = call.perform byte := by
  cases call with
  | refill addr => exact ⟨_, dice.positiveByte_ne_zero, rfl⟩
  | _ => exact ⟨1, by decide, rfl⟩

end Stress

end GranuleMonitor
