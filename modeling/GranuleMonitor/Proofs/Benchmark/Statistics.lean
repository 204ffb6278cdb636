import GranuleMonitor.Address
import GranuleMonitor.Benchmark.Statistics
import Mathlib.Algebra.Group.Action.Defs
import Mathlib.Algebra.GroupWithZero.Nat
import Mathlib.Algebra.Order.BigOperators.Group.List
import Mathlib.Algebra.Order.Ring.Nat

/-!
# Exact statistics

A series of 32-bit measurements that is not longer than a 32-bit word can count has a sum of 64
bits. `Summary.checkedSum?` adds with every step checked, and comes to its end with the sum in exact
arithmetic: `Summary.sum_exact`. Least and greatest are those of the standard library, and the
mean lies between them, so that it fits in 32 bits. `Summary.Exact` puts this together.
-/

namespace GranuleMonitor

/-- The greater of two words obeys the same laws as the lesser one, which the library knows of. -/
instance lawfulMaxUInt32 : Std.LawfulOrderLeftLeaningMax UInt32 where
  max_eq_left a b below := by
    change (if a ≤ b then b else a) = a
    split
    next above => exact UInt32.le_antisymm below above
    next => rfl
  max_eq_right _ _ above := if_pos (UInt32.le_of_lt (UInt32.not_le.mp above))

namespace Summary

attribute [ext] Summary

variable {series : List UInt32}

/-- The exact sum of a series. -/
def total (series : List UInt32) : Nat := (series.map UInt32.toNat).sum

/-- The sum of a series, with every step checked. -/
def checkedSum? (series : List UInt32) : Option UInt64 :=
  series.foldlM (fun sum value => Word.add? sum value.toUInt64) 0

section Sum

/-- Adding the members of a series to a sum is exact as long as the outcome is a word. -/
theorem foldlM_add?_eq (start : UInt64)
    (fits : start.toNat + total series < UInt64.size) :
    series.foldlM (fun sum value => Word.add? sum value.toUInt64) start =
        some (series.foldl (fun sum value => sum + value.toUInt64) start) ∧
      (series.foldl (fun sum value => sum + value.toUInt64) start).toNat =
        start.toNat + total series := by
  induction series generalizing start with
  | nil => exact ⟨rfl, rfl⟩
  | cons value rest inductionHypothesis =>
    rw [total, List.map_cons, List.sum_cons, ← Nat.add_assoc] at fits ⊢
    have step : start.toNat + value.toUInt64.toNat < UInt64.size := by
      rw [UInt32.toNat_toUInt64]
      omega
    have next : (start + value.toUInt64).toNat = start.toNat + value.toNat := by
      rw [UInt64.toNat_add, Nat.mod_eq_of_lt step, UInt32.toNat_toUInt64]
    have checked : Word.add? start value.toUInt64 = some (start + value.toUInt64) := if_pos step
    rw [← next] at fits ⊢
    rw [List.foldlM_cons, checked, List.foldl_cons]
    exact inductionHypothesis _ fits

theorem total_le_mul {bound : UInt32} (below : ∀ value ∈ series, value ≤ bound) :
    total series ≤ series.length * bound.toNat := by
  have each : ∀ number ∈ series.map UInt32.toNat, number ≤ bound.toNat := by
    rw [List.forall_mem_map]
    exact fun value member => UInt32.le_iff_toNat_le.mp (below value member)
  have sum := List.sum_le_card_nsmul _ _ each
  rwa [List.length_map, smul_eq_mul] at sum

theorem mul_le_total {bound : UInt32} (above : ∀ value ∈ series, bound ≤ value) :
    series.length * bound.toNat ≤ total series := by
  have each : ∀ number ∈ series.map UInt32.toNat, bound.toNat ≤ number := by
    rw [List.forall_mem_map]
    exact fun value member => UInt32.le_iff_toNat_le.mp (above value member)
  have sum := List.card_nsmul_le_sum _ _ each
  rwa [List.length_map, smul_eq_mul] at sum

variable (short : series.length < UInt32.size)
include short

/-- A series of words, as many as a word can count, adds up to less than a word of twice the
size. -/
theorem total_lt : total series < UInt64.size := by
  have words : ∀ value ∈ series, value ≤ 4294967295 := fun value _ =>
    UInt32.le_iff_toNat_le.mpr (Nat.le_of_lt_succ value.toNat_lt)
  have sum : total series ≤ series.length * 4294967295 := total_le_mul words
  simp only [UInt32.size] at short
  simp only [UInt64.size]
  omega

theorem sum_exact : checkedSum? series = some (sum series) ∧ (sum series).toNat = total series := by
  have added := foldlM_add?_eq 0 (by rw [UInt64.toNat_zero, Nat.zero_add]; exact total_lt short)
  rwa [UInt64.toNat_zero, Nat.zero_add] at added

end Sum

section Nonempty

variable (nonempty : series ≠ [])
include nonempty

theorem mean_eq :
    (ofSeries series).mean = (sum series / UInt64.ofNat series.length).toUInt32 := by
  cases series with
  | nil => exact absurd rfl nonempty
  | cons first rest => rfl

theorem min?_eq : series.min? = some (ofSeries series).least := by
  cases series with
  | nil => exact absurd rfl nonempty
  | cons first rest => exact List.min?_cons'

theorem max?_eq : series.max? = some (ofSeries series).greatest := by
  cases series with
  | nil => exact absurd rfl nonempty
  | cons first rest => exact List.max?_cons'

theorem least_spec :
    (ofSeries series).least ∈ series ∧ ∀ value ∈ series, (ofSeries series).least ≤ value :=
  List.min?_eq_some_iff.mp (min?_eq nonempty)

theorem greatest_spec :
    (ofSeries series).greatest ∈ series ∧
      ∀ value ∈ series, value ≤ (ofSeries series).greatest :=
  List.max?_eq_some_iff.mp (max?_eq nonempty)

end Nonempty

section Order

variable {other : List UInt32} (same : other.Perm series)
include same

theorem sum_perm : sum other = sum series := by
  have commutes : RightCommutative fun (sum : UInt64) (value : UInt32) =>
      sum + value.toUInt64 := by
    refine ⟨fun sum value next => ?_⟩
    rw [UInt64.add_assoc, UInt64.add_assoc, UInt64.add_comm value.toUInt64]
  exact same.foldl_eq 0

/-- The order of the measurements does not matter. -/
theorem ofSeries_perm : ofSeries other = ofSeries series := by
  by_cases empty : series = []
  · subst empty
    rw [same.eq_nil]
  have nonempty : other ≠ [] := by
    rintro rfl
    exact empty same.nil_eq.symm
  refine Summary.ext ?mean ?least ?greatest
  case mean => rw [mean_eq nonempty, mean_eq empty, sum_perm same, same.length_eq]
  case least =>
    obtain ⟨member, lowest⟩ := least_spec nonempty
    have chosen : series.min? = some (ofSeries other).least :=
      List.min?_eq_some_iff.mpr
        ⟨same.mem_iff.mp member, fun value known => lowest value (same.mem_iff.mpr known)⟩
    rw [min?_eq empty, Option.some.injEq] at chosen
    exact chosen.symm
  case greatest =>
    obtain ⟨member, highest⟩ := greatest_spec nonempty
    have chosen : series.max? = some (ofSeries other).greatest :=
      List.max?_eq_some_iff.mpr
        ⟨same.mem_iff.mp member, fun value known => highest value (same.mem_iff.mpr known)⟩
    rw [max?_eq empty, Option.some.injEq] at chosen
    exact chosen.symm

end Order

section Mean

/-- The mean before it is narrowed. -/
theorem toNat_quotient (short : series.length < UInt32.size) :
    (sum series / UInt64.ofNat series.length).toNat = total series / series.length := by
  have fits : series.length < UInt64.size := by
    simp only [UInt32.size] at short
    simp only [UInt64.size]
    omega
  rw [UInt64.toNat_div, (sum_exact short).2, UInt64.toNat_ofNat_of_lt' fits]

variable (nonempty : series ≠ [])
include nonempty

theorem least_le_quotient :
    (ofSeries series).least.toNat ≤ total series / series.length := by
  rw [Nat.le_div_iff_mul_le (List.length_pos_iff.mpr nonempty), Nat.mul_comm]
  exact mul_le_total (least_spec nonempty).2

theorem quotient_le_greatest :
    total series / series.length ≤ (ofSeries series).greatest.toNat :=
  Nat.div_le_of_le_mul (total_le_mul (greatest_spec nonempty).2)

/-- The mean is not greater than the greatest measurement, so that nothing is lost when it is
narrowed. -/
theorem toNat_mean (short : series.length < UInt32.size) :
    (ofSeries series).mean.toNat = total series / series.length := by
  have fits : total series / series.length < UInt32.size :=
    Nat.lt_of_le_of_lt (quotient_le_greatest nonempty) (UInt32.toNat_lt _)
  rw [mean_eq nonempty, UInt64.toNat_toUInt32, toNat_quotient short]
  exact Nat.mod_eq_of_lt fits

end Mean

/-- What the summary of a series tells of it. -/
structure Exact (series : List UInt32) : Prop where
  /-- No step of the sum overflows, so that it is the exact one. -/
  sum : checkedSum? series = some (sum series) ∧ (sum series).toNat = total series
  /-- The mean is the exact one, rounded down, -/
  mean : (ofSeries series).mean.toNat = total series / series.length
  /-- and loses nothing when it is narrowed. -/
  narrowed : (ofSeries series).mean.toNat =
    (Summary.sum series / UInt64.ofNat series.length).toNat
  /-- The least measurement is one of the series and bounds all others from below, -/
  least : (ofSeries series).least ∈ series ∧
    ∀ value ∈ series, (ofSeries series).least ≤ value
  /-- the greatest one bounds them from above, -/
  greatest : (ofSeries series).greatest ∈ series ∧
    ∀ value ∈ series, value ≤ (ofSeries series).greatest
  /-- and the mean lies between the two. -/
  between : (ofSeries series).least ≤ (ofSeries series).mean ∧
    (ofSeries series).mean ≤ (ofSeries series).greatest
  /-- The order of the series does not matter. -/
  order : ∀ other : List UInt32, other.Perm series → ofSeries other = ofSeries series

/-- The summary of a series with members is exact if its length is a 32-bit word. -/
theorem exact_of_ne_nil (nonempty : series ≠ []) (short : series.length < UInt32.size) :
    Exact series := by
  have mean := toNat_mean nonempty short
  constructor
  case sum => exact sum_exact short
  case mean => exact mean
  case narrowed => rw [mean, toNat_quotient short]
  case least => exact least_spec nonempty
  case greatest => exact greatest_spec nonempty
  case between =>
    rw [UInt32.le_iff_toNat_le, UInt32.le_iff_toNat_le, mean]
    exact ⟨least_le_quotient nonempty, quotient_le_greatest nonempty⟩
  case order => exact fun other same => ofSeries_perm same

/-- The summary of a series is exact if its length is a 32-bit word, and without measurements
everything is zero. -/
theorem ofSeries_exact (series : List UInt32) (nonempty : series ≠ [])
    (short : series.length < UInt32.size) :
    Exact series ∧ ofSeries [] = ⟨0, 0, 0⟩ :=
  ⟨exact_of_ne_nil nonempty short, rfl⟩

/-- Four measurements at both ends of what a word can hold, in any order. -/
theorem extremes_exact :
    Exact [4, 8, 4294967295, 0] ∧
      ofSeries [4294967295, 0, 4, 8] = ⟨1073741826, 0, 4294967295⟩ := by
  obtain ⟨exact, -⟩ := ofSeries_exact [4, 8, 4294967295, 0] (by decide) (by decide)
  refine ⟨exact, ?_⟩
  rw [exact.order _ (by decide)]
  rfl

end Summary

end GranuleMonitor
