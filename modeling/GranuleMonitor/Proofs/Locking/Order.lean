import GranuleMonitor.LockSet
import Mathlib.Data.List.FinRange
import Mathlib.Data.List.OfFn

/-!
# The order in which a set is locked

`lockingOrder` puts all positions of a set, each one once, in ascending order of their granules:
`lockingOrder_perm` and `lockingOrder_ascends`. In such an order equal granules are neighbours, so
looking at neighbours finds every granule that is named twice (`repeatsNext_lockingOrder_iff`), and
a set without such a granule is locked in strictly ascending order (`lockingOrder_strict`).
-/

namespace GranuleMonitor

variable {region : Region} {n : Nat} {claims : Vector (Claim region) n}

/-- A vector lists what it holds at its positions. -/
theorem vectorToList_eq_map {α : Type} (members : Vector α n) :
    members.toList = (List.finRange n).map members.get := by
  apply List.ext_getElem
  · simp
  · intro index _ _
    simp [vectorGet_eq]

/-- No two claims are on the same granule exactly if different positions have different granules. -/
theorem distinct_iff_injective :
    Distinct claims ↔ Function.Injective fun position => (claims.get position).index := by
  unfold Distinct
  rw [vectorToList_eq_map, List.map_map, List.nodup_map_iff_inj_on (List.nodup_finRange n)]
  constructor
  · intro injective position other same
    exact injective position (List.mem_finRange _) other (List.mem_finRange _) same
  · intro injective position _ other _ same
    exact injective same

/-- Putting a position in adds it to the order, and nothing else. -/
theorem insertByGranule_perm (position : Fin n) (order : List (Fin n)) :
    (insertByGranule claims position order).Perm (position :: order) := by
  induction order with
  | nil => exact .refl _
  | cons first rest inductionHypothesis =>
    unfold insertByGranule
    split
    · exact .refl _
    · exact (inductionHypothesis.cons first).trans (.swap position first rest)

/-- The order has every position once. -/
theorem lockingOrder_perm : (lockingOrder claims).Perm (List.finRange n) := by
  unfold lockingOrder
  induction List.finRange n with
  | nil => exact .refl _
  | cons first rest inductionHypothesis =>
    exact (insertByGranule_perm first _).trans (inductionHypothesis.cons first)

theorem mem_lockingOrder (position : Fin n) : position ∈ lockingOrder claims :=
  lockingOrder_perm.mem_iff.mpr (List.mem_finRange position)

/-- An order of positions in which granules do not descend. -/
def Ascends (claims : Vector (Claim region) n) (order : List (Fin n)) : Prop :=
  order.Pairwise fun position later =>
    (claims.get position).index ≤ (claims.get later).index

/-- An order of positions in which granules ascend, without a granule that comes twice. -/
def StrictlyAscends (claims : Vector (Claim region) n) (order : List (Fin n)) : Prop :=
  order.Pairwise fun position later =>
    (claims.get position).index < (claims.get later).index

/-- Putting a position into an ascending order keeps it ascending. -/
theorem insertByGranule_ascends (position : Fin n) {order : List (Fin n)}
    (ascends : Ascends claims order) : Ascends claims (insertByGranule claims position order) := by
  induction order with
  | nil => exact List.pairwise_singleton _ _
  | cons first rest inductionHypothesis =>
    obtain ⟨firstLeast, restAscends⟩ := List.pairwise_cons.mp ascends
    unfold insertByGranule
    split
    · next below =>
      refine List.pairwise_cons.mpr ⟨?_, ascends⟩
      intro later member
      rcases List.mem_cons.mp member with rfl | inRest
      · exact below
      · exact below.trans (firstLeast later inRest)
    · next above =>
      refine List.pairwise_cons.mpr ⟨?_, inductionHypothesis restAscends⟩
      intro later member
      rcases List.mem_cons.mp ((insertByGranule_perm position rest).mem_iff.mp member) with
        rfl | inRest
      · exact le_of_not_ge above
      · exact firstLeast later inRest

/-- The positions are ordered by granule. -/
theorem lockingOrder_ascends : Ascends claims (lockingOrder claims) := by
  unfold lockingOrder
  induction List.finRange n with
  | nil => exact List.Pairwise.nil
  | cons first rest inductionHypothesis => exact insertByGranule_ascends first inductionHypothesis

/-- In an ascending order, neighbours differ exactly if all granules differ. -/
theorem repeatsNext_eq_false_iff {order : List (Fin n)} (ascends : Ascends claims order) :
    repeatsNext claims order = false ↔ StrictlyAscends claims order := by
  induction order with
  | nil => simp [repeatsNext, StrictlyAscends]
  | cons first rest inductionHypothesis =>
    obtain ⟨firstLeast, restAscends⟩ := List.pairwise_cons.mp ascends
    cases rest with
    | nil => simp [repeatsNext, StrictlyAscends]
    | cons second rest =>
      simp only [repeatsNext, Bool.or_eq_false_iff, decide_eq_false_iff_not,
        inductionHypothesis restAscends]
      constructor
      · rintro ⟨differs, restStrict⟩
        have next : (claims.get first).index < (claims.get second).index :=
          lt_of_le_of_ne (firstLeast second List.mem_cons_self) differs
        refine List.pairwise_cons.mpr ⟨?_, restStrict⟩
        intro later member
        rcases List.mem_cons.mp member with rfl | inRest
        · exact next
        · exact next.trans ((List.pairwise_cons.mp restStrict).1 later inRest)
      · intro strict
        obtain ⟨firstLess, restStrict⟩ := List.pairwise_cons.mp strict
        exact ⟨(firstLess second List.mem_cons_self).ne, restStrict⟩

/-- An order ascends strictly if it ascends and names no granule twice. -/
theorem strictlyAscends_iff {order : List (Fin n)} :
    StrictlyAscends claims order ↔
      Ascends claims order ∧ (order.map fun position => (claims.get position).index).Nodup := by
  unfold List.Nodup
  rw [List.pairwise_map]
  constructor
  · intro strict
    exact ⟨strict.imp le_of_lt, strict.imp ne_of_lt⟩
  · rintro ⟨ascends, differs⟩
    exact ascends.imp₂ (fun _ _ => lt_of_le_of_ne) differs

/-- Looking at neighbours finds every granule that is named twice. -/
theorem repeatsNext_lockingOrder_iff :
    repeatsNext claims (lockingOrder claims) = false ↔ Distinct claims := by
  have samePositions :
      ((lockingOrder claims).map fun position => (claims.get position).index).Perm
        (claims.toList.map (·.index)) := by
    rw [vectorToList_eq_map, List.map_map]
    exact lockingOrder_perm.map _
  rw [repeatsNext_eq_false_iff lockingOrder_ascends, strictlyAscends_iff, samePositions.nodup_iff]
  exact and_iff_right lockingOrder_ascends

/-- The granules of different claims are locked in strictly ascending order. -/
theorem lockingOrder_strict (distinct : Distinct claims) :
    StrictlyAscends claims (lockingOrder claims) :=
  (repeatsNext_eq_false_iff lockingOrder_ascends).mp (repeatsNext_lockingOrder_iff.mpr distinct)

end GranuleMonitor
