import GranuleMonitor.Benchmark.Workload
import GranuleMonitor.Proofs.Locking.AllOrNothing
import GranuleMonitor.Proofs.Region.Lookup

/-!
# Which granules a workload selects

Workloads select granules by random words. Whatever the words are, an address that should be that of
a granule is `Region.address` of one: `Region.randomAddress_eq`, `Region.mem_randomSet`. For the set
of granules this rests on `shuffle_perm`: shuffling neither adds nor loses a member, so that all
granules are different (`Region.leads_randomSet`). An address that should be invalid is that of no
granule: `Region.index?_randomInvalidAddress`.
-/

namespace GranuleMonitor

/-- A random word is smaller than a word of twice the size can be. -/
theorem toNat_lt_wordSize (word : UInt32) : word.toNat < UInt64.size := by
  have bound := word.toNat_lt
  simp only [UInt64.size]
  omega

/-- A random word modulo the size of a granule, in exact arithmetic. -/
theorem toNat_offset (word : UInt32) :
    (word.toUInt64 % granuleBytes).toNat = word.toNat % granuleSize := by
  rw [UInt64.toNat_mod, UInt32.toNat_toUInt64, toNat_granuleBytes]

theorem toNat_offset_lt (word : UInt32) : (word.toUInt64 % granuleBytes).toNat < granuleSize := by
  rw [toNat_offset]
  exact Nat.mod_lt _ (by decide)

section Shuffle

variable {σ α : Type} {n : Nat}

/-- Shuffling up to a place only changes the order. -/
theorem shuffleUpTo_perm (source : Source σ UInt32) {place : Nat} (within : place < n)
    (members : Vector α n) (state : σ) :
    (shuffleUpTo source place within members state).1.Perm members := by
  induction place generalizing members state with
  | zero => exact .refl _
  | succ place inductionHypothesis =>
    rw [shuffleUpTo]
    exact (inductionHypothesis _ _ _).trans (Vector.swap_perm _ _)

/-- Shuffling only changes the order. -/
theorem shuffle_perm (source : Source σ UInt32) (members : Vector α n) (state : σ) :
    (shuffle source members state).1.Perm members := by
  unfold shuffle
  split
  · exact shuffleUpTo_perm source _ members state
  · exact .refl _

end Shuffle

namespace Region

variable {region : Region} {σ : Type}

/-- A random word selects the granule whose index is its remainder. -/
theorem randomAddress_eq (region : Region) (word : UInt32) :
    ∃ index : Fin region.size, (index : Nat) = word.toNat % region.size ∧
      UInt64.ofNat index = word.toUInt64 % region.count ∧
      region.randomAddress word = region.address index := by
  have within : word.toNat % region.size < region.size := Nat.mod_lt _ region.size_pos
  have same : UInt64.ofNat (word.toNat % region.size) = word.toUInt64 % region.count := by
    have small : word.toNat % region.size < UInt64.size :=
      Nat.lt_of_le_of_lt (Nat.mod_le _ _) (toNat_lt_wordSize word)
    rw [← UInt64.toNat_inj, UInt64.toNat_ofNat', Nat.mod_eq_of_lt small, UInt64.toNat_mod,
      UInt32.toNat_toUInt64]
    rfl
  refine ⟨⟨_, within⟩, rfl, same, ?_⟩
  rw [randomAddress, address, same]

/-- The last granule of a set that is spread evenly still lies in the region. -/
theorem spread_lt {size start place : Nat} (within : place < size)
    (starts : start < region.size / size) :
    start + place * (region.size / size) < region.size := by
  have total : size * (region.size / size) ≤ region.size := Nat.mul_div_le _ _
  have steps : (place + 1) * (region.size / size) ≤ size * (region.size / size) :=
    Nat.mul_le_mul_right _ within
  rw [Nat.add_mul, Nat.one_mul] at steps
  omega

section RandomSet

variable {size : Nat}

/-- The indices of a random set before they are shuffled. -/
def spread (region : Region) (size : Nat) (word : UInt32) : Vector Nat size :=
  .ofFn fun place => word.toNat % (region.size / size) + place * (region.size / size)

/-- The indices of a random set in the order in which they are drawn. -/
def drawn (region : Region) (size : Nat) (source : Source σ UInt32) (state : σ) :
    Vector Nat size :=
  (shuffle source (region.spread size (source state).1) (source state).2).1

variable (source : Source σ UInt32) (state : σ)

theorem drawn_perm :
    (region.drawn size source state).Perm (region.spread size (source state).1) :=
  shuffle_perm _ _ _

variable (positive : 0 < size) (enough : size ≤ region.size)
include positive enough

theorem lt_of_mem_spread {word : UInt32} {index : Nat}
    (member : index ∈ region.spread size word) : index < region.size := by
  obtain ⟨place, rfl⟩ := Vector.mem_ofFn.mp member
  exact spread_lt place.isLt (Nat.mod_lt _ (Nat.div_pos enough positive))

theorem drawn_lt (position : Fin size) :
    (region.drawn size source state).get position < region.size := by
  refine lt_of_mem_spread positive enough ((drawn_perm source state).mem_iff.mp ?_)
  rw [vectorGet_eq]
  exact Vector.getElem_mem position.isLt

/-- No index is drawn twice. -/
theorem nodup_drawn : (region.drawn size source state).toList.Nodup := by
  rw [(drawn_perm source state).toList.nodup_iff, spread, Vector.toList_ofFn, List.nodup_ofFn]
  intro place other equal
  exact Fin.ext (Nat.eq_of_mul_eq_mul_right (Nat.div_pos enough positive)
    (Nat.add_left_cancel equal))

/-- The granules of a random set. -/
def drawnGranule (position : Fin size) : Fin region.size :=
  ⟨(region.drawn size source state).get position, drawn_lt source state positive enough position⟩

theorem get_randomSet (position : Fin size) :
    (region.randomSet size source state).1.get position =
      ⟨region.address (drawnGranule source state positive enough position), .nonsecure⟩ := by
  have request : (region.randomSet size source state).1 = (region.drawn size source state).map
      fun index => ⟨region.base + UInt64.ofNat index * granuleBytes, .nonsecure⟩ := rfl
  rw [request, vectorGet_eq, Vector.getElem_map]
  rfl

theorem leads_drawnGranule :
    Leads (region.randomSet size source state).1
      (drawnGranule source state positive enough) where
  known position := by rw [get_randomSet source state positive enough, region.index?_address]
  different position other equal := by
    have apart := nodup_drawn source state positive enough
    rw [vectorToList_eq_map] at apart
    exact List.inj_on_of_nodup_map apart (List.mem_finRange _) (List.mem_finRange _)
      (congrArg Fin.val equal)

/-- The requests of a random set lead to different granules, which should be non-secure. -/
theorem leads_randomSet :
    (∀ position, ((region.randomSet size source state).1.get position).role = .nonsecure) ∧
      ∃ granule : Fin size → Fin region.size,
        Leads (region.randomSet size source state).1 granule :=
  ⟨fun position => by rw [get_randomSet source state positive enough], _,
    leads_drawnGranule source state positive enough⟩

variable {source} {state}

/-- All members of a random set are granules of the region. -/
theorem mem_randomSet {request : Request}
    (member : request ∈ (region.randomSet size source state).1.toList) :
    ∃ index : Fin region.size, request = ⟨region.address index, .nonsecure⟩ := by
  rw [vectorToList_eq_map, List.mem_map] at member
  obtain ⟨position, -, rfl⟩ := member
  exact ⟨_, get_randomSet source state positive enough position⟩

end RandomSet

/-- The first granule lies at the base of the region. -/
theorem address_first (region : Region) : region.address ⟨0, region.size_pos⟩ = region.base := by
  simp [address]

/-- An address that should be invalid leads to no granule. -/
theorem index?_randomInvalidAddress (region : Region) (word : UInt32) :
    region.index? (region.randomInvalidAddress word) = none := by
  unfold randomInvalidAddress
  dsimp only
  split
  next =>
    have fits := region.fits
    have behind : region.index? (region.base + UInt64.ofNat region.count.toNat * granuleBytes) =
        none := region.index?_behind (Nat.le_refl region.size) (by omega)
    rwa [UInt64.ofNat_toNat] at behind
  next misaligned =>
    have positive : 0 < (word.toUInt64 % granuleBytes).toNat := by
      rw [Nat.pos_iff_ne_zero, ← UInt64.toNat_zero, ne_eq, UInt64.toNat_inj]
      exact misaligned
    have between := region.index?_between ⟨0, region.size_pos⟩ positive (toNat_offset_lt word)
    rwa [region.address_first, UInt64.ofNat_toNat] at between

end Region

end GranuleMonitor
