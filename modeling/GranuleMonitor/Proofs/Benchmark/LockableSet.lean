import GranuleMonitor.Proofs.Frame
import GranuleMonitor.Proofs.Region.Bounds

/-!
# Random sets can be locked

The indices of a random set are spread evenly over the region from a random start on, and shuffled.
`Region.checkedRandomSet?` draws such a set in words, with every step checked: no divisor may be
zero, no word may wrap, and no member that changes places may be out of range.
`Region.Draws` says that it always comes to its end, that its indices are those that are spread in
another order, and that the set is therefore locked as a whole wherever its granules are free and
non-secure.
-/

namespace GranuleMonitor

namespace Word

/-- The quotient of two words, unless the divisor is zero. -/
def div? (a b : UInt64) : Option UInt64 := if b = 0 then none else some (a / b)

/-- The remainder of two words, unless the divisor is zero. -/
def mod? (a b : UInt64) : Option UInt64 := if b = 0 then none else some (a % b)

theorem ofNat_ne_zero {a : Nat} (positive : 0 < a) (fits : a < UInt64.size) :
    UInt64.ofNat a ≠ 0 := by
  rw [ne_eq, ← UInt64.toNat_inj, UInt64.toNat_ofNat_of_lt' fits]
  exact positive.ne'

section Exact

variable {a b : Nat}

theorem add?_ofNat (fits : a + b < UInt64.size) :
    add? (UInt64.ofNat a) (UInt64.ofNat b) = some (UInt64.ofNat (a + b)) := by
  rw [add?, UInt64.toNat_ofNat_of_lt' (by omega), UInt64.toNat_ofNat_of_lt' (by omega),
    if_pos fits, UInt64.ofNat_add]

variable (left : a < UInt64.size) (right : b < UInt64.size)
include left right

theorem mul?_ofNat (fits : a * b < UInt64.size) :
    mul? (UInt64.ofNat a) (UInt64.ofNat b) = some (UInt64.ofNat (a * b)) := by
  rw [mul?, UInt64.toNat_ofNat_of_lt' left, UInt64.toNat_ofNat_of_lt' right, if_pos fits,
    UInt64.ofNat_mul]

theorem div?_ofNat (positive : 0 < b) :
    div? (UInt64.ofNat a) (UInt64.ofNat b) = some (UInt64.ofNat (a / b)) := by
  rw [div?, if_neg (ofNat_ne_zero positive right), UInt64.ofNat_div left right]

theorem mod?_ofNat (positive : 0 < b) :
    mod? (UInt64.ofNat a) (UInt64.ofNat b) = some (UInt64.ofNat (a % b)) := by
  rw [mod?, if_neg (ofNat_ne_zero positive right), UInt64.ofNat_mod left right]

end Exact

end Word

section Checked

variable {σ α : Type}

/-- A computation for each member of a list, none of which fails. -/
theorem mapM_of_computed {β : Type} {compute : α → Option β} {value : α → β} {members : List α}
    (computed : ∀ member ∈ members, compute member = some (value member)) :
    members.mapM compute = some (members.map value) := by
  induction members with
  | nil => rfl
  | cons first rest inductionHypothesis =>
    rw [List.forall_mem_cons] at computed
    rw [List.mapM_cons, computed.1, inductionHypothesis computed.2]
    rfl

/-- Shuffles the members up to a place, with every step checked. -/
def checkedShuffleUpTo? (source : Source σ UInt32) :
    (place : Nat) → Array α → σ → Option (Array α × σ)
  | 0, members, state => some (members, state)
  | place + 1, members, state => do
    let bound ← Word.add? (UInt64.ofNat (place + 1)) 1
    let other ← Word.mod? (source state).1.toUInt64 bound
    if place + 1 < members.size ∧ other.toNat < members.size then
      checkedShuffleUpTo? source place (members.swapIfInBounds (place + 1) other.toNat)
        (source state).2
    else none

/-- Shuffling divides by the number of places up to the present one, which is not zero, so that the
member to change places with is one of them. -/
theorem checkedShuffleUpTo?_eq {n : Nat} (source : Source σ UInt32) {place : Nat}
    (within : place < n) (fits : n < UInt64.size) (members : Vector α n) (state : σ) :
    checkedShuffleUpTo? source place members.toArray state =
      some ((shuffleUpTo source place within members state).1.toArray,
        (shuffleUpTo source place within members state).2) := by
  induction place generalizing members state with
  | zero => rfl
  | succ place inductionHypothesis =>
    have other : (source state).1.toNat % (place + 2) < place + 2 :=
      Nat.mod_lt _ (Nat.succ_pos _)
    have bound : Word.add? (UInt64.ofNat (place + 1)) 1 = some (UInt64.ofNat (place + 2)) :=
      Word.add?_ofNat (b := 1) (by omega)
    have remainder : Word.mod? (source state).1.toUInt64 (UInt64.ofNat (place + 2)) =
        some (UInt64.ofNat ((source state).1.toNat % (place + 2))) := by
      rw [← UInt64.ofNat_uInt32ToNat]
      exact Word.mod?_ofNat (toNat_lt_wordSize _) (by omega) (Nat.succ_pos _)
    have swapped : members.toArray.swapIfInBounds (place + 1)
        ((source state).1.toNat % (place + 2)) =
        (members.swap (place + 1) ((source state).1.toNat % (place + 2)) within
          (by omega)).toArray := by
      rw [Array.swapIfInBounds_def, dif_pos (by rw [members.size_toArray]; omega),
        dif_pos (by rw [members.size_toArray]; omega)]
      rfl
    simp only [checkedShuffleUpTo?, bound, remainder, Option.bind_eq_bind, Option.bind_some,
      members.size_toArray]
    rw [UInt64.toNat_ofNat_of_lt' (by omega), if_pos ⟨within, by omega⟩, swapped,
      inductionHypothesis]
    rfl

end Checked

namespace Region

variable {σ : Type}

/-- The indices of a random set before they are shuffled, with every step checked. -/
def checkedSpread? (size : Nat) (start stride : UInt64) : Option (List Nat) :=
  (List.range size).mapM fun place =>
    ((Word.mul? (UInt64.ofNat place) stride).bind (Word.add? start)).map UInt64.toNat

/-- The requests for the granules with the given indices, with every step checked. -/
def checkedRequests? (region : Region) (indices : List Nat) : Option (List Request) :=
  indices.mapM fun index =>
    (granuleBehind? region.base (UInt64.ofNat index)).map (Request.mk · .nonsecure)

/-- Drawing a random set, with every step checked. -/
def checkedRandomSet? (region : Region) (size : Nat) (source : Source σ UInt32) (state : σ) :
    Option (List Request × σ) := do
  let stride ← Word.div? region.count (UInt64.ofNat size)
  let start ← Word.mod? (source state).1.toUInt64 stride
  let spread ← checkedSpread? size start stride
  let shuffled ← checkedShuffleUpTo? source (size - 1) spread.toArray (source state).2
  let requests ← region.checkedRequests? shuffled.1.toList
  return (requests, shuffled.2)

variable {region : Region} {size : Nat} (source : Source σ UInt32) (state : σ)

/-- The indices before they are shuffled, as a list. -/
theorem toList_spread (region : Region) (size : Nat) (word : UInt32) :
    (region.spread size word).toList = (List.range size).map fun place =>
      word.toNat % (region.size / size) + place * (region.size / size) := by
  rw [spread, Vector.toList_ofFn, List.ofFn_eq_map, ← List.map_coe_finRange_eq_range,
    List.map_map]
  rfl

/-- The indices that are drawn are those that are spread, in another order. -/
theorem ofFn_drawn_perm :
    (List.ofFn fun position => (region.drawn size source state).get position).Perm
      ((List.range size).map fun place =>
        (source state).1.toNat % (region.size / size) + place * (region.size / size)) := by
  have same : (region.drawn size source state).toList.Perm _ := (drawn_perm source state).toList
  rwa [toList_spread, vectorToList_eq_map, ← List.ofFn_eq_map] at same

variable (positive : 0 < size) (enough : size ≤ region.size)
include positive enough

theorem checkedSpread?_eq (word : UInt32) :
    checkedSpread? size (UInt64.ofNat (word.toNat % (region.size / size)))
      (UInt64.ofNat (region.size / size)) = some (region.spread size word).toList := by
  have bound : region.size < UInt64.size := region.count.toNat_lt
  have starts := Nat.mod_lt word.toNat (Nat.div_pos enough positive)
  rw [toList_spread]
  refine mapM_of_computed fun place within => ?_
  rw [List.mem_range] at within
  have last := spread_lt within starts
  have stride : region.size / size ≤ region.size := Nat.div_le_self _ _
  rw [Word.mul?_ofNat (by omega) (by omega) (by omega), Option.bind_some,
    Word.add?_ofNat (by omega), Option.map_some, UInt64.toNat_ofNat_of_lt' (by omega)]

theorem checkedRequests?_eq :
    region.checkedRequests? (region.drawn size source state).toList =
      some (region.randomSet size source state).1.toList := by
  refine (mapM_of_computed fun index member => ?_).trans
    (congrArg some (Vector.toList_map ..).symm)
  have chosen : index ∈ region.spread size (source state).1 :=
    (drawn_perm source state).mem_iff.mp (Vector.mem_toList_iff.mp member)
  have within := lt_of_mem_spread positive enough chosen
  exact congrArg (Option.map (Request.mk · .nonsecure))
    (region.granuleBehind?_index ⟨index, within⟩)

/-- Drawing a random set never divides by zero, wraps or leaves the range of its indices. -/
theorem checkedRandomSet?_eq :
    region.checkedRandomSet? size source state =
      some ((region.randomSet size source state).1.toList,
        (region.randomSet size source state).2) := by
  have bound : region.size < UInt64.size := region.count.toNat_lt
  have strides : 0 < region.size / size := Nat.div_pos enough positive
  have short : region.size / size ≤ region.size := Nat.div_le_self _ _
  have stride : Word.div? region.count (UInt64.ofNat size) =
      some (UInt64.ofNat (region.size / size)) := by
    rw [← UInt64.ofNat_toNat (x := region.count)]
    exact Word.div?_ofNat bound (by omega) positive
  have start : Word.mod? (source state).1.toUInt64 (UInt64.ofNat (region.size / size)) =
      some (UInt64.ofNat ((source state).1.toNat % (region.size / size))) := by
    rw [← UInt64.ofNat_uInt32ToNat]
    exact Word.mod?_ofNat (toNat_lt_wordSize _) (by omega) strides
  have shuffled := checkedShuffleUpTo?_eq source (Nat.sub_lt positive Nat.one_pos) (by omega)
    (region.spread size (source state).1) (source state).2
  have whole : shuffle source (region.spread size (source state).1) (source state).2 =
      shuffleUpTo source (size - 1) (Nat.sub_lt positive Nat.one_pos) _ _ := dif_pos positive
  have requests := checkedRequests?_eq source state positive enough
  rw [drawn, whole] at requests
  simp only [checkedRandomSet?, stride, start, checkedSpread?_eq positive enough,
    Option.bind_eq_bind, Option.bind_some]
  rw [Vector.toArray_toList, shuffled, Option.bind_some]
  dsimp only
  rw [Vector.toList_toArray, requests, Option.bind_some, ← whole]
  rfl

end Region

/-- What is drawn for a set of granules. -/
structure Region.Draws {σ : Type} (region : Region) (size : Nat) (source : Source σ UInt32)
    (state : σ) (granule : Fin size → Fin region.size) : Prop where
  /-- No step divides by zero, wraps or leaves the range of its indices. -/
  checked : region.checkedRandomSet? size source state =
    some ((region.randomSet size source state).1.toList,
      (region.randomSet size source state).2)
  /-- There is at least one stride for each member, -/
  stride : 1 ≤ region.size / size
  /-- the start lies in the first one, -/
  start : (source state).1.toNat % (region.size / size) < region.size / size
  /-- and the indices of the granules go on in strides from there, in any order. -/
  spread : (List.ofFn fun position => (granule position : Nat)).Perm
    ((List.range size).map fun place =>
      (source state).1.toNat % (region.size / size) + place * (region.size / size))
  /-- The addresses are those of the granules, -/
  leads : Leads (region.randomSet size source state).1 granule
  /-- no two of them are the same, -/
  apart : ∀ position other, position ≠ other →
    ((region.randomSet size source state).1.get position).addr ≠
      ((region.randomSet size source state).1.get other).addr
  /-- and all granules should be non-secure. -/
  nonsecure : ∀ position,
    ((region.randomSet size source state).1.get position).role = .nonsecure
  /-- If they are, and nobody has locked them, the set gives all of its guards. -/
  lockable : ∀ monitor : Monitor region,
    (∀ position, (requested monitor granule position).locked = false ∧
      (requested monitor granule position).role = .nonsecure) →
    ∃ (guards : Vector (Guard region) size) (last : Monitor region),
      lockSet (region.randomSet size source state).1 monitor = .ok (some guards) last ∧
      ∀ position, (guards.get position).target.address =
        .ok ((region.randomSet size source state).1.get position).addr

/-- Any number of granules that a region has can be drawn and locked, whatever the random words
are. -/
theorem Region.randomSet_lockable {σ : Type} (region : Region) {size : Nat} (positive : 1 ≤ size)
    (enough : size ≤ region.size) (source : Source σ UInt32) (state : σ) :
    ∃ granule, region.Draws size source state granule := by
  have leads := leads_drawnGranule source state positive enough
  have roles := (leads_randomSet source state positive enough).1
  have strides : 0 < region.size / size := Nat.div_pos enough positive
  refine ⟨drawnGranule source state positive enough, ?_⟩
  constructor
  case checked => exact checkedRandomSet?_eq source state positive enough
  case stride => exact strides
  case start => exact Nat.mod_lt _ strides
  case spread => exact ofFn_drawn_perm source state
  case leads => exact leads
  case apart =>
    intro position other differs same
    rw [leads.addr_eq, leads.addr_eq] at same
    exact differs (leads.different (region.address_injective same))
  case nonsecure => exact roles
  case lockable =>
    intro monitor ready
    obtain ⟨guards, last, locked, addresses, -⟩ :=
      lockSet_of_match leads (fun position => (ready position).1) fun position => by
        rw [Mismatches, roles, Classical.not_not]
        exact (ready position).2
    exact ⟨guards, last, locked, addresses⟩

/-- Two of three granules can be drawn, and on a new table they are locked. -/
theorem Region.pair_lockable :
    (threeGranules.checkedRandomSet? 2 Xoshiro128.next benchDice).isSome = true ∧
      ∃ guards last, lockSet (threeGranules.randomSet 2 Xoshiro128.next benchDice).1
        (Monitor.create threeGranules .absent) = .ok (some guards) last := by
  obtain ⟨granule, draws⟩ :=
    threeGranules.randomSet_lockable (by decide : 1 ≤ 2) (by decide) Xoshiro128.next benchDice
  refine ⟨by rw [draws.checked]; rfl, ?_⟩
  obtain ⟨guards, last, locked, -⟩ :=
    draws.lockable (Monitor.create threeGranules .absent) fun position => by
      rw [requested, Monitor.get_create]
      exact ⟨rfl, rfl⟩
  exact ⟨guards, last, locked⟩

end GranuleMonitor
