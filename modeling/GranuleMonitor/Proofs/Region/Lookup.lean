import GranuleMonitor.Acquisition
import GranuleMonitor.Layout
import GranuleMonitor.Observation
import GranuleMonitor.Proofs.Region.Check
import Mathlib.Data.List.FinRange

/-!
# Addresses and descriptors

A table looks up an address in four ways: by its index, by the descriptor it leads to, by the
pointer of a descriptor, and in the listing of all granules. They all agree, and between the
granule boundaries of a region and its descriptors they go one to one: `Region.Matched` says so, and
`Region.matched_of_check` has it of every range that is accepted.
-/

namespace GranuleMonitor

variable {region : Region}

/-- An address between two granules of a region is not that of a granule. -/
theorem Region.index?_between (index : Fin region.size) {offset : Nat} (positive : 0 < offset)
    (short : offset < granuleSize) :
    region.index? (region.address index + UInt64.ofNat offset) = none := by
  rw [Option.eq_none_iff_forall_ne_some]
  intro other found
  have same := congrArg UInt64.toNat (region.index?_eq_some_iff.mp found)
  have fits := region.fits
  have within := index.isLt
  simp only [UInt64.toNat_add, toNat_address, UInt64.toNat_ofNat', granuleSize_eq, UInt64.size,
    size] at same fits within short
  omega

/-- An address behind the granules of a region is not that of a granule, also when it goes round
the upper end. -/
theorem Region.index?_behind {index : Nat} (behind : region.size ≤ index)
    (near : granuleSize * index < UInt64.size) :
    region.index? (region.base + UInt64.ofNat index * granuleBytes) = none := by
  rw [Option.eq_none_iff_forall_ne_some]
  intro other found
  have same := congrArg UInt64.toNat (region.index?_eq_some_iff.mp found)
  have within := other.isLt
  simp only [granuleSize_eq, UInt64.size] at near
  have small : index % 2 ^ 64 = index := Nat.mod_eq_of_lt (by omega)
  have product : index * 4096 % 2 ^ 64 = index * 4096 := Nat.mod_eq_of_lt (by omega)
  have base := region.base.toNat_lt
  simp only [UInt64.toNat_add, UInt64.toNat_mul, toNat_address, UInt64.toNat_ofNat',
    toNat_granuleBytes, granuleSize_eq, small, product] at same
  omega

/-- Different granules have different addresses. -/
theorem Region.address_injective {index other : Fin region.size}
    (same : region.address index = region.address other) : index = other := by
  have found := region.index?_address index
  rw [same, region.index?_address] at found
  exact (Option.some.inj found).symm

/-- A granule's address leads to its descriptor. -/
theorem Region.target_address (index : Fin region.size) :
    (Place.granule (region.address index)).target region = .ok (.entry index) := by
  simp [Place.target, entryAt, region.index?_address]

namespace Region

/-- An address is looked up by its distance from the base, in exact arithmetic. -/
theorem index?_eq_some_iff_toNat {addr : Address} {index : Fin region.size} :
    region.index? addr = some index ↔ addr.toNat = region.base.toNat + granuleSize * index := by
  rw [region.index?_eq_some_iff, ← UInt64.toNat_inj, region.toNat_address]

/-- Every address that is not a granule's has no index. -/
theorem index?_eq_none_iff {addr : Address} :
    region.index? addr = none ↔
      ∀ index < region.size, addr.toNat ≠ region.base.toNat + granuleSize * index := by
  rw [Option.eq_none_iff_forall_ne_some]
  constructor
  · intro unknown index within exact
    exact unknown ⟨index, within⟩ (index?_eq_some_iff_toNat.mpr exact)
  · intro different index found
    exact different index index.isLt (index?_eq_some_iff_toNat.mp found)

/-- An address leads to a descriptor exactly if the descriptor leads to the address. -/
theorem entryAt?_eq_some_iff {addr : Address} {target : Target region} :
    region.entryAt? addr = some target ↔ target.address = .ok addr := by
  rw [entryAt?, Option.map_eq_some_iff]
  cases target with
  | entry index =>
    simp only [Target.address, Except.ok.injEq, region.index?_eq_some_iff, Target.entry.injEq,
      exists_eq_right]
    exact eq_comm
  | detached => simp [Target.address]

/-- A trusted address leads where it leads for untrusted callers, and otherwise it is a fault. -/
theorem entryAt_eq (addr : Address) :
    region.entryAt addr =
      match region.entryAt? addr with
      | some target => .ok target
      | none => .error (.notAGranule addr region.base region.limit) := by
  rw [entryAt, entryAt?]
  cases region.index? addr <;> rfl

/-- All granules of a region by ascending index: their addresses, and their descriptors. -/
def listing (region : Region) : List (Address × Target region) :=
  (List.finRange region.size).map fun index => (region.address index, .entry index)

/-- The listing holds an address with the descriptor that it leads to. -/
theorem mem_listing_iff {addr : Address} {target : Target region} :
    (addr, target) ∈ region.listing ↔ region.entryAt? addr = some target := by
  simp [listing, entryAt?, region.index?_eq_some_iff, eq_comm]

/-- The listing goes upwards, so that it holds nothing twice. -/
theorem listing_ascends :
    region.listing.Pairwise fun earlier later => earlier.1 < later.1 := by
  rw [listing, List.pairwise_map]
  exact (List.pairwise_lt_finRange _).imp region.address_lt_address_iff.mpr

/-- What an operator sees of a table is a part of the listing, in which every descriptor leads back
to its address. -/
theorem entries_eq_listing (skip take : Nat) :
    Monitor.entries region skip take =
      ((region.listing.drop skip).take take).map fun entry => (entry.1, entry.1) := by
  rw [Monitor.entries, listing, ← List.map_drop, ← List.map_take, List.map_map,
    ← List.filterMap_eq_map]
  rfl

/-- Addresses and descriptors of a region belong to each other one to one, and whatever leads from
one to the other agrees. -/
structure Matched (region : Region) (spec : RegionSpec) : Prop where
  /-- An index is that of exactly one address, which lies that many granules behind the base. -/
  index_iff : ∀ addr (index : Fin region.size),
    region.index? addr = some index ↔ addr.toNat = spec.base.toNat + granuleSize * index
  /-- Every other address has no index. -/
  none_iff : ∀ addr, region.index? addr = none ↔
    ∀ index < spec.count.toNat, addr.toNat ≠ spec.base.toNat + granuleSize * index
  /-- The descriptor at an address is the one with the index of the address. -/
  found_eq : ∀ addr, region.entryAt? addr = (region.index? addr).map .entry
  /-- Trusted callers are led to the same descriptor. -/
  trusted_iff : ∀ addr target,
    region.entryAt addr = .ok target ↔ region.entryAt? addr = some target
  /-- Trusted callers run into a fault exactly where untrusted ones find nothing. -/
  fault_iff : ∀ addr,
    region.entryAt addr = .error (.notAGranule addr region.base region.limit) ↔
      region.entryAt? addr = none
  /-- Different addresses do not lead to one descriptor. -/
  injective : ∀ addr other target,
    region.entryAt? addr = some target → region.entryAt? other = some target → addr = other
  /-- A descriptor leads to an address exactly if the address leads to the descriptor. -/
  address_iff : ∀ (target : Target region) addr,
    target.address = .ok addr ↔ region.entryAt? addr = some target
  /-- Every descriptor of the table leads to an address. -/
  address_entry : ∀ index : Fin region.size,
    ∃ addr, (Target.entry index : Target region).address = .ok addr
  /-- Every other descriptor is a fault. -/
  address_foreign : ∀ target : Target region, (∀ index, target ≠ .entry index) →
    target.address = .error .foreignDescriptor
  /-- The pointer to a descriptor leads to the address that leads to the descriptor. -/
  pointer_iff : ∀ (layout : Layout region) pointer addr,
    layout.addressAt pointer = .ok addr ↔
      ∃ index, pointer = layout.pointer index ∧ region.entryAt? addr = some (.entry index)
  /-- Every other pointer is an error. -/
  pointer_foreign : ∀ (layout : Layout region) pointer,
    (∀ index, pointer ≠ layout.pointer index) →
      ∃ cause, layout.addressAt pointer = .error cause
  /-- The listing has exactly the addresses of granules, with their descriptors. -/
  listing_iff : ∀ addr target,
    (addr, target) ∈ region.listing ↔ region.entryAt? addr = some target
  /-- The listing goes upwards, so that it has each granule once. -/
  listing_ascends : region.listing.Pairwise fun earlier later => earlier.1 < later.1
  /-- What is listed is a part of that, with the address that each descriptor leads back to. -/
  listed_eq : ∀ skip take, Monitor.entries region skip take =
    ((region.listing.drop skip).take take).map fun entry => (entry.1, entry.1)

/-- In every region that is accepted, addresses and descriptors belong to each other one to one. -/
theorem matched_of_check {spec : RegionSpec} (accepted : spec.check = .ok region) :
    region.Matched spec := by
  obtain rfl := RegionSpec.spec_of_check accepted
  have pointer_iff (layout : Layout region) (pointer : UInt64) (addr : Address) :
      layout.addressAt pointer = .ok addr ↔ ∃ index,
        pointer = layout.pointer index ∧ region.entryAt? addr = some (.entry index) := by
    rw [layout.addressAt_eq_ok_iff]
    simp only [entryAt?_eq_some_iff, Target.address, Except.ok.injEq, eq_comm]
  exact {
    index_iff := fun _ _ => index?_eq_some_iff_toNat
    none_iff := fun _ => index?_eq_none_iff
    found_eq := fun _ => rfl
    trusted_iff := fun addr target => by
      rw [entryAt_eq]
      cases region.entryAt? addr <;> simp
    fault_iff := fun addr => by
      rw [entryAt_eq]
      cases region.entryAt? addr <;> simp
    injective := fun addr other target found foundOther => by
      rw [entryAt?_eq_some_iff] at found foundOther
      exact Except.ok.inj (found.symm.trans foundOther)
    address_iff := fun _ _ => entryAt?_eq_some_iff.symm
    address_entry := fun index => ⟨region.address index, rfl⟩
    address_foreign := fun target foreign => by
      cases target with
      | entry index => exact absurd rfl (foreign index)
      | detached => rfl
    pointer_iff := pointer_iff
    pointer_foreign := fun layout pointer foreign => by
      cases ended : layout.addressAt pointer with
      | ok addr =>
        obtain ⟨index, same, -⟩ := (pointer_iff layout pointer addr).mp ended
        exact absurd same (foreign index)
      | error cause => exact ⟨cause, rfl⟩
    listing_iff := fun _ _ => mem_listing_iff
    listing_ascends := listing_ascends
    listed_eq := entries_eq_listing }

/-- Descriptors of them that lie right behind each other. -/
def highestLayout : Layout highest := ⟨0x10000, by decide⟩

/-- At the upper end of the address space the second granule is still found, by its address and by
the pointer to its descriptor, and the end of the region is not. -/
theorem highest_matched :
    highest.spec.check = .ok highest ∧
      highest.entryAt? 0xffffffffffffe000 = some (.entry ⟨1, by decide⟩) ∧
      highestLayout.addressAt 0x10010 = .ok 0xffffffffffffe000 ∧
      highest.index? 0xfffffffffffff000 = none := by
  have accepted : highest.spec.check = .ok highest := RegionSpec.check_eq_ok_iff.mpr rfl
  have matched := matched_of_check accepted
  have found : highest.entryAt? 0xffffffffffffe000 = some (.entry ⟨1, by decide⟩) :=
    (matched.address_iff _ _).mp rfl
  refine ⟨accepted, found, ?_, ?_⟩
  · exact (matched.pointer_iff highestLayout _ _).mpr ⟨⟨1, by decide⟩, rfl, found⟩
  · refine (matched.none_iff _).mpr fun index within exact => ?_
    have two : highest.spec.count.toNat = 2 := rfl
    have base : highest.spec.base.toNat = 0xffffffffffffd000 := rfl
    have addr : (0xfffffffffffff000 : Address).toNat = 0xfffffffffffff000 := rfl
    rw [addr, base, granuleSize_eq] at exact
    omega

end Region

end GranuleMonitor
