import GranuleMonitor.Proofs.Locking.Collection

/-!
# A set is locked as a whole or not at all

Before the first lock is taken, `resolveAll` looks up all addresses (`resolveAll_eq_ok_iff`), and
`lockSet` turns a request down if an address is unknown or a granule is named twice. What is left is
`lockClaims`, whose outcome depends on the first obstacle in ascending order. The main result is
`lockSet_all_or_nothing`.
-/

namespace GranuleMonitor

variable {region : Region} {n : Nat} {requests : Vector Request n}

/-- All addresses are looked up exactly if each of them is that of a granule. -/
theorem resolveAll_eq_ok_iff {claims : Vector (Claim region) n} :
    resolveAll region requests = .ok claims ↔
      ∀ position : Fin n,
        region.index? (requests.get position).addr = some (claims.get position).index ∧
          (claims.get position).role = (requests.get position).role := by
  unfold resolveAll
  split
  · next request unknown =>
    simp only [reduceCtorEq, false_iff]
    intro known
    have isUnknown := List.find?_some unknown
    obtain ⟨position, -, rfl⟩ := List.mem_map.mp
      (vectorToList_eq_map requests ▸ List.mem_of_find?_eq_some unknown)
    simp [(known position).1] at isUnknown
  · next allKnown =>
    simp only [Except.ok.injEq]
    constructor
    · rintro rfl position
      simp [vectorGet_eq]
    · intro known
      apply Vector.ext
      intro index within
      obtain ⟨sameIndex, sameRole⟩ := known ⟨index, within⟩
      simp only [Vector.getElem_ofFn, sameIndex, Option.get_some, ← sameRole]
      rfl

/-- Different claims have different addresses. -/
theorem addr_ne_of_distinct {claims : Vector (Claim region) n}
    (resolved : resolveAll region requests = .ok claims) (distinct : Distinct claims)
    {position other : Fin n} (differs : position ≠ other) :
    (requests.get position).addr ≠ (requests.get other).addr := by
  intro same
  have known := (resolveAll_eq_ok_iff.mp resolved position).1
  rw [same, (resolveAll_eq_ok_iff.mp resolved other).1, Option.some.injEq] at known
  exact differs (distinct_iff_injective.mp distinct known.symm)

/-- A set names an address that is not that of a granule, or one address twice. -/
def Improper (region : Region) (requests : Vector Request n) : Prop :=
  (∃ position, region.index? (requests.get position).addr = none) ∨
    ∃ position other, position ≠ other ∧
      (requests.get position).addr = (requests.get other).addr

/-- An improper set is turned down with a record and no other effect. -/
theorem lockSet_of_improper {monitor : Monitor region} (improper : Improper region requests) :
    ∃ notice, lockSet requests monitor =
      .ok none { monitor with log := monitor.log.push notice } := by
  cases resolved : resolveAll region requests with
  | error addr => exact ⟨.unknownInSet addr, by simp [lockSet, resolved]⟩
  | ok claims =>
    have repeated : repeatsNext claims (lockingOrder claims) = true := by
      rw [← Bool.not_eq_false, repeatsNext_lockingOrder_iff]
      intro distinct
      rcases improper with ⟨position, unknown⟩ | ⟨position, other, differs, same⟩
      · have known := (resolveAll_eq_ok_iff.mp resolved position).1
        rw [unknown] at known
        contradiction
      · exact addr_ne_of_distinct resolved distinct differs same
    exact ⟨.duplicateInSet, by simp [lockSet, resolved, repeated]⟩

/-- A set of different granules goes on to lock them. -/
theorem lockSet_of_distinct {claims : Vector (Claim region) n} {monitor : Monitor region}
    (resolved : resolveAll region requests = .ok claims) (distinct : Distinct claims) :
    lockSet requests monitor = lockClaims claims monitor := by
  have apart := repeatsNext_lockingOrder_iff.mpr distinct
  simp [lockSet, resolved, apart]

/-- The requests lead to granules, and to different ones. -/
structure Leads (requests : Vector Request n) (granule : Fin n → Fin region.size) : Prop where
  known : ∀ position, region.index? (requests.get position).addr = some (granule position)
  different : Function.Injective granule

/-- The claims of requests that lead to granules. -/
def claimsOn (requests : Vector Request n) (granule : Fin n → Fin region.size) :
    Vector (Claim region) n :=
  .ofFn fun position => ⟨granule position, (requests.get position).role⟩

namespace Leads

variable {granule : Fin n → Fin region.size} (leads : Leads requests granule)

@[simp]
theorem get_claimsOn (requests : Vector Request n) (granule : Fin n → Fin region.size)
    (position : Fin n) :
    (claimsOn requests granule).get position =
      ⟨granule position, (requests.get position).role⟩ := by
  simp [claimsOn, vectorGet_eq]

include leads

theorem resolveAll_eq : resolveAll region requests = .ok (claimsOn requests granule) :=
  resolveAll_eq_ok_iff.mpr fun position => ⟨by simp [leads.known], by simp⟩

theorem distinct : Distinct (claimsOn requests granule) :=
  distinct_iff_injective.mpr fun _ _ same => leads.different (by simpa using same)

theorem addr_eq (position : Fin n) :
    (requests.get position).addr = region.address (granule position) :=
  region.index?_eq_some_iff.mp (leads.known position)

theorem lockSet_eq (monitor : Monitor region) :
    lockSet requests monitor = lockClaims (claimsOn requests granule) monitor :=
  lockSet_of_distinct leads.resolveAll_eq leads.distinct

end Leads

section Outcome

variable (monitor : Monitor region) (requests : Vector Request n)
  (granule : Fin n → Fin region.size)

/-- The descriptor that a request leads to. -/
def requested (position : Fin n) : Descriptor := monitor.store.get (.entry (granule position))

/-- The granule of a request has another role than the request asks for. -/
def Mismatches (position : Fin n) : Prop :=
  (requested monitor granule position).role ≠ (requests.get position).role

instance (position : Fin n) : Decidable (Mismatches monitor requests granule position) :=
  inferInstanceAs (Decidable (_ ≠ _))

/-- The granule of a request is delegated and has references, and its address is lower than those
of all granules that have another role than requested. It is locked before the set is given up, and
then its lock cannot be given back in order. -/
def Obstructs (position : Fin n) : Prop :=
  (∀ other, Mismatches monitor requests granule other →
      (requests.get position).addr < (requests.get other).addr) ∧
    (requested monitor granule position).role = .delegated ∧
    (requested monitor granule position).references ≠ 0

end Outcome

section Mismatch

variable {monitor : Monitor region} {granule : Fin n → Fin region.size}

theorem get_target_claimsOn (position : Fin n) :
    monitor.store.get ((claimsOn requests granule).get position).target =
      requested monitor granule position := by
  rw [Leads.get_claimsOn]
  rfl

theorem obtainable_claimsOn_iff {position : Fin n}
    (free : (requested monitor granule position).locked = false) :
    Obtainable monitor.store ((claimsOn requests granule).get position) ↔
      ¬ Mismatches monitor requests granule position := by
  rw [obtainable_iff, get_target_claimsOn, Leads.get_claimsOn]
  unfold Mismatches
  rw [Classical.not_not]
  exact and_iff_right free

/-- The locks that are taken before the first mismatch are those below all mismatches. -/
theorem mem_run_iff (leads : Leads requests granule)
    {run rest : List (Fin n)} {first : Fin n}
    (split : lockingOrder (claimsOn requests granule) = run ++ first :: rest)
    (matching : ∀ position ∈ run, ¬ Mismatches monitor requests granule position)
    (mismatch : Mismatches monitor requests granule first) (position : Fin n) :
    position ∈ run ↔ ∀ other, Mismatches monitor requests granule other →
      (requests.get position).addr < (requests.get other).addr := by
  have strict := split ▸ lockingOrder_strict leads.distinct
  have below {earlier later : Fin n} :
      ((claimsOn requests granule).get earlier).index <
          ((claimsOn requests granule).get later).index ↔
        (requests.get earlier).addr < (requests.get later).addr := by
    rw [leads.addr_eq, leads.addr_eq, Region.address_lt_address_iff]
    simp
  constructor
  · intro inRun other otherMismatches
    have inOrder : other ∈ run ++ first :: rest := split ▸ mem_lockingOrder other
    rcases List.mem_append.mp inOrder with otherInRun | behind
    · exact absurd otherMismatches (matching other otherInRun)
    · exact below.mp ((List.pairwise_append.mp strict).2.2 position inRun other behind)
  · intro lowest
    have inOrder : position ∈ run ++ first :: rest := split ▸ mem_lockingOrder position
    rcases List.mem_append.mp inOrder with inRun | behind
    · exact inRun
    · have belowFirst := below.mpr (lowest first mismatch)
      rcases List.mem_cons.mp behind with rfl | inRest
      · exact absurd belowFirst (lt_irrefl _)
      · have firstLess :=
          (List.pairwise_cons.mp (List.pairwise_append.mp strict).2.1).1 position inRest
        exact absurd belowFirst firstLess.not_gt

/-- A set of unlocked granules is given up at the first mismatch, with the store as before. The
attempt ends in order, unless a lock could not be given back. -/
theorem lockSet_of_mismatch (leads : Leads requests granule)
    (free : ∀ position, (requested monitor granule position).locked = false)
    (mismatch : ∃ position, Mismatches monitor requests granule position) :
    ∃ last, last.store = monitor.store ∧
      ((∃ position, Obstructs monitor requests granule position) →
        ∃ position, Obstructs monitor requests granule position ∧
          lockSet requests monitor = .error (.fault (.delegatedInUse
            (requested monitor granule position).references)) last) ∧
      ((¬ ∃ position, Obstructs monitor requests granule position) →
        lockSet requests monitor = .ok none last) := by
  obtain ⟨position, mismatches⟩ := mismatch
  rcases obtainable_or_obstacle (claimsOn requests granule) monitor.store
    (lockingOrder (claimsOn requests granule)) with all | ⟨run, first, rest, split, taken, obstacle⟩
  · have obtainable := all position (mem_lockingOrder position)
    exact absurd mismatches ((obtainable_claimsOn_iff (free position)).mp obtainable)
  · have matching (earlier : Fin n) (inRun : earlier ∈ run) :=
      (obtainable_claimsOn_iff (free earlier)).mp (taken earlier inRun)
    rw [obtainable_claimsOn_iff (free first), Classical.not_not] at obstacle
    have inRun_iff := mem_run_iff leads split matching obstacle
    have evaluated := lockClaims_of_mismatch leads.distinct split taken
      (by rw [get_target_claimsOn]; exact free first)
      (by rw [get_target_claimsOn, Leads.get_claimsOn]; exact obstacle)
    rw [← leads.lockSet_eq] at evaluated
    simp only [get_target_claimsOn] at evaluated
    -- the first fault, if there is one, is that of a granule in the run
    cases faults : ((List.finRange n).filter (· ∈ run)).findSome? fun earlier =>
        (requested monitor granule earlier).releaseFault? with
    | none =>
      rw [faults] at evaluated
      refine ⟨_, ?_, ?_, fun _ => evaluated⟩
      · rfl
      · rintro ⟨blocker, lowest, delegated, referenced⟩
        have inRun := (inRun_iff blocker).mpr lowest
        have inOrder := List.findSome?_eq_none_iff.mp faults blocker (by simpa using inRun)
        exact absurd (Descriptor.releaseFault?_eq_none_iff.mp inOrder delegated) referenced
    | some cause =>
      rw [faults] at evaluated
      obtain ⟨blocker, member, fault⟩ := List.exists_of_findSome?_eq_some faults
      obtain ⟨delegated, referenced, rfl⟩ := Descriptor.releaseFault?_eq_some_iff.mp fault
      have obstructs : Obstructs monitor requests granule blocker :=
        ⟨(inRun_iff blocker).mp (by simpa using member), delegated, referenced⟩
      refine ⟨_, ?_, fun _ => ⟨blocker, obstructs, evaluated⟩,
        fun none => absurd ⟨_, obstructs⟩ none⟩
      rfl

end Mismatch

/-- A set of unlocked granules in the requested roles is locked, and nothing else changes. -/
theorem lockSet_of_match {monitor : Monitor region} {granule : Fin n → Fin region.size}
    (leads : Leads requests granule)
    (free : ∀ position, (requested monitor granule position).locked = false)
    (matching : ∀ position, ¬ Mismatches monitor requests granule position) :
    ∃ guards last, lockSet requests monitor = .ok (some guards) last ∧
      (∀ position, (guards.get position).target.address = .ok (requests.get position).addr) ∧
      (∀ position, last.store.get (.entry (granule position)) =
        (requested monitor granule position).lock) ∧
      ∀ target, (∀ position, target ≠ .entry (granule position)) →
        last.store.get target = monitor.store.get target := by
  have locked := lockClaims_of_obtainable leads.distinct fun position =>
    (obtainable_claimsOn_iff (free position)).mpr (matching position)
  have mem_guards (target : Target region) :
      ⟨target⟩ ∈ ((claimsOn requests granule).map Claim.guard).toList ↔
        ∃ position, target = .entry (granule position) := by
    rw [vectorToList_eq_map, List.mem_map]
    simp [vectorGet_eq, claimsOn, Claim.guard, Claim.target, eq_comm]
  rw [← leads.lockSet_eq] at locked
  refine ⟨_, _, locked, ?_, ?_, ?_⟩
  · intro position
    rw [leads.addr_eq]
    simp [vectorGet_eq, claimsOn, Claim.guard, Claim.target, Target.address]
  · intro position
    exact (Store.get_adjust_lock _ _ _).trans (if_pos ((mem_guards _).mpr ⟨position, rfl⟩))
  · intro target other
    refine (Store.get_adjust_lock _ _ _).trans (if_neg ?_)
    rw [mem_guards]
    rintro ⟨position, same⟩
    exact other position same

/-- A set that is not improper leads to different granules. -/
theorem improper_or_leads (region : Region) (requests : Vector Request n) :
    Improper region requests ∨
      ∃ granule : Fin n → Fin region.size, Leads requests granule := by
  by_contra neither
  simp only [Improper, not_or, not_exists, not_and] at neither
  obtain ⟨⟨known, apart⟩, noGranules⟩ := neither
  have found (position : Fin n) :
      ∃ index, region.index? (requests.get position).addr = some index :=
    Option.ne_none_iff_exists'.mp (known position)
  choose granule leads using found
  refine noGranules granule ⟨leads, ?_⟩
  intro position other same
  by_contra differs
  have sameAddr := region.index?_eq_some_iff.mp (leads position)
  rw [same, ← region.index?_eq_some_iff.mp (leads other)] at sameAddr
  exact apart position other differs sameAddr

/-- A set is locked as a whole or not at all. An improper set is turned down before a lock is taken,
whoever holds locks. Otherwise it leads to different granules. If these are unlocked and in the
requested roles, all of them are locked, and the guards stand in the order of the requests. If one
of them has another role, the store is as before; the set is refused, unless a granule that was
locked on the way cannot be given back in order, which is then reported. -/
theorem lockSet_all_or_nothing (requests : Vector Request n) (monitor : Monitor region) :
    (Improper region requests ∨
      ∃ granule : Fin n → Fin region.size, Leads requests granule) ∧
    (Improper region requests → ∃ notice, lockSet requests monitor =
      .ok none { monitor with log := monitor.log.push notice }) ∧
    ∀ granule : Fin n → Fin region.size, Leads requests granule →
      (∀ position, (requested monitor granule position).locked = false) →
      ((∀ position, ¬ Mismatches monitor requests granule position) →
        ∃ guards last, lockSet requests monitor = .ok (some guards) last ∧
          (∀ position,
            (guards.get position).target.address = .ok (requests.get position).addr) ∧
          (∀ position, last.store.get (.entry (granule position)) =
            (requested monitor granule position).lock) ∧
          ∀ target, (∀ position, target ≠ .entry (granule position)) →
            last.store.get target = monitor.store.get target) ∧
      ((∃ position, Mismatches monitor requests granule position) →
        ∃ last, last.store = monitor.store ∧
          ((∃ position, Obstructs monitor requests granule position) →
            ∃ position, Obstructs monitor requests granule position ∧
              lockSet requests monitor = .error (.fault (.delegatedInUse
                (requested monitor granule position).references)) last) ∧
          ((¬ ∃ position, Obstructs monitor requests granule position) →
            lockSet requests monitor = .ok none last)) := by
  refine ⟨improper_or_leads region requests, lockSet_of_improper, ?_⟩
  intro granule leads free
  exact ⟨lockSet_of_match leads free, lockSet_of_mismatch leads free⟩

/-- A region of three granules. -/
def threeGranules : Region := ⟨0x1000, 3, by decide, by decide, by decide⟩

/-- Three granules, of which the middle one is delegated and has references. -/
def referencedMiddle : Monitor threeGranules :=
  let monitor := Monitor.create threeGranules .absent
  { monitor with store := monitor.store.set (.entry ⟨1, by decide⟩) ⟨.delegated, 5, false⟩ }

/-- Asks for all three granules, the highest one first and in a role that it does not have. -/
def topDown : Vector Request 3 :=
  #v[⟨0x3000, .data⟩, ⟨0x2000, .delegated⟩, ⟨0x1000, .nonsecure⟩]

/-- The granules that `topDown` leads to. -/
def downwards (position : Fin 3) : Fin threeGranules.size := position.rev

/-- The middle granule is locked before the mismatch is found, and its lock cannot be given back in
order. -/
theorem lockSet_topDown :
    Leads topDown downwards ∧
      (∀ position, (requested referencedMiddle downwards position).locked = false) ∧
      ∃ last, last.store = referencedMiddle.store ∧
        lockSet topDown referencedMiddle = .error (.fault (.delegatedInUse 5)) last := by
  have leads : Leads topDown downwards := ⟨by decide, Fin.rev_injective⟩
  have free : ∀ position, (requested referencedMiddle downwards position).locked = false := by
    decide
  have outcome := (lockSet_all_or_nothing topDown referencedMiddle).2.2 downwards leads free
  obtain ⟨last, unchanged, faults, -⟩ := outcome.2 ⟨0, by decide⟩
  obtain ⟨blocker, ⟨-, delegated, -⟩, ended⟩ := faults ⟨1, by decide, by decide, by decide⟩
  have references : ∀ position, (requested referencedMiddle downwards position).role = .delegated →
      (requested referencedMiddle downwards position).references = 5 := by decide
  rw [references blocker delegated] at ended
  exact ⟨leads, free, last, unchanged, ended⟩

end GranuleMonitor
