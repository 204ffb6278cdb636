import GranuleMonitor.Proofs.Memory.Content
import GranuleMonitor.Proofs.Window.Bookkeeping

/-!
# Memory and its table

Memory compares an address with its bounds in bytes, and a table divides the distance from its base.
For a table that was created for the memory both checks accept the same addresses:
`Memory.Backs.exists_index?_iff`. Memory can be had for every number of granules whose bytes fit into
a word, as far as the host has room, and then its table is created as well. What follows for single
addresses, whatever was done to the memory before, is listed in `Monitor.Covers`.
-/

namespace GranuleMonitor

variable {region : Region}

namespace Memory

/-- Every content operation takes the address, and the host has the granule at that very address. -/
structure Accepts (memory : Memory) (addr : Address) : Prop where
  pointer : memory.pointer addr = .ok addr
  fill : ∀ value, ∃ filled, memory.fill addr value = .ok filled
  read : ∀ buffer, ∃ content, memory.read addr buffer = .ok content
  isZeroed : ∃ zeroed, memory.isZeroed addr = .ok zeroed

/-- Every content operation turns the address down. -/
structure Rejects (memory : Memory) (addr : Address) : Prop where
  pointer : memory.pointer addr = .error (.unbacked addr)
  fill : ∀ value, memory.fill addr value = .error (.unbacked addr)
  read : ∀ buffer, memory.read addr buffer = .error (.unbacked addr)
  isZeroed : memory.isZeroed addr = .error (.unbacked addr)

variable {memory : Memory} {addr : Address}

theorem accepts_of_index? {place : Fin memory.pages.size}
    (found : memory.index? addr = some place) : memory.Accepts addr where
  pointer := by
    rw [pointer, found]
    exact congrArg Except.ok (by rw [UInt64.add_comm, UInt64.sub_add_cancel])
  fill value := ⟨_, by rw [fill, found]⟩
  read buffer := ⟨_, by rw [read, found]⟩
  isZeroed := ⟨_, by rw [isZeroed, found]⟩

theorem rejects_of_index? (unknown : memory.index? addr = none) : memory.Rejects addr where
  pointer := by rw [pointer, unknown]
  fill value := by rw [fill, unknown]
  read buffer := by rw [read, unknown]
  isZeroed := by rw [isZeroed, unknown]

/-- No address is both taken and turned down. -/
theorem Accepts.not_rejects (accepts : memory.Accepts addr) : ¬ memory.Rejects addr := by
  intro rejects
  have same := accepts.pointer.symm.trans rejects.pointer
  contradiction

/-- Content operations go by the check of addresses. -/
theorem accepts_iff : memory.Accepts addr ↔ ∃ place, memory.index? addr = some place := by
  refine ⟨fun accepts => ?_, fun ⟨_, found⟩ => accepts_of_index? found⟩
  cases found : memory.index? addr with
  | some place => exact ⟨place, rfl⟩
  | none => exact absurd (rejects_of_index? found) accepts.not_rejects

theorem rejects_iff : memory.Rejects addr ↔ memory.index? addr = none := by
  refine ⟨fun rejects => ?_, rejects_of_index?⟩
  cases found : memory.index? addr with
  | some place => exact absurd rejects (accepts_of_index? found).not_rejects
  | none => rfl

/-- Memory and the table of its region find a granule at the same addresses. -/
theorem Backs.exists_index?_iff (backs : memory.Backs region) :
    (∃ place, memory.index? addr = some place) ↔ ∃ index, region.index? addr = some index := by
  simp only [backs.index?_eq_some_iff, region.index?_eq_some_iff]
  constructor
  · rintro ⟨_, index, here, -⟩
    exact ⟨index, here⟩
  · rintro ⟨index, here⟩
    exact ⟨_, index, here, rfl⟩

/-- Memory is refused as a matter of principle exactly if its bytes are none or no word. -/
theorem obtain_eq_invalidCount_iff {host : Host} {count : UInt64} :
    Memory.obtain host count = .error .invalidCount ↔
      count = 0 ∨ UInt64.size ≤ granuleSize * count.toNat := by
  have zero : count = 0 ↔ count.toNat = 0 := by rw [← UInt64.toNat_inj, UInt64.toNat_zero]
  unfold Memory.obtain
  cases sized : bytes? count with
  | none =>
    refine iff_of_true rfl ?_
    by_contra proper
    simp only [zero, not_or, Nat.not_le] at proper
    have given := bytes?_eq_some_iff.mpr ⟨Nat.pos_of_ne_zero proper.1,
      (UInt64.toNat_ofNat_of_lt' proper.2).symm⟩
    rw [sized] at given
    contradiction
  | some bytes =>
    obtain ⟨positive, exact⟩ := bytes?_eq_some_iff.mp sized
    have bound := bytes.toNat_lt
    refine iff_of_false ?_ ?_
    · dsimp only
      split <;> simp
    · simp only [zero, UInt64.size]
      omega

/-- Whenever memory can be had, it has the number of granules that was asked for, and a table is
created for it. -/
theorem create_of_obtain {host : Host} {count : UInt64}
    (obtained : Memory.obtain host count = .ok memory) :
    memory.granuleCount = count ∧ ∃ region, memory.spec.check = .ok region ∧
      (Setting.backed count).create host = .ok ⟨region, .create region memory⟩ := by
  obtain ⟨-, pages⟩ := Memory.obtain_spec obtained
  have counted : memory.granuleCount = count := by
    rw [← UInt64.toNat_inj, memory.toNat_granuleCount, pages, Array.size_replicate]
  have positive : 0 < memory.granuleCount.toNat := by
    rw [counted, Nat.pos_iff_ne_zero, ← UInt64.toNat_zero, ne_eq, UInt64.toNat_inj]
    rintro rfl
    have refused : Memory.obtain host 0 = .error .invalidCount :=
      obtain_eq_invalidCount_iff.mpr (.inl rfl)
    rw [obtained] at refused
    contradiction
  have fits : memory.base.toNat + granuleSize * memory.granuleCount.toNat < UInt64.size := by
    rw [memory.toNat_granuleCount]
    exact memory.fits
  obtain ⟨region, checked⟩ : ∃ region, memory.spec.check = .ok region :=
    RegionSpec.exists_check memory.aligned positive fits
  exact ⟨counted, region, checked, by simp only [Setting.create, obtained, checked]⟩

end Memory

/-- A monitor's memory and its table agree on all addresses. -/
structure Monitor.Covers (monitor : Monitor region) : Prop where
  /-- Memory takes exactly the addresses at which the table has a granule. -/
  accepts_iff : ∀ addr,
    monitor.memory.Accepts addr ↔ ∃ target, region.entryAt? addr = some target
  /-- It turns all others down. -/
  rejects_iff : ∀ addr, monitor.memory.Rejects addr ↔ region.entryAt? addr = none
  /-- The descriptor of a granule leads back to the address where the host has it, and a window on
  the granule, if there is one, is at that address. -/
  window : ∀ addr target, region.entryAt? addr = some target →
    ∃ own pointer, target.address = .ok own ∧ monitor.memory.pointer addr = .ok pointer ∧
      own = addr ∧ pointer = addr ∧
      ∀ slot, (∀ window?, (Act.mapWindow slot own).result monitor = .ok window? →
          window? = some pointer) ∧
        (monitor.windows.occupant? monitor.cpu slot = none →
          (Act.mapWindow slot own).result monitor = .ok (some pointer))

/-- Memory behind a region agrees with the table of the region, if no granule lies at zero. -/
theorem Memory.Backs.covers {monitor : Monitor region} (backs : monitor.memory.Backs region)
    (positive : 0 < region.base.toNat) : monitor.Covers where
  accepts_iff addr := by
    rw [accepts_iff, backs.exists_index?_iff]
    simp [Region.entryAt?]
  rejects_iff addr := by
    have same : (∃ place, monitor.memory.index? addr = some place) ↔
      ∃ index, region.index? addr = some index := backs.exists_index?_iff
    rw [rejects_iff, Region.entryAt?, Option.map_eq_none_iff, Option.eq_none_iff_forall_ne_some,
      Option.eq_none_iff_forall_ne_some, ← not_exists, ← not_exists, same]
  window addr target found := by
    have address := Region.entryAt?_eq_some_iff.mp found
    obtain ⟨index, known, rfl⟩ := Option.map_eq_some_iff.mp found
    obtain ⟨place, backed⟩ := backs.exists_index?_iff.mpr ⟨index, known⟩
    refine ⟨addr, addr, address, (accepts_of_index? backed).pointer, rfl, rfl, fun slot => ?_⟩
    have nonzero : addr ≠ 0 := by
      rintro rfl
      have exact := Region.index?_eq_some_iff_toNat.mp known
      rw [UInt64.toNat_zero] at exact
      omega
    unfold Act.result
    rw [Act.mapWindow_apply, if_neg nonzero]
    cases monitor.windows.occupant? monitor.cpu slot <;> simp [eq_comm]

namespace Memory

/-- Memory is refused as a matter of principle exactly if it would have no bytes or more than a word
can count. If it can be had, it has the granules that were asked for, and a table of the same granules
is created for it. Whatever any callers do then, memory and table accept the same addresses. The
host has a granule at its own address, where also the windows on it are opened. -/
theorem covered_by_table (host : Host) (count : UInt64) :
    (Memory.obtain host count = .error .invalidCount ↔
        count = 0 ∨ UInt64.size ≤ granuleSize * count.toNat) ∧
      ∀ memory, Memory.obtain host count = .ok memory →
        memory.granuleCount = count ∧
          ∃ region : Region, memory.spec.check = .ok region ∧ region.base = memory.base ∧
            region.size = count.toNat ∧
            (Setting.backed count).create host = .ok ⟨region, .create region memory⟩ ∧
            ∀ operations : List (Operation region),
              ((Custody.start (.create region memory)).play operations).2.monitor.Covers := by
  refine ⟨obtain_eq_invalidCount_iff, fun memory obtained => ?_⟩
  obtain ⟨counted, region, checked, created⟩ := create_of_obtain obtained
  obtain ⟨found, same, backs, size, base, zeroed⟩ := Setting.create_backed created
  obtain rfl : memory = found := congrArg Monitor.memory same
  refine ⟨counted, region, checked, backs.base.symm, size, created, fun operations => ?_⟩
  have begins : (Custody.start (.create region memory)).monitor.memory.Uniform region fun _ => 0 :=
    backs.uniform_of_zeroed zeroed
  exact (Custody.uniform_play begins operations).backs.covers (base ▸ host.base_pos)

/-- Memory of two granules can be had at the desktop. After `Custody.scrubbing` it still takes the
address of the upper one and turns its own end down. -/
theorem desktop_covered :
    Memory.obtain .desktop 2 = .ok Custody.twoPages ∧
      let last := ((Custody.start (.create Custody.twoGranules Custody.twoPages)).play
        Custody.scrubbing).2.monitor
      last.memory.Accepts 0x1000001000 ∧ last.memory.Rejects 0x1000002000 := by
  have obtained : Memory.obtain .desktop 2 = .ok Custody.twoPages := rfl
  obtain ⟨-, region, checked, -, -, -, covers⟩ :=
    (covered_by_table .desktop 2).2 Custody.twoPages obtained
  obtain rfl : region = Custody.twoGranules := by
    have same : Custody.twoPages.spec.check = .ok Custody.twoGranules := rfl
    exact Except.ok.inj (checked.symm.trans same)
  have covered := covers Custody.scrubbing
  exact ⟨obtained, (covered.accepts_iff _).mpr ⟨Custody.upper.target, rfl⟩,
    (covered.rejects_iff _).mpr rfl⟩

end Memory

end GranuleMonitor
