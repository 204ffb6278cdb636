import GranuleMonitor.Proofs.Backing
import GranuleMonitor.Proofs.Internality
import GranuleMonitor.Proofs.Region.Lookup

/-!
# What is in memory

Two operations write to memory: filling a granule, and zeroing one through its guard. Each of them
sets all bytes of one granule to one value, so at every moment a granule holds the value of the
latest write to it. `Event.latest` reads that value off the events of a run, and
`Custody.uniform_play` says that memory agrees with it. What content operations do with such memory
is listed in `Monitor.Contains`.
-/

namespace GranuleMonitor

variable {region : Region}

namespace Event

/-- The value that an event wrote to every byte of the granule at an address. -/
def write? (event : Event region) (addr : Address) : Option UInt8 :=
  match event.operation, event.outcome with
  | .fill filled value, .replied _ => if filled = addr then some value else none
  | .useGuard guard (.zero _), .replied _ =>
    if Monitor.addressOf? guard.target = some addr then some 0 else none
  | _, _ => none

/-- The value of the latest write to the granule at an address. New memory is zero. -/
def latest (events : List (Event region)) (addr : Address) : UInt8 :=
  (events.filterMap (·.write? addr)).getLast?.getD 0

end Event

namespace Region

/-- The address is that of one of the bytes of a granule. -/
def Spans (region : Region) (index : Fin region.size) (addr : Address) : Prop :=
  (region.address index).toNat ≤ addr.toNat ∧
    addr.toNat < (region.address index).toNat + granuleSize

/-- The bytes of a granule are addressed without wrapping. -/
theorem toNat_address_add (index : Fin region.size) {offset : UInt64}
    (inside : offset.toNat < granuleSize) :
    (region.address index + offset).toNat = (region.address index).toNat + offset.toNat := by
  have start := region.toNat_address index
  have fits := region.fits
  have within : (index : Nat) < region.count.toNat := index.isLt
  simp only [granuleSize_eq, UInt64.size] at start fits inside
  rw [UInt64.toNat_add]
  omega

end Region

namespace Memory

/-- The address is that of a granule of the memory. -/
def HasGranule (memory : Memory) (addr : Address) : Prop :=
  ∃ index < memory.pages.size, addr.toNat = memory.base.toNat + granuleSize * index

/-- The memory is behind a region, and all bytes of a granule are equal. -/
structure Uniform (memory : Memory) (region : Region) (value : Address → UInt8) : Prop where
  backs : memory.Backs region
  pages : ∀ index : Fin region.size,
    memory.pages[index.val]? = some (page (value (region.address index)))

variable {memory : Memory} {value : Address → UInt8}

/-- The place of a granule is that of the region's granule at the same address. -/
theorem Backs.index?_eq_some_iff (backs : memory.Backs region) {addr : Address}
    {place : Fin memory.pages.size} :
    memory.index? addr = some place ↔
      ∃ index, addr = region.address index ∧ place = backs.page index := by
  constructor
  · intro found
    have within : (place : Nat) < region.size := backs.size ▸ place.isLt
    refine ⟨⟨place, within⟩, ?_, rfl⟩
    rw [← UInt64.toNat_inj, memory.index?_eq_some_iff.mp found, region.toNat_address, backs.base]
  · rintro ⟨index, rfl, rfl⟩
    exact backs.index?_address index

/-- The granules of memory behind a region are those of the region. -/
theorem Backs.hasGranule_iff (backs : memory.Backs region) {addr : Address} :
    memory.HasGranule addr ↔ ∃ index, addr = region.address index := by
  constructor
  · rintro ⟨place, within, exact⟩
    refine ⟨⟨place, backs.size ▸ within⟩, ?_⟩
    rw [← UInt64.toNat_inj, exact, region.toNat_address, backs.base]
  · rintro ⟨index, rfl⟩
    exact ⟨index, (backs.page index).isLt, by rw [region.toNat_address, backs.base]⟩

/-- Exactly the granules of the memory have a place in it. -/
theorem index?_eq_none_iff {addr : Address} :
    memory.index? addr = none ↔ ¬ memory.HasGranule addr := by
  rw [Option.eq_none_iff_forall_ne_some]
  constructor
  · rintro unknown ⟨index, within, exact⟩
    exact unknown ⟨index, within⟩ (memory.index?_eq_some_iff.mpr exact)
  · intro outside place found
    exact outside ⟨place, place.isLt, memory.index?_eq_some_iff.mp found⟩

/-- The bytes of memory lie behind its beginning, page by page. -/
theorem byte?_eq_ite (memory : Memory) (addr : Address) :
    memory.byte? addr =
      if memory.base.toNat ≤ addr.toNat then
        memory.pages[(addr.toNat - memory.base.toNat) / granuleSize]?.bind
          (·[(addr.toNat - memory.base.toNat) % granuleSize]?)
      else none := by
  have limit := memory.toNat_limit
  unfold byte?
  split
  · next backed =>
    have above := UInt64.le_iff_toNat_le.mp backed.1
    have below := UInt64.lt_iff_toNat_lt.mp backed.2
    have within : (addr.toNat - memory.base.toNat) / granuleSize < memory.pages.size := by
      simp only [granuleSize_eq] at limit ⊢
      omega
    have inside : (addr.toNat - memory.base.toNat) % granuleSize < granuleSize :=
      Nat.mod_lt _ (by decide)
    rw [if_pos above, Array.getElem?_eq_getElem within, Option.bind_some,
      Vector.getElem?_eq_getElem inside]
    simp only [UInt64.toNat_sub_of_le _ _ backed.1]
  · next outside =>
    rw [not_and, UInt64.le_iff_toNat_le, UInt64.lt_iff_toNat_lt, limit] at outside
    split
    · next above =>
      have behind : memory.pages.size ≤ (addr.toNat - memory.base.toNat) / granuleSize := by
        have behind := outside above
        simp only [granuleSize_eq] at behind ⊢
        omega
      rw [Array.getElem?_eq_none behind, Option.bind_none]
    · rfl

section Bytes

variable (backs : memory.Backs region) {index : Fin region.size} {addr : Address}
include backs

/-- The bytes of a granule are those of its page. -/
theorem Backs.byte?_of_spans (spans : region.Spans index addr) :
    memory.byte? addr =
      memory.pages[index.val]?.bind (·[addr.toNat - (region.address index).toNat]?) := by
  obtain ⟨above, below⟩ := spans
  rw [region.toNat_address, ← backs.base] at above below
  have place : (addr.toNat - memory.base.toNat) / granuleSize = index := by
    simp only [granuleSize_eq] at above below ⊢
    omega
  have offset : (addr.toNat - memory.base.toNat) % granuleSize =
      addr.toNat - (memory.base.toNat + granuleSize * index) := by
    simp only [granuleSize_eq] at above below ⊢
    omega
  rw [byte?_eq_ite, if_pos (by omega), place, offset, region.toNat_address, backs.base]

/-- A granule whose page is filled has the value in each of its bytes. -/
theorem Backs.byte?_setPage_of_spans (value : UInt8) (spans : region.Spans index addr) :
    (memory.setPage (backs.page index) (Memory.page value)).byte? addr = some value := by
  have inside : addr.toNat - (region.address index).toNat < granuleSize := by
    have := spans.1
    have := spans.2
    omega
  have written : (memory.setPage (backs.page index) (Memory.page value)).pages[index.val]? =
      some (Memory.page value) := Array.getElem?_set_self (backs.page index).isLt
  rw [(backs.setPage _ _).byte?_of_spans spans, written, Option.bind_some,
    Vector.getElem?_eq_getElem inside, Memory.page, Vector.getElem_replicate]

/-- Replacing the page of a granule concerns the bytes of that granule only. -/
theorem Backs.byte?_setPage_of_not_spans (content : Page) (apart : ¬ region.Spans index addr) :
    (memory.setPage (backs.page index) content).byte? addr = memory.byte? addr := by
  simp only [byte?_eq_ite, Memory.setPage]
  by_cases above : memory.base.toNat ≤ addr.toNat
  · have elsewhere : (backs.page index : Nat) ≠
        (addr.toNat - memory.base.toNat) / granuleSize := by
      intro here
      apply apart
      rw [Region.Spans, region.toNat_address, ← backs.base]
      simp only [Backs.page, granuleSize_eq] at here ⊢
      omega
    rw [if_pos above, if_pos above, Array.getElem?_set_ne _ elsewhere]
  · rw [if_neg above, if_neg above]

end Bytes

/-- Memory whose granules are all zero is uniform. -/
theorem Backs.uniform_of_zeroed (backs : memory.Backs region)
    (zeroed : ∀ index, memory.Zeroed (region.address index)) :
    memory.Uniform region fun _ => 0 where
  backs := backs
  pages index := by
    have all := zeroed index
    rw [Zeroed, backs.isZeroed_address, Except.ok.injEq, Vector.all_eq_true] at all
    rw [Array.getElem?_eq_some_iff]
    refine ⟨(backs.page index).isLt, Vector.ext fun place within => ?_⟩
    rw [Memory.page, Vector.getElem_replicate]
    exact beq_iff_eq.mp (all place within)

namespace Uniform

/-- Memory that is uniform is known by the values at the granules. -/
theorem congr (uniform : memory.Uniform region value) {other : Address → UInt8}
    (same : ∀ index : Fin region.size,
      value (region.address index) = other (region.address index)) :
    memory.Uniform region other where
  backs := uniform.backs
  pages index := by rw [uniform.pages, same]

/-- Setting all bytes of one granule to one value keeps memory uniform. -/
theorem setPage (uniform : memory.Uniform region value) (index : Fin region.size)
    (written : UInt8) :
    (memory.setPage (uniform.backs.page index) (page written)).Uniform region fun addr =>
      if region.address index = addr then written else value addr where
  backs := uniform.backs.setPage _ _
  pages other := by
    rw [Memory.setPage, Array.getElem?_set]
    by_cases same : index = other
    · have here : (uniform.backs.page index : Nat) = other := congrArg Fin.val same
      rw [if_pos here, if_pos (congrArg region.address same)]
    · have apart : (uniform.backs.page index : Nat) ≠ other := fun equal => same (Fin.ext equal)
      have differs : region.address index ≠ region.address other := fun equal =>
        same (region.address_injective equal)
      rw [if_neg apart, if_neg differs, uniform.pages]

variable (uniform : memory.Uniform region value)
include uniform

/-- The page behind a granule is that of the value of the granule. -/
theorem getElem_page (index : Fin region.size) :
    getElem memory.pages (uniform.backs.page index) (uniform.backs.page index).isLt =
      page (value (region.address index)) :=
  (Array.getElem?_eq_some_iff.mp (uniform.pages index)).2

/-- Every byte of a granule holds the value of the granule. -/
theorem byte?_eq {addr : Address} (granule : memory.HasGranule addr) {offset : UInt64}
    (inside : offset.toNat < granuleSize) :
    memory.byte? (addr + offset) = some (value addr) := by
  obtain ⟨index, rfl⟩ := uniform.backs.hasGranule_iff.mp granule
  have behind := region.toNat_address_add index inside
  have spans : region.Spans index (region.address index + offset) := by
    rw [Region.Spans, behind]
    omega
  rw [uniform.backs.byte?_of_spans spans, behind, Nat.add_sub_cancel_left, uniform.pages,
    Option.bind_some, Vector.getElem?_eq_getElem inside, page, Vector.getElem_replicate]

theorem isZeroed_eq {addr : Address} (granule : memory.HasGranule addr) :
    memory.isZeroed addr = .ok (value addr == 0) := by
  obtain ⟨index, rfl⟩ := uniform.backs.hasGranule_iff.mp granule
  rw [uniform.backs.isZeroed_address, uniform.getElem_page, page, Vector.all_replicate]
  rfl

/-- A granule can be read into every buffer, as far as both go. -/
theorem read_eq {addr : Address} (granule : memory.HasGranule addr) (buffer : Array UInt8) :
    ∃ content, memory.read addr buffer = .ok content ∧
      ∃ sameSize : content.size = buffer.size,
        ∀ place (within : place < content.size),
          content[place] = if place < granuleSize then value addr else buffer[place] := by
  obtain ⟨index, rfl⟩ := uniform.backs.hasGranule_iff.mp granule
  rw [read, uniform.backs.index?_address]
  dsimp only
  have taken : (memory.pages[uniform.backs.page index].toArray.extract 0 buffer.size).size =
      min buffer.size granuleSize := by
    rw [Array.size_extract, Vector.size_toArray, Nat.sub_zero]
  refine ⟨_, rfl, ?_, fun place within => ?_⟩
  · rw [Array.size_append, taken, Array.size_extract]
    omega
  · rw [Array.getElem_append]
    simp only [taken, Array.getElem_extract]
    rw [Array.size_append, taken, Array.size_extract] at within
    split
    · next inside =>
      have content := congrArg Vector.toArray (uniform.getElem_page index)
      rw [if_pos (by omega)]
      simp only [content]
      simp [page]
    · next behind =>
      rw [if_neg (by omega)]
      congr 1
      omega

end Uniform

end Memory

namespace Custody

variable (custody : Custody region)

/-- An operation leaves memory as its action does; waiting has no effect. -/
theorem memory_step_of_after {operation : Operation region}
    (kept : (operation.perform.after custody.monitor).memory = custody.monitor.memory) :
    (custody.step operation).2.monitor.memory = custody.monitor.memory := by
  unfold Act.after at kept
  unfold step
  split
  · cases ended : operation.perform custody.monitor with
    | ok outcome last =>
      rw [ended] at kept
      exact kept
    | error halt last =>
      rw [ended] at kept
      cases halt with
      | fault cause => exact kept
      | waiting target => rfl
  · rfl

/-- Only filling and zeroing write to memory. -/
theorem memory_step_of_kept {operation : Operation region}
    (fills : ∀ addr value, operation ≠ .fill addr value)
    (zeroes : ∀ guard slot, operation ≠ .useGuard guard (.zero slot)) :
    (custody.step operation).2.monitor.memory = custody.monitor.memory := by
  refine custody.memory_step_of_after ?_
  have onDescriptors (kind : operation.OnDescriptors) :
      (operation.perform.after custody.monitor).memory = custody.monitor.memory :=
    (Operation.internal_perform kind zeroes).memory_after _
  cases operation with
  | fill addr value => exact absurd rfl (fills addr value)
  | isZeroed addr =>
    simp only [Operation.perform, Act.after_bind, Act.isZeroed]
    cases custody.monitor.memory.isZeroed addr <;> rfl
  | read addr buffer =>
    simp only [Operation.perform, Act.after_bind, Act.readInto, Act.ofExcept_apply]
    cases custody.monitor.memory.read addr buffer <;> rfl
  | selectCpu cpu =>
    simp only [Operation.perform, Act.after_bind, Act.selectCpu]
    by_cases known : cpu.toNat < maxCpus <;> simp only [known] <;> rfl
  | mapWindow slot addr =>
    simp only [Operation.perform, Act.after_bind, Act.mapWindow]
    rcases custody.monitor.windows.map custody.monitor.cpu slot addr with _ | ⟨_, _⟩ <;> rfl
  | unmapWindow slot window =>
    simp only [Operation.perform, Act.after_bind, Act.unmapWindow]
    cases custody.monitor.windows.unmapFault? custody.monitor.cpu slot window <;> rfl
  | _ => exact onDescriptors trivial

theorem step_fill (addr : Address) (value : UInt8) :
    custody.step (.fill addr value) =
      match custody.monitor.memory.fill addr value with
      | .ok memory =>
        (.replied .done, { custody with monitor := { custody.monitor with memory } })
      | .error cause => (.halted (.fault cause), custody) := by
  cases filled : custody.monitor.memory.fill addr value with
  | ok memory => exact step_of_ok (fun _ => .done) (by rw [Act.fill, filled]) rfl rfl
  | error cause => exact step_of_fault (fun _ => .done) (by rw [Act.fill, filled]) rfl rfl

/-- A granule is zeroed through a guard that is alive, if nothing stops it. -/
theorem step_zero {guard : Guard region} (mine : guard ∈ custody.live) (slot : WindowSlot) :
    custody.step (.useGuard guard (.zero slot)) =
      match guard.zeroFault? slot custody.monitor with
      | some cause => (.halted (.fault cause), custody)
      | none =>
        (.replied .done, { custody with
          monitor := { custody.monitor with
            memory := guard.scrubbed custody.monitor.memory } }) := by
  have ended := guard.zero_eq slot custody.monitor
  have alive : (Operation.useGuard guard (.zero slot)).guard?.all custody.live.contains := by
    simpa [Operation.guard?] using mine
  have performs : (Operation.useGuard guard (.zero slot)).perform =
      guard.zero slot >>= fun _ => pure (.replied .done) := by
    funext monitor
    simp only [Operation.perform, GuardCall.perform, Act.bind_apply]
    cases guard.zero slot monitor <;> rfl
  cases stopped : guard.zeroFault? slot custody.monitor with
  | some cause =>
    rw [stopped] at ended
    exact step_of_fault (fun _ => .done) ended alive performs
  | none =>
    rw [stopped] at ended
    exact step_of_ok (fun _ => .done) ended alive performs

variable {custody} {value : Address → UInt8}

/-- After an operation a granule holds what the operation wrote to it, or what it held before. -/
theorem uniform_step (uniform : custody.monitor.memory.Uniform region value)
    (operation : Operation region) :
    (custody.step operation).2.monitor.memory.Uniform region fun addr =>
      (Event.write? ⟨operation, (custody.step operation).1⟩ addr).getD (value addr) := by
  have unchanged (fills : ∀ addr value, operation ≠ .fill addr value)
      (zeroes : ∀ guard slot, operation ≠ .useGuard guard (.zero slot))
      (nothing : ∀ outcome addr, Event.write? ⟨operation, outcome⟩ addr = none) :
      (custody.step operation).2.monitor.memory.Uniform region fun addr =>
        (Event.write? ⟨operation, (custody.step operation).1⟩ addr).getD (value addr) := by
    rw [custody.memory_step_of_kept fills zeroes]
    simpa only [nothing, Option.getD_none] using uniform
  cases operation with
  | fill filled written =>
    rw [step_fill]
    cases found : custody.monitor.memory.index? filled with
    | none =>
      simp only [Memory.fill, found, Event.write?]
      exact uniform
    | some place =>
      obtain ⟨index, rfl, rfl⟩ := uniform.backs.index?_eq_some_iff.mp found
      simp only [Memory.fill, found, Event.write?]
      refine (uniform.setPage index written).congr fun other => ?_
      by_cases same : region.address index = region.address other <;> simp [same]
  | useGuard guard call =>
    cases call with
    | zero slot =>
      by_cases mine : guard ∈ custody.live
      case neg =>
        rw [step_of_dead (by simpa [Operation.guard?] using mine)]
        exact uniform
      rw [custody.step_zero mine]
      cases stopped : guard.zeroFault? slot custody.monitor with
      | some cause => exact uniform
      | none =>
        obtain ⟨index | _⟩ := guard
        case detached => simp [Guard.zeroFault?, Target.address, ite_eq_iff] at stopped
        simp only [Guard.scrubbed, Target.address, Memory.scrub,
          uniform.backs.index?_address, Event.write?, Monitor.addressOf?, Option.some.injEq]
        refine (uniform.setPage index 0).congr fun other => ?_
        by_cases same : region.address index = region.address other <;> simp [same]
    | _ => exact unchanged (by simp) (by simp) fun _ _ => rfl
  | _ => exact unchanged (by simp) (by simp) fun _ _ => rfl

/-- After a run a granule holds what the run wrote to it last, or what it held before. -/
theorem uniform_play (uniform : custody.monitor.memory.Uniform region value)
    (operations : List (Operation region)) :
    (custody.play operations).2.monitor.memory.Uniform region fun addr =>
      ((custody.play operations).1.filterMap (·.write? addr)).getLast?.getD (value addr) := by
  induction operations generalizing custody value with
  | nil => exact uniform
  | cons first rest inductionHypothesis =>
    rw [play_cons]
    refine (inductionHypothesis (uniform_step uniform first)).congr fun index => ?_
    rw [List.filterMap_cons]
    cases Event.write? ⟨first, (custody.step first).1⟩ (region.address index) with
    | none => rfl
    | some written =>
      simp [List.getLast?_cons]

end Custody

/-- The memory of a monitor has a value for each granule, and all content operations go by it. -/
structure Monitor.Contains (monitor : Monitor region) (value : Address → UInt8) : Prop where
  /-- Every byte of a granule is that value. -/
  bytes : ∀ addr, monitor.memory.HasGranule addr → ∀ offset : UInt64, offset.toNat < granuleSize →
    monitor.memory.byte? (addr + offset) = some (value addr)
  /-- A granule is reported as zeroed exactly if the value is zero. -/
  isZeroed : ∀ addr, monitor.memory.HasGranule addr →
    Act.isZeroed addr monitor = .ok (value addr == 0) monitor
  /-- A granule is read over the beginning of a buffer, and the rest of the buffer is kept. -/
  read : ∀ addr, monitor.memory.HasGranule addr → ∀ buffer,
    ∃ content, Act.readInto addr buffer monitor = .ok content monitor ∧
      ∃ sameSize : content.size = buffer.size,
        ∀ place (within : place < content.size),
          content[place] = if place < granuleSize then value addr else buffer[place]
  /-- Every granule can be filled. -/
  fill : ∀ addr, monitor.memory.HasGranule addr → ∀ filling,
    ∃ memory, Act.fill addr filling monitor = .ok () { monitor with memory }
  /-- An address that is not that of a granule is a fault in each case, and nothing happens. -/
  outside : ∀ addr, ¬ monitor.memory.HasGranule addr →
    (∀ filling, Act.fill addr filling monitor = .error (.fault (.unbacked addr)) monitor) ∧
      (∀ buffer, Act.readInto addr buffer monitor = .error (.fault (.unbacked addr)) monitor) ∧
      Act.isZeroed addr monitor = .error (.fault (.unbacked addr)) monitor

/-- Content operations go by the values of uniform memory. -/
theorem Memory.Uniform.contains {monitor : Monitor region} {value : Address → UInt8}
    (uniform : monitor.memory.Uniform region value) : monitor.Contains value where
  bytes addr granule offset inside := uniform.byte?_eq granule inside
  isZeroed addr granule := by rw [Act.isZeroed, uniform.isZeroed_eq granule]
  read addr granule buffer := by
    obtain ⟨content, ended, sameSize, bytes⟩ := uniform.read_eq granule buffer
    exact ⟨content, by rw [Act.readInto, ended]; rfl, sameSize, bytes⟩
  fill addr granule filling := by
    obtain ⟨index, rfl⟩ := uniform.backs.hasGranule_iff.mp granule
    exact ⟨_, by rw [Act.fill, uniform.backs.fill_address]⟩
  outside addr outside := by
    have unknown := Memory.index?_eq_none_iff.mpr outside
    refine ⟨fun filling => ?_, fun buffer => ?_, ?_⟩
    · simp only [Act.fill, Memory.fill, unknown]
    · simp only [Act.readInto, Memory.read, unknown, Act.ofExcept_apply]
    · simp only [Act.isZeroed, Memory.isZeroed, unknown]

namespace Custody

/-- Memory that a table was created for holds, after any operations of any callers, in every byte of
a granule the value of the latest write to that granule, and zero before the first one. A write is a
granule that was filled or that was zeroed through its guard, in both cases without a fault. Content
operations show these values, and fault exactly at addresses that are not those of granules. -/
theorem memory_holds_latest {host : Host} {count : UInt64} {monitor : Monitor region}
    (created : (Setting.backed count).create host = .ok ⟨region, monitor⟩)
    (operations : List (Operation region)) :
    let events := ((start monitor).play operations).1
    let last := ((start monitor).play operations).2.monitor
    last.memory.base = region.base ∧ last.memory.pages.size = count.toNat ∧
      region.size = count.toNat ∧ last.Contains (Event.latest events) := by
  intro events last
  obtain ⟨memory, rfl, backs, size, -, zeroed⟩ := Setting.create_backed created
  have fresh : (start (Monitor.create region memory)).monitor.memory.Uniform region fun _ => 0 :=
    backs.uniform_of_zeroed zeroed
  have uniform : last.memory.Uniform region (Event.latest events) := uniform_play fresh operations
  exact ⟨uniform.backs.base, uniform.backs.size.trans size, size, uniform.contains⟩

/-- A region of two granules, at the beginning of the memory that the desktop host has. -/
def twoGranules : Region :=
  ⟨Host.desktop.base, 2, Host.desktop.aligned, Nat.two_pos, by decide⟩

/-- The memory of both granules. -/
def twoPages : Memory :=
  ⟨Host.desktop.base, .replicate 2 (Memory.page 0), Host.desktop.aligned, by decide⟩

/-- The guard of the upper one. -/
def upper : Guard twoGranules := ⟨.entry ⟨1, by decide⟩⟩

/-- Fills both granules and zeroes the upper one. An address off a granule boundary, an address
behind the memory, a guard that is gone and the slot for the non-secure world are turned down. -/
def scrubbing : List (Operation twoGranules) :=
  [.acquire (.lock (.granule 0x1000001000) .nonsecure), .fill 0x1000000000 0x5a,
    .fill 0x1000001000 0x77, .useGuard upper (.zero .delegated), .fill 0x1000000001 3,
    .fill 0x1000002000 4, .release upper none, .useGuard upper (.zero .realm),
    .fill 0x1000001000 9, .acquire (.lock (.granule 0x1000001000) .nonsecure),
    .useGuard upper (.zero .realm), .useGuard upper (.zero .nonsecure)]

/-- The lower granule is filled up to its last byte, and the upper one is zero. -/
theorem scrubbing_contents :
    (Setting.backed 2).create .desktop = .ok ⟨twoGranules, .create twoGranules twoPages⟩ ∧
      let last := ((start (Monitor.create twoGranules twoPages)).play scrubbing).2.monitor
      last.memory.byte? (0x1000000000 + 0xfff) = some 0x5a ∧
        Act.isZeroed 0x1000001000 last = .ok true last ∧
        Act.isZeroed 0x1000002000 last = .error (.fault (.unbacked 0x1000002000)) last := by
  have created : (Setting.backed 2).create .desktop =
      .ok ⟨twoGranules, .create twoGranules twoPages⟩ := rfl
  obtain ⟨base, size, -, contains⟩ := memory_holds_latest created scrubbing
  refine ⟨created, ?_, ?_, ?_⟩
  · refine (contains.bytes _ ⟨0, ?_, ?_⟩ 0xfff (by decide)).trans (congrArg some ?_)
    · rw [size]; decide
    · rw [base]; decide
    · decide +kernel
  · refine (contains.isZeroed _ ⟨1, ?_, ?_⟩).trans (congrArg (EStateM.Result.ok · _) ?_)
    · rw [size]; decide
    · rw [base]; decide
    · decide +kernel
  · refine (contains.outside _ ?_).2.2
    rintro ⟨index, within, exact⟩
    have exact : (0x1000002000 : Nat) = 0x1000000000 + granuleSize * index := by
      rw [base] at exact
      exact exact
    have within : index < 2 := by
      rw [size] at within
      exact within
    simp only [granuleSize_eq] at exact
    omega

end Custody

end GranuleMonitor
