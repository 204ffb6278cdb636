import GranuleMonitor.Proofs.Custody.References
import GranuleMonitor.Proofs.Stress.Plan

/-!
# What a call does

A call that `Fits` an arena ends without a fault, and `Does` says what becomes of every granule: of
its role, its lock, its content and the references to it, and of the counts. This is `Call.does`.
-/

namespace GranuleMonitor

variable {region : Region}

namespace Stress

namespace Call

variable (call : Call region) (index : Fin region.size)

/-- The role of any granule after a call. -/
def roleOn (role : Role) : Role :=
  if call.index? = some index then call.roleAfter role else role

/-- The lock of any granule after a call. -/
def lockedOn (locked : Bool) : Bool :=
  if call.index? = some index ∧ call.GivesBack then false else locked

/-- What is known about the content of any granule after a call. -/
def ZeroedOn (zeroed : Prop) : Prop :=
  if call.index? = some index then call.ZeroedAfter zeroed else zeroed

/-- The counts after a call. -/
def tallyAfter (tally : Tally) : Call region → Tally
  | .count outcome => tally.add outcome
  | _ => tally

end Call

/-- The descriptor of a granule. -/
def Arena.get (arena : Arena region) (index : Fin region.size) : Descriptor :=
  arena.monitor.store.get (.entry index)

theorem Arena.get_eq (arena : Arena region) (index : Fin region.size) :
    arena.monitor.store.get (.entry index) = arena.get index := rfl

/-- The content of a granule is zero. -/
def Arena.Zeroed (arena : Arena region) (index : Fin region.size) : Prop :=
  arena.monitor.memory.Zeroed (region.address index)

/-- The memory is behind the table, and no window is open. -/
structure Arena.Sound (arena : Arena region) : Prop where
  backs : arena.monitor.memory.Backs region
  windows : ∀ cpu slot, arena.monitor.windows.occupant? cpu slot = none
  mappable : ∀ index : Fin region.size, region.address index ≠ 0

/-- An arena is fit for a call. -/
structure Call.Fits (call : Call region) (arena : Arena region) : Prop extends arena.Sound where
  proper : call.Proper
  accepts : ∀ index, call.index? = some index →
    call.Accepts (arena.get index).role (arena.Zeroed index)
  unreferenced : call.GivesBack → ∀ index, call.index? = some index →
    (arena.get index).references = 0
  counts : ∀ index,
    0 ≤ ((arena.get index).references.toNat : Int) + call.references index ∧
      ((arena.get index).references.toNat : Int) + call.references index < UInt64.size

/-- What a call has done. -/
structure Call.Does (call : Call region) (before after : Arena region) : Prop
    extends after.Sound where
  role : ∀ index, (after.get index).role = call.roleOn index (before.get index).role
  locked : ∀ index, (after.get index).locked = call.lockedOn index (before.get index).locked
  zeroed : ∀ index, call.ZeroedOn index (before.Zeroed index) → after.Zeroed index
  references : ∀ index, ((after.get index).references.toNat : Int) =
    (before.get index).references.toNat + call.references index
  tally : after.tally = call.tallyAfter before.tally
  cpu : after.monitor.cpu = before.monitor.cpu

/-- One more is exact as long as it is a word. -/
theorem toNat_add_one {count : UInt64} (fits : count.toNat + 1 < UInt64.size) :
    ((count + 1).toNat : Int) = count.toNat + 1 := by
  rw [UInt64.toNat_add, UInt64.toNat_one, Nat.mod_eq_of_lt fits, Nat.cast_add_one]

/-- One less is exact as long as there is one. -/
theorem toNat_sub_one {count : UInt64} (present : 1 ≤ count.toNat) :
    ((count - 1).toNat : Int) = count.toNat + -1 := by
  have le : 1 ≤ count := UInt64.le_iff_toNat_le.mpr present
  rw [UInt64.toNat_sub_of_le _ _ le, UInt64.toNat_one, Nat.cast_sub present, Int.sub_eq_add_neg,
    Nat.cast_one]

theorem Exercise.onMonitor_of_ok {α : Type} {action : Act region α} {arena : Arena region}
    {value : α} {last : Monitor region} (ended : action arena.monitor = .ok value last) :
    Exercise.onMonitor action arena = .ok value ⟨last, arena.tally⟩ := by
  simp only [onMonitor, ended]

namespace Call

variable {call : Call region} {arena : Arena region} {index : Fin region.size}

/-- A call that only writes one descriptor. -/
theorem Does.of_write (sound : arena.Sound) {descriptor : Descriptor}
    (others : ∀ other, other ≠ index → call.index? ≠ some other ∧ call.references other = 0)
    (role : descriptor.role = call.roleOn index (arena.get index).role)
    (locked : descriptor.locked = call.lockedOn index (arena.get index).locked)
    (references : (descriptor.references.toNat : Int) =
      (arena.get index).references.toNat + call.references index)
    (zeroed : ∀ zeroed, call.ZeroedAfter zeroed → zeroed)
    (tally : call.tallyAfter arena.tally = arena.tally) :
    call.Does arena
      ⟨{ arena.monitor with store := arena.monitor.store.set (.entry index) descriptor },
        arena.tally⟩ := by
  have write (other : Fin region.size) :
      (arena.monitor.store.set (.entry index) descriptor).get (.entry other) =
        if other = index then descriptor else arena.get other := by
    rw [Store.get_set]
    simp [Arena.get]
  refine ⟨⟨sound.backs, sound.windows, sound.mappable⟩, fun other => ?_, fun other => ?_,
    fun other isZeroed => ?_, fun other => ?_, tally.symm, rfl⟩
  · rw [Arena.get, write]
    by_cases same : other = index
    · rw [if_pos same, same, role]
    · rw [if_neg same, roleOn, if_neg (others other same).1]
  · rw [Arena.get, write]
    by_cases same : other = index
    · rw [if_pos same, same, locked]
    · rw [if_neg same, lockedOn, if_neg (fun gives => (others other same).1 gives.1)]
  · unfold ZeroedOn at isZeroed
    split at isZeroed
    · exact zeroed _ isZeroed
    · exact isZeroed
  · rw [Arena.get, write]
    by_cases same : other = index
    · rw [if_pos same, same, references]
    · rw [if_neg same, (others other same).2, add_zero]

/-- A call that leaves all descriptors alone. -/
theorem Does.of_content {after : Arena region} (sound : after.Sound)
    (store : after.monitor.store = arena.monitor.store)
    (cpu : after.monitor.cpu = arena.monitor.cpu) (keeps : ¬ call.GivesBack)
    (roleAfter : ∀ role, call.roleAfter role = role) (references : ∀ index, call.references index = 0)
    (zeroed : ∀ index, call.ZeroedOn index (arena.Zeroed index) → after.Zeroed index)
    (tally : after.tally = call.tallyAfter arena.tally) : call.Does arena after := by
  have same (index : Fin region.size) : after.get index = arena.get index := by
    rw [Arena.get, Arena.get, store]
  refine ⟨sound, fun index => ?_, fun index => ?_, zeroed, fun index => ?_, tally, cpu⟩
  · rw [same, roleOn, roleAfter, ite_self]
  · rw [same, lockedOn, if_neg fun gives => keeps gives.2]
  · rw [same, references, add_zero]

/-- A granule that is given back has no references, so its release finds nothing wrong. -/
theorem does_giveBack (sound : arena.Sound) (next? : Option Role)
    (about : call.index? = some index) (gives : call.GivesBack)
    (others : ∀ other, call.references other = 0)
    (role : call.roleAfter (arena.get index).role = next?.getD (arena.get index).role)
    (zeroed : ∀ zeroed, call.ZeroedAfter zeroed → zeroed)
    (tally : call.tallyAfter arena.tally = arena.tally)
    (unreferenced : (arena.get index).references = 0) :
    ∃ after, Exercise.onMonitor (Session.releaseGuard ⟨.entry index⟩ next?) arena = .ok () after ∧
      call.Does arena after := by
  have inOrder : ((arena.get index).become next?).releaseFault? = none :=
    Descriptor.releaseFault?_eq_none_iff.mpr fun _ => unreferenced
  have ended := Session.releaseGuard_apply ⟨.entry index⟩ next? arena.monitor
  rw [arena.get_eq, inOrder] at ended
  refine ⟨_, Exercise.onMonitor_of_ok ended, .of_write sound (fun other differs => ⟨?_, others other⟩)
    ?_ ?_ ?_ zeroed tally⟩
  · rw [about]
    exact fun same => differs (Option.some.inj same).symm
  · rw [roleOn, if_pos about, role]
    rfl
  · rw [lockedOn, if_pos ⟨about, gives⟩]
    rfl
  · rw [others, add_zero]
    rfl

/-- A reference that is counted, with or without the lock. -/
theorem does_count (sound : arena.Sound)
    (counts : call = .raise ⟨.entry index⟩ ∨ call = .lower ⟨.entry index⟩ ∨
      call = .gain (.entry index) ∨ call = .drop (.entry index))
    {references : UInt64}
    (exact : (references.toNat : Int) =
      (arena.get index).references.toNat + call.references index) :
    call.Does arena
      ⟨{ arena.monitor with
          store := arena.monitor.store.set (.entry index) { arena.get index with references } },
        arena.tally⟩ := by
  have elsewhere {other : Fin region.size} (differs : other ≠ index) :
      Target.entry index ≠ .entry other := fun same => differs (Target.entry.inj same).symm
  rcases counts with rfl | rfl | rfl | rfl <;>
    refine .of_write sound (fun other differs => ⟨?_, if_neg (elsewhere differs)⟩) ?_ ?_ exact
      (fun _ => id) rfl <;>
    simp_all [roleOn, roleAfter, lockedOn, GivesBack, Call.index?, Target.index?, eq_comm]

/-- Only the guard of a granule is about it. -/
theorem guard_eq {guard : Guard region} (about : guard.target.index? = some index) :
    guard = ⟨.entry index⟩ := by
  obtain ⟨_ | _⟩ := guard
  · rw [Option.some.inj about]
  · contradiction

/-- A call that replaces the content of a granule. -/
theorem does_page (sound : arena.Sound) (content : Page) (windows : Windows)
    (empty : ∀ cpu slot, windows.occupant? cpu slot = none) (about : call.index? = some index)
    (keeps : ¬ call.GivesBack) (roleAfter : ∀ role, call.roleAfter role = role)
    (references : ∀ index, call.references index = 0)
    (zeroed : ∀ zeroed, call.ZeroedAfter zeroed → content.all (· == 0))
    (tally : call.tallyAfter arena.tally = arena.tally) :
    call.Does arena
      ⟨{ arena.monitor with
          memory := arena.monitor.memory.setPage (sound.backs.page index) content
          windows }, arena.tally⟩ := by
  refine .of_content ⟨sound.backs.setPage _ _, empty, sound.mappable⟩ rfl rfl keeps roleAfter references
    (fun other isZeroed => ?_) tally.symm
  rw [Arena.Zeroed, Memory.Zeroed, sound.backs.isZeroed_setPage]
  by_cases same : other = index
  · rw [ZeroedOn, if_pos (same ▸ about)] at isZeroed
    rw [if_pos same, zeroed _ isZeroed]
  · rw [ZeroedOn, about, if_neg fun found => same (Option.some.inj found).symm] at isZeroed
    rw [if_neg same]
    exact isZeroed

/-- A granule is zeroed through a window that is open only for that time. -/
theorem does_scrub (sound : arena.Sound) (byte : UInt8) :
    ∃ after, (Call.scrub ⟨.entry index⟩).perform byte arena = .ok () after ∧
      (Call.scrub ⟨.entry index⟩).Does arena after := by
  have allowed : WindowSlot.delegated ≠ .nonsecure := by decide
  have ended := Guard.zero_apply sound.backs index allowed (sound.mappable index)
    (sound.windows arena.monitor.cpu .delegated)
  refine ⟨_, Exercise.onMonitor_of_ok ended, does_page sound _ _ ?_ rfl id (fun _ => rfl)
    (fun _ => rfl) (fun _ _ => ?_) rfl⟩
  · intro cpu slot
    simp only [Windows.occupant?_put]
    split
    · rfl
    · exact sound.windows cpu slot
  · simp

/-- The content of a granule is found to be zero. -/
theorem does_inspect (sound : arena.Sound) (byte : UInt8) (zeroed : arena.Zeroed index) :
    ∃ after, (Call.inspect (region.address index)).perform byte arena = .ok () after ∧
      (Call.inspect (region.address index)).Does arena after := by
  have looked : Act.isZeroed (region.address index) arena.monitor = .ok true arena.monitor := by
    have zeroed : arena.monitor.memory.isZeroed (region.address index) = .ok true := zeroed
    rw [Act.isZeroed, zeroed]
  have ended : (Act.isZeroed (region.address index) >>= fun zeroed =>
      if zeroed then pure () else Act.fail (.notScrubbed (region.address index)))
        arena.monitor = .ok () arena.monitor := by
    rw [Act.bind_apply, looked]
    rfl
  refine ⟨arena, Exercise.onMonitor_of_ok ended, .of_content sound rfl rfl id (fun _ => rfl)
    (fun _ => rfl) (fun other isZeroed => ?_) rfl⟩
  unfold ZeroedOn at isZeroed
  split at isZeroed <;> exact isZeroed

/-- A granule is filled with a byte. -/
theorem does_refill (sound : arena.Sound) (byte : UInt8) :
    ∃ after, (Call.refill (region.address index)).perform byte arena = .ok () after ∧
      (Call.refill (region.address index)).Does arena after := by
  have ended : Act.fill (region.address index) byte arena.monitor =
      .ok () { arena.monitor with
        memory := arena.monitor.memory.setPage (sound.backs.page index) (Memory.page byte) } := by
    rw [Act.fill, sound.backs.fill_address]
  exact ⟨_, Exercise.onMonitor_of_ok ended, does_page sound _ _ sound.windows
    (region.index?_address index) id (fun _ => rfl) (fun _ => rfl) (fun _ never => never.elim) rfl⟩

/-- A reference is counted under the lock. -/
theorem does_raise (sound : arena.Sound) (byte : UInt8)
    (fits : (arena.get index).references.toNat + 1 < UInt64.size) :
    ∃ after, (Call.raise ⟨.entry index⟩).perform byte arena = .ok () after ∧
      (Call.raise ⟨.entry index⟩).Does arena after := by
  have raised : (arena.get index).raise 1 = _ := Descriptor.raise_eq _ _
  rw [UInt64.toNat_one, if_pos fits] at raised
  have ended := Guard.raise_apply ⟨.entry index⟩ 1 arena.monitor
  rw [arena.get_eq, raised] at ended
  refine ⟨_, Exercise.onMonitor_of_ok ended, does_count sound (.inl rfl) ?_⟩
  rw [toNat_add_one fits, references, if_pos rfl]

/-- A reference is given back under the lock. -/
theorem does_lower (sound : arena.Sound) (byte : UInt8)
    (present : 1 ≤ (arena.get index).references.toNat) :
    ∃ after, (Call.lower ⟨.entry index⟩).perform byte arena = .ok () after ∧
      (Call.lower ⟨.entry index⟩).Does arena after := by
  have lowered : (arena.get index).lower 1 = _ := Descriptor.lower_eq _ _
  rw [UInt64.toNat_one, if_pos present] at lowered
  have ended := Guard.lower_apply ⟨.entry index⟩ 1 arena.monitor
  rw [arena.get_eq, lowered] at ended
  refine ⟨_, Exercise.onMonitor_of_ok ended, does_count sound (.inr (.inl rfl)) ?_⟩
  rw [toNat_sub_one present, references, if_pos rfl]

/-- A reference is counted without the lock. -/
theorem does_gain (sound : arena.Sound) (byte : UInt8)
    (fits : (arena.get index).references.toNat + 1 < UInt64.size) :
    ∃ after, (Call.gain (.entry index)).perform byte arena = .ok () after ∧
      (Call.gain (.entry index)).Does arena after := by
  refine ⟨_, Exercise.onMonitor_of_ok (Target.gain_apply _ _),
    does_count sound (.inr (.inr (.inl rfl))) ((toNat_add_one fits).trans ?_)⟩
  rw [references, if_pos rfl]

/-- A reference is given back without the lock. -/
theorem does_drop (sound : arena.Sound) (byte : UInt8)
    (present : 1 ≤ (arena.get index).references.toNat) :
    ∃ after, (Call.drop (.entry index)).perform byte arena = .ok () after ∧
      (Call.drop (.entry index)).Does arena after := by
  have ended := Target.drop_apply (.entry index) arena.monitor
  rw [arena.get_eq, Descriptor.dropFault?_eq_none_iff.mpr present] at ended
  refine ⟨_, Exercise.onMonitor_of_ok ended,
    does_count sound (.inr (.inr (.inr rfl))) ((toNat_sub_one present).trans ?_)⟩
  rw [references, if_pos rfl]

/-- A call that is carried out is not broken off. -/
theorem performBefore_of_ok {later : List (Call region)} {byte : UInt8} {after : Arena region}
    (done : call.perform byte arena = .ok () after) :
    call.performBefore later byte arena = .ok () after := by
  rw [performBefore, done]

/-- A call that an arena is fit for is carried out. -/
theorem does (fits : call.Fits arena) (byte : UInt8) :
    ∃ after, call.perform byte arena = .ok () after ∧ call.Does arena after := by
  have sound := fits.toSound
  cases call with
  | scrub guard =>
    obtain ⟨index, about, -⟩ := fits.proper
    obtain rfl := guard_eq about
    exact does_scrub sound byte
  | inspect addr =>
    obtain ⟨index, about, -⟩ := fits.proper
    obtain rfl := region.index?_eq_some_iff.mp about
    exact does_inspect sound byte (fits.accepts index about)
  | refill addr =>
    obtain ⟨index, about, -⟩ := fits.proper
    obtain rfl := region.index?_eq_some_iff.mp about
    exact does_refill sound byte
  | transition guard next =>
    obtain ⟨index, about, -⟩ := fits.proper
    obtain rfl := guard_eq about
    exact does_giveBack sound (some next) rfl trivial (fun _ => rfl) rfl (fun _ => id) rfl
      (fits.unreferenced trivial index rfl)
  | raise guard =>
    obtain ⟨index, about, -⟩ := fits.proper
    obtain rfl := guard_eq about
    have counts := fits.counts index
    rw [Call.references, if_pos rfl] at counts
    exact does_raise sound byte (by omega)
  | lower guard =>
    obtain ⟨index, about, -⟩ := fits.proper
    obtain rfl := guard_eq about
    have counts := fits.counts index
    rw [Call.references, if_pos rfl] at counts
    exact does_lower sound byte (by omega)
  | release guard =>
    obtain ⟨index, about, -⟩ := fits.proper
    obtain rfl := guard_eq about
    exact does_giveBack sound none rfl trivial (fun _ => rfl) rfl (fun _ => id) rfl
      (fits.unreferenced trivial index rfl)
  | gain target =>
    obtain ⟨index, rfl, -⟩ := fits.proper
    have counts := fits.counts index
    rw [Call.references, if_pos rfl] at counts
    exact does_gain sound byte (by omega)
  | drop target =>
    obtain ⟨index, rfl, -⟩ := fits.proper
    have counts := fits.counts index
    rw [Call.references, if_pos rfl] at counts
    exact does_drop sound byte (by omega)
  | count outcome =>
    refine ⟨_, rfl, .of_content ⟨sound.backs, sound.windows, sound.mappable⟩ rfl rfl id (fun _ => rfl)
      (fun _ => rfl) (fun index zeroed => ?_) rfl⟩
    rwa [ZeroedOn, if_neg (by simp [Call.index?])] at zeroed

end Call

end Stress

end GranuleMonitor
