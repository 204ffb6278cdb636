import GranuleMonitor.Proofs.Locking.Unreferenced

/-!
# What is recorded of a request

A request that is turned down leaves one record, which says why. If several things are wrong with
it, the record names one of them only, and which one does not depend on chance. `Objection` is what
there is to say against a request for one granule, `UseObjection` adds its references, and
`SetObjection` is about a set of requests. Each of them holds of one record at most
(`SetObjection.unique`). `Act.Diagnoses` says that an operation leaves just that record if it does
not give what is asked for, and no record if it does. The main result, `rejections_diagnosed`, is
about all operations for callers that are not trusted.
-/

namespace GranuleMonitor

variable {region : Region} {α β : Type} {n : Nat}

/-- An operation records why it does not give what it is asked for. `Gives` are the results with
which it does, and `Objects` is the record that is called for if it does not. -/
structure Act.Diagnoses (action : Act region α) (Gives : α → Prop) (Objects : Notice → Prop)
    (monitor : Monitor region) : Prop where
  /-- A request that is granted leaves no record, and none is called for. -/
  granted : ∀ value, action.result monitor = .ok value → Gives value →
    (action.after monitor).log = monitor.log ∧ ∀ notice, ¬ Objects notice
  /-- A request that is not granted leaves one record at the lowest level, which is the one that is
  called for. -/
  refused : (∀ value, action.result monitor = .ok value → ¬ Gives value) →
    ∃ notice, (action.after monitor).log = monitor.log.push notice ∧ notice.level = .trace ∧
      ∀ other, Objects other ↔ other = notice

namespace Act.Diagnoses

variable {action : Act region α} {Gives : α → Prop} {Objects : Notice → Prop}
  {monitor last : Monitor region}

theorem of_granted {value : α} (ended : action monitor = .ok value last) (gives : Gives value)
    (silent : last.log = monitor.log) (nothing : ∀ notice, ¬ Objects notice) :
    action.Diagnoses Gives Objects monitor where
  granted _ _ _ := by
    rw [Act.after, ended]
    exact ⟨silent, nothing⟩
  refused refuses := by
    have result : action.result monitor = .ok value := by rw [Act.result, ended]
    exact absurd gives (refuses value result)

section Refused

variable {notice : Notice} (log : last.log = monitor.log.push notice)
  (level : notice.level = .trace) (objects : Objects notice)
  (unique : ∀ other, Objects other → other = notice)
include log level objects unique

theorem of_refused {value : α} (ended : action monitor = .ok value last) (refuses : ¬ Gives value) :
    action.Diagnoses Gives Objects monitor where
  granted other result gives := by
    rw [Act.result, ended] at result
    obtain rfl := Except.ok.inj result
    exact absurd gives refuses
  refused _ := by
    refine ⟨notice, ?_, level, fun other => ⟨unique other, ?_⟩⟩
    · rw [Act.after, ended, log]
    · rintro rfl
      exact objects

theorem of_halted {halt : Halt region} (ended : action monitor = .error halt last) :
    action.Diagnoses Gives Objects monitor where
  granted value result _ := by
    rw [Act.result, ended] at result
    contradiction
  refused _ := by
    refine ⟨notice, ?_, level, fun other => ⟨unique other, ?_⟩⟩
    · rw [Act.after, ended, log]
    · rintro rfl
      exact objects

end Refused

/-- A record that is called for is left. -/
theorem log_after (diagnoses : action.Diagnoses Gives Objects monitor) {notice : Notice}
    (objects : Objects notice) : (action.after monitor).log = monitor.log.push notice := by
  have refuses (value : α) (ended : action.result monitor = .ok value) : ¬ Gives value :=
    fun gives => (diagnoses.granted value ended gives).2 notice objects
  obtain ⟨recorded, log, -, calledFor⟩ := diagnoses.refused refuses
  rw [log, (calledFor notice).mp objects]

/-- An operation that hands its result on in another form leaves the same records. -/
theorem bind_pure {Gives' : β → Prop} {next : α → Act region β} (f : α → β)
    (hands : ∀ value, next value = pure (f value)) (same : ∀ value, Gives' (f value) ↔ Gives value)
    (diagnoses : action.Diagnoses Gives Objects monitor) :
    (action >>= next).Diagnoses Gives' Objects monitor := by
  have after : (action >>= next).after monitor = action.after monitor := by
    rw [Act.after_bind, Act.after]
    cases action monitor with
    | ok value last =>
      simp only [hands]
      rfl
    | error halt last => rfl
  have result (value : β) :
      (action >>= next).result monitor = .ok value ↔
        ∃ first, action.result monitor = .ok first ∧ f first = value := by
    rw [Act.result_bind, Act.result]
    cases action monitor with
    | ok first last => simp [hands, Act.result]
    | error halt last => simp
  constructor
  · intro value ended gives
    obtain ⟨first, firstEnded, rfl⟩ := (result value).mp ended
    rw [after]
    exact diagnoses.granted first firstEnded ((same first).mp gives)
  · intro refuses
    rw [after]
    apply diagnoses.refused
    intro first firstEnded gives
    exact refuses (f first) ((result _).mpr ⟨first, firstEnded, rfl⟩) ((same first).mpr gives)

end Act.Diagnoses

section Single

variable (monitor : Monitor region) (target : Target region) (addr : Address) (role : Role)

/-- The record that is called for if a descriptor does not have the role that is asked for. -/
def RoleObjection (notice : Notice) : Prop :=
  (monitor.store.get target).role ≠ role ∧
    notice = .roleMismatch (monitor.store.get target).role role

/-- The record that is called for if the granule at an address cannot be had in a role. -/
inductive Objection : Notice → Prop where
  /-- The address is not that of a granule. -/
  | unknown (unknown : region.index? addr = none) : Objection (.unknownAddress addr)
  /-- It is, but the granule has another role. -/
  | mismatch {index : Fin region.size} {notice : Notice} (known : region.index? addr = some index)
      (objects : RoleObjection monitor (.entry index) role notice) : Objection notice

/-- The record that is called for if the granule at an address cannot be had in a role and without
references. -/
inductive UseObjection : Notice → Prop where
  /-- The granule cannot be had in the role. -/
  | lookup {notice : Notice} (objects : Objection monitor addr role notice) : UseObjection notice
  /-- It can, but somebody refers to it. -/
  | referenced {index : Fin region.size} (finds : monitor.Finds addr role index)
      (referenced : (monitor.store.get (.entry index)).references ≠ 0) :
      UseObjection (.stillReferenced addr (monitor.store.get (.entry index)).references)

variable {monitor target addr role}

theorem RoleObjection.unique {notice : Notice} (objects : RoleObjection monitor target role notice)
    (other : Notice) (otherObjects : RoleObjection monitor target role other) : other = notice :=
  otherObjects.2.trans objects.2.symm

theorem Objection.unique {notice : Notice} (objects : Objection monitor addr role notice)
    (other : Notice) (otherObjects : Objection monitor addr role other) : other = notice := by
  cases objects with
  | unknown unknown =>
    cases otherObjects with
    | unknown => rfl
    | mismatch known =>
      rw [unknown] at known
      contradiction
  | mismatch known objects =>
    cases otherObjects with
    | unknown unknown =>
      rw [unknown] at known
      contradiction
    | mismatch otherKnown otherObjects =>
      obtain rfl := Option.some.inj (known.symm.trans otherKnown)
      exact objects.unique other otherObjects

/-- A granule that there is something to say against is missed. -/
theorem Objection.misses {notice : Notice} (objects : Objection monitor addr role notice) :
    monitor.Misses addr role := by
  cases objects with
  | unknown unknown => exact .inl unknown
  | mismatch known objects => exact .inr ⟨_, known, objects.1⟩

theorem UseObjection.unique {notice : Notice} (objects : UseObjection monitor addr role notice)
    (other : Notice) (otherObjects : UseObjection monitor addr role other) : other = notice := by
  cases objects with
  | lookup objects =>
    cases otherObjects with
    | lookup otherObjects => exact objects.unique other otherObjects
    | referenced finds => exact absurd objects.misses finds.not_misses
  | referenced finds =>
    cases otherObjects with
    | lookup otherObjects => exact absurd otherObjects.misses finds.not_misses
    | referenced otherFinds =>
      obtain rfl := Option.some.inj (finds.known.symm.trans otherFinds.known)
      rfl

variable (target role) in
/-- A descriptor in another role is recorded. -/
theorem Target.lockOnMatch_diagnoses (free : (monitor.store.get target).locked = false) :
    (target.lockOnMatch role).Diagnoses (·.isSome) (RoleObjection monitor target role)
      monitor := by
  have ended := target.lockOnMatch_apply role monitor
  rw [Descriptor.attempt_of_free free] at ended
  by_cases same : (monitor.store.get target).role = role
  · rw [if_pos same] at ended
    refine .of_granted ended rfl rfl ?_
    rintro notice ⟨differs, -⟩
    exact differs same
  · rw [if_neg same] at ended
    have objects : RoleObjection monitor target role
        (.roleMismatch (monitor.store.get target).role role) := ⟨same, rfl⟩
    exact .of_refused rfl rfl objects objects.unique ended (by simp)

variable (free : monitor.Free addr)
include free

/-- A granule that is missed leaves the record that is called for. -/
theorem lockAt_of_misses (misses : monitor.Misses addr role) :
    ∃ notice, notice.level = .trace ∧ Objection monitor addr role notice ∧
      lockAt addr role monitor =
        .ok (.error .input) { monitor with log := monitor.log.push notice } := by
  rcases misses with unknown | ⟨index, known, differs⟩
  · exact ⟨.unknownAddress addr, rfl, .unknown unknown,
      lockAt_of_nowhere (target_of_unknown unknown)⟩
  · have ended : lockAt addr role monitor = _ := lockAt_apply (target_of_known known)
    rw [Descriptor.attempt_of_free (free index known), if_neg differs] at ended
    exact ⟨_, rfl, .mismatch known ⟨differs, rfl⟩, ended⟩

variable (role) in
/-- An address that is not that of a granule is recorded, or else the role of the granule. -/
theorem lockAt_diagnoses :
    (lockAt addr role).Diagnoses (∃ guard, · = .ok guard) (Objection monitor addr role)
      monitor := by
  by_cases misses : monitor.Misses addr role
  · obtain ⟨notice, level, objects, ended⟩ := lockAt_of_misses free misses
    exact .of_refused rfl level objects objects.unique ended (by simp)
  · have nothing (notice : Notice) : ¬ Objection monitor addr role notice :=
      fun objects => misses objects.misses
    rw [Monitor.misses_iff, not_forall_not] at misses
    obtain ⟨index, finds⟩ := misses
    have ended : lockAt addr role monitor = _ := lockAt_apply (target_of_known finds.known)
    rw [Descriptor.attempt_of_free (free index finds.known), if_pos finds.role] at ended
    exact .of_granted ended ⟨_, rfl⟩ rfl nothing

variable (role) in
/-- References are recorded of a granule that is found. Whether its lock can be given back in order
makes no difference to that. -/
theorem lockUnreferenced_diagnoses :
    (lockUnreferenced addr role).Diagnoses (∃ guard, · = .ok guard)
      (UseObjection monitor addr role) monitor := by
  by_cases misses : monitor.Misses addr role
  · obtain ⟨notice, level, lookup, ended⟩ := lockAt_of_misses free misses
    have objects : UseObjection monitor addr role notice := .lookup lookup
    have handedOn : lockUnreferenced addr role monitor = _ := Act.bind_apply _ _ _
    rw [ended] at handedOn
    exact .of_refused rfl level objects objects.unique handedOn (by simp)
  · rw [Monitor.misses_iff, not_forall_not] at misses
    obtain ⟨index, finds⟩ := misses
    have ended := lockUnreferenced_of_finds free finds
    by_cases unreferenced : (monitor.store.get (.entry index)).references = 0
    · rw [if_pos unreferenced] at ended
      apply Act.Diagnoses.of_granted ended ⟨_, rfl⟩ rfl
      rintro notice (objects | ⟨otherFinds, referenced⟩)
      · exact finds.not_misses objects.misses
      · obtain rfl := Option.some.inj (finds.known.symm.trans otherFinds.known)
        exact referenced unreferenced
    · rw [if_neg unreferenced] at ended
      have objects : UseObjection monitor addr role
          (.stillReferenced addr (monitor.store.get (.entry index)).references) :=
        .referenced finds unreferenced
      dsimp only at ended
      split at ended
      · exact .of_halted rfl rfl objects objects.unique ended
      · exact .of_refused rfl rfl objects objects.unique ended (by simp)

end Single

section Several

/-- An address of a set that could not be looked up is the first one that is not that of a
granule. -/
theorem exists_first_unknown {requests : Vector Request n} {addr : Address}
    (failed : resolveAll region requests = .error addr) :
    ∃ position : Fin n, addr = (requests.get position).addr ∧
      region.index? (requests.get position).addr = none ∧
      ∀ earlier < position, region.index? (requests.get earlier).addr ≠ none := by
  unfold resolveAll at failed
  split at failed
  · next request unknown =>
    obtain rfl := Except.error.inj failed
    obtain ⟨isUnknown, index, within, rfl, known⟩ := List.find?_eq_some_iff_getElem.mp unknown
    rw [Vector.length_toList] at within
    refine ⟨⟨index, within⟩, rfl, by simpa [vectorGet_eq] using isUnknown, ?_⟩
    intro earlier before
    simpa [vectorGet_eq, Option.isSome_iff_ne_none] using known earlier before
  · contradiction

variable (monitor : Monitor region) (requests : Vector Request n)

/-- The record that is called for if the granules of a set cannot all be had. -/
inductive SetObjection : Notice → Prop where
  /-- An address is not that of a granule. The first one in the order of the requests counts. -/
  | unknown (position : Fin n) (unknown : region.index? (requests.get position).addr = none)
      (first : ∀ earlier < position, region.index? (requests.get earlier).addr ≠ none) :
      SetObjection (.unknownInSet (requests.get position).addr)
  /-- All addresses are, but two of them are equal. -/
  | duplicate {position other : Fin n}
      (known : ∀ position : Fin n, region.index? (requests.get position).addr ≠ none)
      (differs : position ≠ other)
      (same : (requests.get position).addr = (requests.get other).addr) :
      SetObjection .duplicateInSet
  /-- All addresses are, and they are different, but a granule has another role. The one at the
  lowest address counts. -/
  | mismatch {granule : Fin n → Fin region.size} (leads : Leads requests granule) (position : Fin n)
      (mismatches : Mismatches monitor requests granule position)
      (lowest : ∀ other, Mismatches monitor requests granule other →
        (requests.get position).addr ≤ (requests.get other).addr) :
      SetObjection (.roleMismatch (requested monitor granule position).role
        (requests.get position).role)

variable {monitor requests} {granule : Fin n → Fin region.size}

namespace Leads

variable (leads : Leads requests granule)
include leads

theorem index?_ne_none (position : Fin n) : region.index? (requests.get position).addr ≠ none := by
  rw [leads.known]
  exact Option.some_ne_none _

theorem addr_injective {position other : Fin n}
    (same : (requests.get position).addr = (requests.get other).addr) : position = other := by
  apply leads.different
  have known := leads.known position
  rw [same, leads.known] at known
  exact (Option.some.inj known).symm

theorem granule_unique {granule' : Fin n → Fin region.size} (others : Leads requests granule') :
    granule' = granule := by
  funext position
  exact Option.some.inj ((others.known position).symm.trans (leads.known position))

/-- The first granule in the locking order that has another role than requested is the one at the
lowest address. -/
theorem lowest_of_split {run rest : List (Fin n)} {first : Fin n}
    (split : lockingOrder (claimsOn requests granule) = run ++ first :: rest)
    (matching : ∀ position ∈ run, ¬ Mismatches monitor requests granule position)
    (other : Fin n) (mismatches : Mismatches monitor requests granule other) :
    (requests.get first).addr ≤ (requests.get other).addr := by
  have inOrder : other ∈ run ++ first :: rest := split ▸ mem_lockingOrder other
  have strict := split ▸ lockingOrder_strict leads.distinct
  rcases List.mem_append.mp inOrder with inRun | behind
  · exact absurd mismatches (matching other inRun)
  · rcases List.mem_cons.mp behind with rfl | inRest
    · exact UInt64.le_refl _
    · have less :=
        (List.pairwise_cons.mp (List.pairwise_append.mp strict).2.1).1 other inRest
      rw [get_claimsOn, get_claimsOn, ← Region.address_lt_address_iff, ← leads.addr_eq,
        ← leads.addr_eq] at less
      exact UInt64.le_of_lt less

end Leads

/-- Of the things that are wrong with a set, one is recorded. -/
theorem SetObjection.unique {notice : Notice} (objects : SetObjection monitor requests notice)
    (other : Notice) (otherObjects : SetObjection monitor requests other) : other = notice := by
  cases objects with
  | unknown position unknown first =>
    cases otherObjects with
    | unknown position' unknown' first' =>
      rcases lt_trichotomy position position' with before | rfl | behind
      · exact absurd unknown (first' position before)
      · rfl
      · exact absurd unknown' (first position' behind)
    | duplicate known => exact absurd unknown (known position)
    | mismatch leads => exact absurd unknown (leads.index?_ne_none position)
  | duplicate known differs same =>
    cases otherObjects with
    | unknown position unknown => exact absurd unknown (known position)
    | duplicate => rfl
    | mismatch leads => exact absurd (leads.addr_injective same) differs
  | mismatch leads position mismatches lowest =>
    cases otherObjects with
    | unknown position unknown => exact absurd unknown (leads.index?_ne_none position)
    | duplicate _ differs same => exact absurd (leads.addr_injective same) differs
    | mismatch leads' position' mismatches' lowest' =>
      obtain rfl := leads.granule_unique leads'
      obtain rfl := leads.addr_injective
        (UInt64.le_antisymm (lowest _ mismatches') (lowest' _ mismatches))
      rfl

/-- Nothing is to be said against a set that can be had. -/
theorem not_setObjection (leads : Leads requests granule)
    (matching : ∀ position, ¬ Mismatches monitor requests granule position) (notice : Notice) :
    ¬ SetObjection monitor requests notice := by
  intro objects
  cases objects with
  | unknown position unknown => exact leads.index?_ne_none position unknown
  | duplicate _ differs same => exact differs (leads.addr_injective same)
  | mismatch leads' position mismatches =>
    obtain rfl := leads.granule_unique leads'
    exact matching position mismatches

/-- A set of different granules is recorded at the first one in locking order that has another
role. Whether the locks before it can be given back in order makes no difference to that. -/
theorem lockSet_diagnoses_of_leads (leads : Leads requests granule)
    (free : ∀ position, (requested monitor granule position).locked = false) :
    (lockSet requests).Diagnoses (·.isSome) (SetObjection monitor requests) monitor := by
  rcases obtainable_or_obstacle (claimsOn requests granule) monitor.store
    (lockingOrder (claimsOn requests granule)) with all | ⟨run, first, rest, split, taken, obstacle⟩
  · have obtainable (position : Fin n) := all position (mem_lockingOrder position)
    have ended := lockClaims_of_obtainable leads.distinct obtainable
    rw [← leads.lockSet_eq] at ended
    refine .of_granted ended rfl rfl (not_setObjection leads ?_)
    intro position
    exact (obtainable_claimsOn_iff (free position)).mp (obtainable position)
  · have matching (earlier : Fin n) (inRun : earlier ∈ run) :=
      (obtainable_claimsOn_iff (free earlier)).mp (taken earlier inRun)
    rw [obtainable_claimsOn_iff (free first), Classical.not_not] at obstacle
    have ended := lockClaims_of_mismatch leads.distinct split taken
      (by rw [get_target_claimsOn]; exact free first)
      (by rw [get_target_claimsOn, Leads.get_claimsOn]; exact obstacle)
    simp only [← leads.lockSet_eq, Leads.get_claimsOn] at ended
    have objects := SetObjection.mismatch leads first obstacle (leads.lowest_of_split split matching)
    split at ended
    · exact .of_halted rfl rfl objects objects.unique ended
    · exact .of_refused rfl rfl objects objects.unique ended (by simp)

/-- What speaks against a set is recorded: an unknown address before one that is named twice, and
that before a granule in another role. -/
theorem lockSet_diagnoses (free : ∀ position, monitor.Free (requests.get position).addr) :
    (lockSet requests).Diagnoses (·.isSome) (SetObjection monitor requests) monitor := by
  cases resolved : resolveAll region requests with
  | error addr =>
    obtain ⟨position, rfl, unknown, first⟩ := exists_first_unknown resolved
    have objects : SetObjection monitor requests (.unknownInSet (requests.get position).addr) :=
      .unknown position unknown first
    have ended : lockSet requests monitor = .ok none { monitor with
        log := monitor.log.push (.unknownInSet (requests.get position).addr) } := by
      simp [lockSet, resolved]
    exact .of_refused rfl rfl objects objects.unique ended (by simp)
  | ok claims =>
    have known (position : Fin n) := (resolveAll_eq_ok_iff.mp resolved position).1
    by_cases distinct : Distinct claims
    · have leads : Leads requests fun position => (claims.get position).index :=
        ⟨known, distinct_iff_injective.mp distinct⟩
      exact lockSet_diagnoses_of_leads leads fun position => free position _ (known position)
    · have repeated : repeatsNext claims (lockingOrder claims) = true := by
        rwa [← Bool.not_eq_false, repeatsNext_lockingOrder_iff]
      rw [distinct_iff_injective, Function.not_injective_iff] at distinct
      obtain ⟨position, other, same, differs⟩ := distinct
      have sameAddr : (requests.get position).addr = (requests.get other).addr := by
        rw [region.index?_eq_some_iff.mp (known position), same,
          region.index?_eq_some_iff.mp (known other)]
      have objects : SetObjection monitor requests .duplicateInSet :=
        .duplicate (fun position => by simp [known]) differs sameAddr
      have ended : lockSet requests monitor =
          .ok none { monitor with log := monitor.log.push .duplicateInSet } := by
        simp [lockSet, resolved, repeated]
      exact .of_refused rfl rfl objects objects.unique ended (by simp)

/-- A pair is recorded as the set of both requests is. -/
theorem lockPair_diagnoses {first second : Request} (free : monitor.Free first.addr)
    (otherFree : monitor.Free second.addr) :
    (lockPair first second).Diagnoses (·.isSome) (SetObjection monitor #v[first, second])
      monitor := by
  have bothFree : ∀ position : Fin 2,
      monitor.Free ((#v[first, second] : Vector Request 2).get position).addr :=
    Fin.forall_fin_two.mpr ⟨free, otherFree⟩
  apply (lockSet_diagnoses bothFree).bind_pure fun guards? =>
    guards?.map fun guards => (guards[0], guards[1])
  · rintro (_ | guards) <;> rfl
  · rintro (_ | guards) <;> simp

end Several

/-- An operation that is asked for granules which nobody has locked leaves no record if it gives
them, and otherwise one record of the lowest level. For one granule, an address that is not that of
a granule is recorded before a wrong role, and that before references. For a set, the first address
in the order of the requests that is not that of a granule is recorded before one that is named
twice, and that before the granule at the lowest address that has a wrong role. -/
theorem rejections_diagnosed (monitor : Monitor region) :
    (∀ (target : Target region) (role : Role), (monitor.store.get target).locked = false →
      (target.lockOnMatch role).Diagnoses (·.isSome) (RoleObjection monitor target role)
        monitor) ∧
    (∀ (addr : Address) (role : Role), monitor.Free addr →
      (lockAt addr role).Diagnoses (∃ guard, · = .ok guard) (Objection monitor addr role)
          monitor ∧
        (lockUnreferenced addr role).Diagnoses (∃ guard, · = .ok guard)
          (UseObjection monitor addr role) monitor) ∧
    (∀ first second : Request, monitor.Free first.addr → monitor.Free second.addr →
      (lockPair first second).Diagnoses (·.isSome) (SetObjection monitor #v[first, second])
        monitor) ∧
    (∀ {n : Nat} (requests : Vector Request n),
      (∀ position, monitor.Free (requests.get position).addr) →
      (lockSet requests).Diagnoses (·.isSome) (SetObjection monitor requests) monitor) ∧
    (∀ addr, (Notice.unknownInSet addr).record =
      "TRACE Lock granules: invalid address " ++ hexText addr) ∧
    Notice.duplicateInSet.record = "TRACE Lock granules: duplicate address" ∧
    ∀ actual expected : Role, (Notice.roleMismatch actual expected).record =
      "TRACE Lock: state " ++ actual.name ++ " does not match " ++ expected.name := by
  refine ⟨?_, ?_, ?_, ?_, ?_, ?_, ?_⟩
  · exact fun target role free => target.lockOnMatch_diagnoses role free
  · exact fun addr role free => ⟨lockAt_diagnoses role free, lockUnreferenced_diagnoses role free⟩
  · exact fun first second free otherFree => lockPair_diagnoses free otherFree
  · exact fun requests free => lockSet_diagnoses free
  · intro addr
    rfl
  · rfl
  · intro actual expected
    rfl

/-- Asks for a granule twice and for two granules that do not exist, all of them in wrong roles. -/
def hopeless : Vector Request 4 :=
  #v[⟨0x3000, .data⟩, ⟨0x9000, .realm⟩, ⟨0x3000, .data⟩, ⟨0x1800, .realm⟩]

/-- Of the two unknown addresses the one that is named first is recorded, although the other one is
lower. A wrong role is recorded also if a lock that was taken before cannot be given back in
order. -/
theorem hopeless_diagnosed :
    (∀ position, referencedMiddle.Free (hopeless.get position).addr) ∧
      ((lockSet hopeless).after referencedMiddle).log =
        referencedMiddle.log.push (.unknownInSet 0x9000) ∧
      ((lockSet topDown).after referencedMiddle).log =
        referencedMiddle.log.push (.roleMismatch .nonsecure .data) := by
  have unlocked : ∀ index, (referencedMiddle.store.get (.entry index)).locked = false := by
    decide
  have free (addr : Address) : referencedMiddle.Free addr := fun index _ => unlocked index
  obtain ⟨-, -, -, sets, -⟩ := rejections_diagnosed referencedMiddle
  have unknown : SetObjection referencedMiddle hopeless (.unknownInSet 0x9000) :=
    .unknown 1 (by decide) (by decide)
  have leads : Leads topDown downwards := ⟨by decide, Fin.rev_injective⟩
  have mismatch : SetObjection referencedMiddle topDown (.roleMismatch .nonsecure .data) :=
    .mismatch leads 0 (by decide) (by decide)
  exact ⟨fun _ => free _, (sets hopeless fun _ => free _).log_after unknown,
    (sets topDown fun _ => free _).log_after mismatch⟩

end GranuleMonitor
