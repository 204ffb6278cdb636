import GranuleMonitor.Acquisition
import GranuleMonitor.Proofs.Locking.AllOrNothing

/-!
# What a locking operation may do

Every locking operation, on every monitor, ends in one of three ways, which `Seizes` describes. It
takes free locks and gives their guards; or it ends without guards, whether refused or with a fault,
and the store is as before; or it comes to a lock that somebody holds. `Acquisition.seizes` says so
of all operations. An operation for untrusted callers faults only if a granule is unlocked that
should not have been left like this.
-/

namespace GranuleMonitor

variable {region : Region} {α β : Type}

/-- What a locking action may do to a monitor. `named` are the descriptors that it is about, and
`blamed` the faults that it may stop with. -/
structure Seizes (action : Act region α) (guardsOf : α → List (Guard region))
    (named : Target region → Prop) (blamed : Fault → Prop) (monitor : Monitor region) : Prop where
  granted : ∀ {value last}, action monitor = .ok value last →
    (guardsOf value).Nodup ∧
      (∀ guard ∈ guardsOf value,
        (monitor.store.get guard.target).locked = false ∧ named guard.target) ∧
      last.store = monitor.store.adjust .lock (guardsOf value)
  faulted : ∀ {cause last}, action monitor = .error (.fault cause) last →
    last.store = monitor.store ∧ blamed cause
  waited : ∀ {target last}, action monitor = .error (.waiting target) last →
    (monitor.store.get target).locked = true ∧ named target

namespace Seizes

variable {action : Act region α} {guardsOf : α → List (Guard region)}
  {named : Target region → Prop} {blamed : Fault → Prop} {monitor last : Monitor region}

theorem of_ok {value : α} (ended : action monitor = .ok value last)
    (nodup : (guardsOf value).Nodup)
    (free : ∀ guard ∈ guardsOf value,
      (monitor.store.get guard.target).locked = false ∧ named guard.target)
    (store : last.store = monitor.store.adjust .lock (guardsOf value)) :
    Seizes action guardsOf named blamed monitor := by
  constructor <;> intro _ _ other <;> rw [ended] at other <;> cases other
  exact ⟨nodup, free, store⟩

theorem of_fault {cause : Fault} (ended : action monitor = .error (.fault cause) last)
    (store : last.store = monitor.store) (blame : blamed cause) :
    Seizes action guardsOf named blamed monitor := by
  constructor <;> intro _ _ other <;> rw [ended] at other <;> cases other
  exact ⟨store, blame⟩

theorem of_waiting {target : Target region}
    (ended : action monitor = .error (.waiting target) last)
    (held : (monitor.store.get target).locked = true) (name : named target) :
    Seizes action guardsOf named blamed monitor := by
  constructor <;> intro _ _ other <;> rw [ended] at other <;> cases other
  exact ⟨held, name⟩

/-- An action that gives nothing leaves the store as it is. -/
theorem of_refusal {value : α} (ended : action monitor = .ok value last)
    (nothing : guardsOf value = []) (store : last.store = monitor.store) :
    Seizes action guardsOf named blamed monitor :=
  of_ok ended (by simp [nothing]) (by simp [nothing]) (by simp [nothing, store])

/-- The guards may be handed on in another form. -/
theorem bind_pure {guardsOf' : β → List (Guard region)} {next : α → Act region β} (f : α → β)
    (hands : ∀ value, next value = pure (f value))
    (same : ∀ value, guardsOf' (f value) = guardsOf value)
    (seizes : Seizes action guardsOf named blamed monitor) :
    Seizes (action >>= next) guardsOf' named blamed monitor := by
  cases ended : action monitor with
  | ok value last =>
    obtain ⟨nodup, free, store⟩ := seizes.granted ended
    have handedOn : (action >>= next) monitor = .ok (f value) last := by
      simp [Act.bind_apply, ended, hands]
    rw [← same] at nodup free store
    exact of_ok handedOn nodup free store
  | error halt last =>
    cases halt with
    | fault cause =>
      obtain ⟨store, blame⟩ := seizes.faulted ended
      exact of_fault (by rw [Act.bind_apply, ended]) store blame
    | waiting target =>
      obtain ⟨held, name⟩ := seizes.waited ended
      exact of_waiting (by rw [Act.bind_apply, ended]) held name

/-- An action may be said to name more descriptors and to stop with more faults. -/
theorem weaken {named' : Target region → Prop} {blamed' : Fault → Prop}
    (seizes : Seizes action guardsOf named blamed monitor)
    (names : ∀ target, named target → named' target)
    (blames : ∀ cause, blamed cause → blamed' cause) :
    Seizes action guardsOf named' blamed' monitor where
  granted ended := by
    obtain ⟨nodup, free, store⟩ := seizes.granted ended
    exact ⟨nodup, fun guard member => (free guard member).imp_right (names _), store⟩
  faulted ended := ⟨(seizes.faulted ended).1, blames _ (seizes.faulted ended).2⟩
  waited ended := ⟨(seizes.waited ended).1, names _ (seizes.waited ended).2⟩

end Seizes

/-- A granule is unlocked that has references although it is delegated. -/
def Neglected (monitor : Monitor region) (cause : Fault) : Prop :=
  ∃ index : Fin region.size, (monitor.store.get (.entry index)).locked = false ∧
    (monitor.store.get (.entry index)).releaseFault? = some cause

section Single

variable (monitor : Monitor region) (expected : Role)

theorem Target.lockOnMatch_seizes (target : Target region) :
    Seizes (target.lockOnMatch expected) Option.toList (· = target) (fun _ => False) monitor := by
  have ended := target.lockOnMatch_apply expected monitor
  cases attempt : (monitor.store.get target).attempt expected with
  | held =>
    rw [attempt] at ended
    exact .of_waiting ended (Descriptor.attempt_eq_held_iff.mp attempt) rfl
  | mismatch actual =>
    rw [attempt] at ended
    exact .of_refusal ended rfl rfl
  | taken =>
    rw [attempt] at ended
    have free := (Descriptor.attempt_eq_taken_iff.mp attempt).1
    exact .of_ok ended (by simp) (by simpa using free) rfl

theorem Target.lock_seizes (target : Target region) :
    Seizes (target.lock expected) (fun guard => [guard]) (· = target) (fun _ => True) monitor := by
  have ended := target.lock_apply expected monitor
  cases attempt : (monitor.store.get target).attempt expected with
  | held =>
    rw [attempt] at ended
    exact .of_waiting ended (Descriptor.attempt_eq_held_iff.mp attempt) rfl
  | mismatch actual =>
    rw [attempt] at ended
    exact .of_fault ended rfl trivial
  | taken =>
    rw [attempt] at ended
    have free := (Descriptor.attempt_eq_taken_iff.mp attempt).1
    exact .of_ok ended (by simp) (by simpa using free) rfl

/-- Locking by an untrusted address does not fault. -/
theorem lockAt_seizes (addr : Address) :
    Seizes (lockAt addr expected : Act region (Except Refusal (Guard region)))
      (fun result => (Acquired.ofExcept result).toList)
      (fun target => region.entryAt? addr = some target) (fun _ => False) monitor := by
  unfold lockAt
  cases found : region.entryAt? addr with
  | none => exact .of_refusal rfl rfl rfl
  | some target =>
    refine ((target.lockOnMatch_seizes monitor expected).bind_pure
      (fun guard? => guard?.elim (.error .input) .ok) ?_ ?_).weaken ?_ ?_
    · rintro (_ | guard) <;> rfl
    · rintro (_ | guard) <;> rfl
    · rintro _ rfl
      rfl
    · exact fun _ never => never

/-- A free lock that was taken and given back leaves the store as it was. -/
theorem unlock_of_seized {store : Store region} {guard : Guard region}
    (free : (store.get guard.target).locked = false) :
    (store.adjust .lock [guard]).set guard.target
      ((store.adjust .lock [guard]).get guard.target).unlock = store := by
  rw [Store.adjust_cons, Store.adjust_nil, Store.get_set_self, Store.set_set,
    Descriptor.unlock_lock free, Store.set_get_self]

/-- A granule that was locked by its address is kept if it has no references, and otherwise released
after a record. -/
theorem lockUnreferenced_of_locked {addr : Address} {guard : Guard region} {last : Monitor region}
    (ended : lockAt addr expected monitor = .ok (.ok guard) last) :
    lockUnreferenced addr expected monitor =
      if (last.store.get guard.target).references = 0 then .ok (.ok guard) last
      else
        let last' := { last with
          store := last.store.set guard.target (last.store.get guard.target).unlock
          log := last.log.push
            (.stillReferenced addr (last.store.get guard.target).references) }
        match (last.store.get guard.target).releaseFault? with
        | some cause => .error (.fault cause) last'
        | none => .ok (.error .inUse) last' := by
  by_cases unreferenced : (last.store.get guard.target).references = 0
  · simp [lockUnreferenced, ended, Guard.references, Target.references, unreferenced]
  · simp only [lockUnreferenced, Act.bind_apply, ended, Guard.references, Target.references,
      Act.read_apply, Act.pure_apply, ne_eq, unreferenced, not_false_eq_true, if_true, if_false,
      Act.note_apply, Guard.release_apply, Act.failIf_apply]
    cases (last.store.get guard.target).releaseFault? <;> rfl

/-- Locking an unreferenced granule gives the lock back if there are references after all. -/
theorem lockUnreferenced_seizes (addr : Address) :
    Seizes (lockUnreferenced addr expected : Act region (Except Refusal (Guard region)))
      (fun result => (Acquired.ofExcept result).toList)
      (fun target => region.entryAt? addr = some target) (Neglected monitor) monitor := by
  have lookup := lockAt_seizes monitor expected addr
  cases ended : lockAt addr expected monitor with
  | error halt last =>
    cases halt with
    | fault cause => exact (lookup.faulted ended).2.elim
    | waiting target =>
      obtain ⟨held, name⟩ := lookup.waited ended
      exact .of_waiting (by rw [lockUnreferenced, Act.bind_apply, ended]) held name
  | ok result last =>
    obtain ⟨-, free, store⟩ := lookup.granted ended
    cases result with
    | error reason =>
      exact .of_refusal (by rw [lockUnreferenced, Act.bind_apply, ended]; rfl) rfl store
    | ok guard =>
      obtain ⟨guardFree, name⟩ := free guard (by simp [Acquired.ofExcept, Acquired.toList])
      have evaluated := lockUnreferenced_of_locked monitor expected ended
      split at evaluated
      · exact .of_ok evaluated (List.nodup_singleton _) (by simpa using free) store
      · have restored : last.store.set guard.target (last.store.get guard.target).unlock =
            monitor.store := by
          rw [store]
          exact unlock_of_seized guardFree
        have sameFault : (last.store.get guard.target).releaseFault? =
            (monitor.store.get guard.target).releaseFault? := by
          rw [store]
          exact Store.releaseFault?_get_adjust_lock _ _ _
        rw [sameFault] at evaluated
        obtain ⟨index, -, entry⟩ := Option.map_eq_some_iff.mp name
        cases fault : (monitor.store.get guard.target).releaseFault? with
        | none =>
          rw [fault] at evaluated
          exact .of_refusal evaluated rfl restored
        | some cause =>
          rw [fault] at evaluated
          rw [← entry] at guardFree fault
          exact .of_fault evaluated restored ⟨index, guardFree, fault⟩

end Single

section Several

variable {n : Nat} (monitor : Monitor region)

/-- The guards that a locking operation for a set gives. -/
def setGuards : Option (Vector (Guard region) n) → List (Guard region)
  | some guards => guards.toList
  | none => []

theorem nodup_guards {claims : Vector (Claim region) n} (distinct : Distinct claims) :
    (claims.map Claim.guard).toList.Nodup := by
  have injective : Function.Injective fun index : Fin region.size =>
      (⟨.entry index⟩ : Guard region) := by
    intro index other same
    simpa using same
  have nodup := distinct.map injective
  rw [List.map_map] at nodup
  rw [Vector.toList_map]
  exact nodup

/-- Locking the granules of different claims takes all locks or none. -/
theorem lockClaims_seizes {claims : Vector (Claim region) n} (distinct : Distinct claims) :
    Seizes (lockClaims claims) setGuards
      (fun target => ∃ position, (claims.get position).target = target)
      (Neglected monitor) monitor := by
  rcases obtainable_or_obstacle claims monitor.store (lockingOrder claims) with
    all | ⟨run, first, rest, split, taken, obstacle⟩
  · have obtainable position := all position (mem_lockingOrder position)
    refine .of_ok (lockClaims_of_obtainable distinct obtainable) (nodup_guards distinct) ?_ rfl
    intro guard member
    simp only [setGuards, vectorToList_eq_map, List.mem_map] at member
    obtain ⟨position, -, rfl⟩ := member
    have free := (obtainable_iff.mp (obtainable position)).1
    simp only [vectorGet_eq, Vector.getElem_map]
    exact ⟨free, position, rfl⟩
  · cases locked : (monitor.store.get (claims.get first).target).locked with
    | true =>
      exact .of_waiting (lockClaims_of_held distinct split taken locked) locked ⟨first, rfl⟩
    | false =>
      have differs : (monitor.store.get (claims.get first).target).role ≠ (claims.get first).role :=
        fun same => obstacle (obtainable_iff.mpr ⟨locked, same⟩)
      have evaluated := lockClaims_of_mismatch distinct split taken locked differs
      cases faults : ((List.finRange n).filter (· ∈ run)).findSome? fun earlier =>
          (monitor.store.get (claims.get earlier).target).releaseFault? with
      | none =>
        rw [faults] at evaluated
        exact .of_refusal evaluated rfl rfl
      | some cause =>
        rw [faults] at evaluated
        obtain ⟨earlier, member, fault⟩ := List.exists_of_findSome?_eq_some faults
        have free := (obtainable_iff.mp (taken earlier (by simpa using member))).1
        exact .of_fault evaluated rfl ⟨(claims.get earlier).index, free, fault⟩

/-- Locking a set takes all locks or none. -/
theorem lockSet_seizes (requests : Vector Request n) :
    Seizes (lockSet requests) setGuards
      (fun target => ∃ claims : Vector (Claim region) n,
        resolveAll region requests = .ok claims ∧ Distinct claims ∧
          ∃ position, (claims.get position).target = target)
      (Neglected monitor) monitor := by
  cases resolved : resolveAll region requests with
  | error addr =>
    have ended : lockSet requests monitor =
        .ok none { monitor with log := monitor.log.push (.unknownInSet addr) } := by
      simp [lockSet, resolved]
    exact .of_refusal ended rfl rfl
  | ok claims =>
    by_cases distinct : Distinct claims
    · have sameAction : lockSet requests = lockClaims claims :=
        funext fun _ => lockSet_of_distinct resolved distinct
      rw [sameAction]
      refine (lockClaims_seizes monitor distinct).weaken ?_ fun _ blame => blame
      exact fun _ named => ⟨claims, rfl, distinct, named⟩
    · have repeated : repeatsNext claims (lockingOrder claims) = true := by
        rw [← Bool.not_eq_false, repeatsNext_lockingOrder_iff]
        exact distinct
      have ended : lockSet requests monitor =
          .ok none { monitor with log := monitor.log.push .duplicateInSet } := by
        simp [lockSet, resolved, repeated]
      exact .of_refusal ended rfl rfl

/-- The guards that a locking operation for a pair gives. -/
def pairGuards : Option (Guard region × Guard region) → List (Guard region)
  | some (one, other) => [one, other]
  | none => []

/-- Locking a pair takes both locks or none. -/
theorem lockPair_seizes (first second : Request) :
    Seizes (lockPair first second) pairGuards
      (fun target => ∃ claims : Vector (Claim region) 2,
        resolveAll region #v[first, second] = .ok claims ∧ Distinct claims ∧
          ∃ position, (claims.get position).target = target)
      (Neglected monitor) monitor := by
  refine (lockSet_seizes monitor #v[first, second]).bind_pure
    (fun guards? => guards?.map fun guards => (guards[0], guards[1])) ?_ ?_
  · rintro (_ | guards) <;> rfl
  · rintro (_ | guards)
    · rfl
    · exact (vectorToList_eq_map guards).symm

/-- The ways in which locking a set ends. All granules are locked; or the set is refused with a
record and no other effect; or a lock is waited for; or a granule was left in disorder. -/
theorem lockSet_cases (requests : Vector Request n) (monitor : Monitor region) :
    (∃ granule : Fin n → Fin region.size, Leads requests granule ∧
        (∀ position,
          Obtainable monitor.store ((claimsOn requests granule).get position)) ∧
        lockSet requests monitor =
          .ok (some ((claimsOn requests granule).map Claim.guard)) { monitor with
            store := monitor.store.adjust .lock
              ((claimsOn requests granule).map Claim.guard).toList }) ∨
      (∃ notice, lockSet requests monitor =
        .ok none { monitor with log := monitor.log.push notice }) ∨
      (∃ index last, lockSet requests monitor = .error (.waiting (.entry index)) last ∧
        (monitor.store.get (.entry index)).locked = true) ∨
      ∃ cause last, lockSet requests monitor = .error (.fault cause) last ∧
        Neglected monitor cause := by
  rcases improper_or_leads region requests with improper | ⟨granule, leads⟩
  · exact .inr (.inl (lockSet_of_improper improper))
  have evaluated := leads.lockSet_eq monitor
  rcases obtainable_or_obstacle (claimsOn requests granule) monitor.store
    (lockingOrder (claimsOn requests granule)) with
    all | ⟨run, position, rest, split, taken, obstacle⟩
  · have obtainable (position : Fin n) := all position (mem_lockingOrder position)
    rw [lockClaims_of_obtainable leads.distinct obtainable] at evaluated
    exact .inl ⟨granule, leads, obtainable, evaluated⟩
  cases locked : (monitor.store.get
      ((claimsOn requests granule).get position).target).locked with
  | true =>
    rw [lockClaims_of_held leads.distinct split taken locked] at evaluated
    exact .inr (.inr (.inl ⟨_, _, evaluated, locked⟩))
  | false =>
    have differs : (monitor.store.get
        ((claimsOn requests granule).get position).target).role ≠
          ((claimsOn requests granule).get position).role :=
      fun same => obstacle (obtainable_iff.mpr ⟨locked, same⟩)
    rw [lockClaims_of_mismatch leads.distinct split taken locked differs] at evaluated
    dsimp only at evaluated
    split at evaluated
    · exact .inr (.inr (.inr ⟨_, _, evaluated,
        ((lockSet_seizes monitor requests).faulted evaluated).2⟩))
    · exact .inr (.inl ⟨_, evaluated⟩)

end Several

namespace Acquisition

variable {n : Nat}

/-- The places of requests that were looked up lead to the descriptors of their claims. -/
theorem resolvePlaces?_of_resolved {requests : Vector Request n} {claims : Vector (Claim region) n}
    (resolved : resolveAll region requests = .ok claims) :
    resolvePlaces? region (requests.toList.map fun request => .granule request.addr) =
      some (claims.toList.map Claim.target) := by
  rw [vectorToList_eq_map, vectorToList_eq_map, List.map_map, List.map_map]
  induction List.finRange n with
  | nil => rfl
  | cons position rest inductionHypothesis =>
    have known := (resolveAll_eq_ok_iff.mp resolved position).1
    simp only [List.map_cons, resolvePlaces?, inductionHypothesis, Function.comp_apply,
      Place.target, Region.entryAt, known, Claim.target]

/-- A locking operation needs the locks of the descriptors at its places, if these differ. -/
theorem targets?_of_resolved {requests : Vector Request n} {claims : Vector (Claim region) n}
    {call : Acquisition}
    (places : call.places = requests.toList.map fun request => .granule request.addr)
    (resolved : resolveAll region requests = .ok claims) (distinct : Distinct claims) :
    call.targets? region = some (claims.toList.map Claim.target) := by
  have injective : Function.Injective fun index : Fin region.size => Target.entry index :=
    fun _ _ same => Target.entry.inj same
  have nodup := distinct.map injective
  rw [List.map_map] at nodup
  change (claims.toList.map Claim.target).Nodup at nodup
  rw [targets?, places, resolvePlaces?_of_resolved resolved, Option.filter_some,
    if_pos (by simpa using nodup)]

/-- An operation for callers whose addresses are not trusted. -/
def IsUntrusted : Acquisition → Prop
  | .lockAt _ | .lockUnreferenced _ | .lockPair .. | .lockSet _ => True
  | .lock .. | .lockOnMatch .. => False

/-- The descriptors that an operation has to lock to succeed. -/
def Needs (call : Acquisition) (target : Target region) : Prop :=
  ∃ targets, call.targets? region = some targets ∧ target ∈ targets

/-- An operation at one place needs the descriptor at that place. -/
theorem needs_of_place {call : Acquisition} {place : Place} {target : Target region}
    (places : call.places = [place]) (leads : place.target region = .ok target) :
    call.Needs target := by
  refine ⟨[target], ?_, List.mem_singleton_self _⟩
  simp [targets?, places, resolvePlaces?, leads]

/-- An address leads to the same descriptor for trusted and for untrusted callers. -/
theorem target_granule_of_entryAt? {addr : Address} {target : Target region}
    (found : region.entryAt? addr = some target) :
    (Place.granule addr).target region = .ok target := by
  obtain ⟨index, known, rfl⟩ := Option.map_eq_some_iff.mp found
  simp [Place.target, Region.entryAt, known]

/-- Every locking operation takes free locks of the descriptors that it needs, or none. -/
theorem seizes (call : Acquisition) (monitor : Monitor region) :
    Seizes call.perform Acquired.toList call.Needs
      (fun cause => call.IsUntrusted → Neglected monitor cause) monitor := by
  cases call with
  | lock place role =>
    cases leads : place.target region with
    | error cause =>
      have ended : (Acquisition.lock place role).perform monitor =
          .error (.fault cause) monitor := by
        simp [perform, leads, Act.ofExcept_apply]
      exact .of_fault ended rfl fun trusted => trusted.elim
    | ok target =>
      have sameAction : (Acquisition.lock place role).perform =
          target.lock role >>= fun guard => pure (.granted [guard]) := by
        simp only [perform, leads]
        rfl
      rw [sameAction]
      refine ((target.lock_seizes monitor role).bind_pure
        (fun guard => .granted [guard]) ?_ ?_).weaken ?_ ?_
      · exact fun _ => rfl
      · exact fun _ => rfl
      · rintro _ rfl
        exact needs_of_place rfl leads
      · exact fun _ _ trusted => trusted.elim
  | lockOnMatch place role =>
    cases leads : place.target region with
    | error cause =>
      have ended : (Acquisition.lockOnMatch place role).perform monitor =
          .error (.fault cause) monitor := by
        simp [perform, leads, Act.ofExcept_apply]
      exact .of_fault ended rfl fun trusted => trusted.elim
    | ok target =>
      have sameAction : (Acquisition.lockOnMatch place role).perform =
          target.lockOnMatch role >>= fun guard? => pure (.ofOption guard?) := by
        simp only [perform, leads]
        rfl
      rw [sameAction]
      refine ((target.lockOnMatch_seizes monitor role).bind_pure .ofOption ?_ ?_).weaken ?_ ?_
      · exact fun _ => rfl
      · rintro (_ | guard) <;> rfl
      · rintro _ rfl
        exact needs_of_place rfl leads
      · exact fun _ never => never.elim
  | lockAt request =>
    refine ((lockAt_seizes monitor request.role request.addr).bind_pure
      .ofExcept ?_ ?_).weaken ?_ ?_
    · exact fun _ => rfl
    · exact fun _ => rfl
    · exact fun _ found => needs_of_place rfl (target_granule_of_entryAt? found)
    · exact fun _ never => never.elim
  | lockUnreferenced request =>
    refine ((lockUnreferenced_seizes monitor request.role request.addr).bind_pure
      .ofExcept ?_ ?_).weaken ?_ ?_
    · exact fun _ => rfl
    · exact fun _ => rfl
    · exact fun _ found => needs_of_place rfl (target_granule_of_entryAt? found)
    · exact fun _ blame _ => blame
  | lockPair first second =>
    refine ((lockPair_seizes monitor first second).bind_pure
      (fun pair? => pair?.elim .nothing fun pair => .granted [pair.1, pair.2]) ?_ ?_).weaken ?_ ?_
    · rintro (_ | ⟨one, other⟩) <;> rfl
    · rintro (_ | ⟨one, other⟩) <;> rfl
    · rintro _ ⟨claims, resolved, distinct, position, rfl⟩
      refine ⟨_, targets?_of_resolved rfl resolved distinct, ?_⟩
      exact List.mem_map_of_mem (by simp [vectorGet_eq])
    · exact fun _ blame _ => blame
  | lockSet requests =>
    refine ((lockSet_seizes monitor requests.toArray.toVector).bind_pure
      (fun guards? => guards?.elim .nothing fun guards => .granted guards.toList)
      ?_ ?_).weaken ?_ ?_
    · rintro (_ | guards) <;> rfl
    · rintro (_ | guards) <;> rfl
    · rintro _ ⟨claims, resolved, distinct, position, rfl⟩
      refine ⟨_, targets?_of_resolved ?_ resolved distinct, ?_⟩
      · simp [places]
      · exact List.mem_map_of_mem (by simp [vectorGet_eq])
    · exact fun _ blame _ => blame

end Acquisition

end GranuleMonitor
