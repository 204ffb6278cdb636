import GranuleMonitor.Proofs.Locking.Acquisition

/-!
# The roles that granules are locked in

A locking operation asks for granules in certain roles, which is `Acquisition.Expects`. When it
gives guards, it has found every granule in the role that it asked for (`role_of_grants`).
`grants_iff` says when it gives guards: the granules have to be different, unlocked and in these
roles. If one unlocked granule is all that the operation hinges on, the role of that granule
decides, which is `grants_iff_role`.
-/

namespace GranuleMonitor

variable {region : Region} {n : Nat}

section Lookup

variable {addr : Address} {target : Target region} {role : Role} {monitor : Monitor region}

/-- An address that has an index leads to the descriptor there. -/
theorem target_of_known {index : Fin region.size} (known : region.index? addr = some index) :
    (Place.granule addr).target region = .ok (.entry index) := by
  simp [Place.target, Region.entryAt, known]

/-- An address that has no index leads nowhere. -/
theorem target_of_unknown (unknown : region.index? addr = none) :
    (Place.granule addr).target region =
      .error (.notAGranule addr region.base region.limit) := by
  simp [Place.target, Region.entryAt, unknown]

/-- What an untrusted caller finds at an address is what a trusted one finds there. -/
theorem entryAt?_eq_toOption (addr : Address) :
    region.entryAt? addr = ((Place.granule addr).target region).toOption := by
  cases known : region.index? addr <;>
    simp [Place.target, Region.entryAt, Region.entryAt?, known, Except.toOption]

/-- An address that leads nowhere is turned down. -/
theorem lockAt_of_nowhere {cause : Fault}
    (nowhere : (Place.granule addr).target region = .error cause) :
    lockAt addr role monitor =
      .ok (.error .input) { monitor with log := monitor.log.push (.unknownAddress addr) } := by
  simp only [lockAt, entryAt?_eq_toOption, nowhere]
  rfl

/-- Locking at an address locks the descriptor there on a match. -/
theorem lockAt_apply (leads : (Place.granule addr).target region = .ok target) :
    lockAt addr role monitor =
      match (monitor.store.get target).attempt role with
      | .held => .error (.waiting target) monitor
      | .mismatch actual =>
        .ok (.error .input) { monitor with log := monitor.log.push (.roleMismatch actual role) }
      | .taken =>
        .ok (.ok ⟨target⟩)
          { monitor with store := monitor.store.set target (monitor.store.get target).lock } := by
  simp only [lockAt, entryAt?_eq_toOption, leads, Except.toOption, Act.bind_apply,
    Target.lockOnMatch_apply]
  cases (monitor.store.get target).attempt role <;> rfl

/-- Locking an unreferenced granule takes a free lock in the expected role. A lock that turns out to
have references is given back, with a record and with whatever fault that reveals. -/
theorem lockUnreferenced_apply (leads : (Place.granule addr).target region = .ok target) :
    lockUnreferenced addr role monitor =
      match (monitor.store.get target).attempt role with
      | .held => .error (.waiting target) monitor
      | .mismatch actual =>
        .ok (.error .input) { monitor with log := monitor.log.push (.roleMismatch actual role) }
      | .taken =>
        if (monitor.store.get target).references = 0 then
          .ok (.ok ⟨target⟩)
            { monitor with store := monitor.store.set target (monitor.store.get target).lock }
        else
          let last := { monitor with
            log := monitor.log.push
              (.stillReferenced addr (monitor.store.get target).references) }
          match (monitor.store.get target).releaseFault? with
          | some cause => .error (.fault cause) last
          | none => .ok (.error .inUse) last := by
  have looked : lockAt addr role monitor = _ := lockAt_apply leads
  cases attempt : (monitor.store.get target).attempt role with
  | held =>
    rw [attempt] at looked
    rw [lockUnreferenced, Act.bind_apply, looked]
  | mismatch actual =>
    rw [attempt] at looked
    rw [lockUnreferenced, Act.bind_apply, looked]
    rfl
  | taken =>
    rw [attempt] at looked
    have free := (Descriptor.attempt_eq_taken_iff.mp attempt).1
    rw [lockUnreferenced_of_locked monitor role looked]
    simp only [Store.get_set_self, Store.set_set, Descriptor.unlock_lock free, Store.set_get_self]
    rfl

end Lookup

namespace Acquisition

/-- The places that a locking operation names, with the roles that it asks for. -/
def asked : Acquisition → List (Place × Role)
  | .lock place role | .lockOnMatch place role => [(place, role)]
  | .lockAt request | .lockUnreferenced request => [(.granule request.addr, request.role)]
  | .lockPair first second =>
    [(.granule first.addr, first.role), (.granule second.addr, second.role)]
  | .lockSet requests => requests.map fun request => (.granule request.addr, request.role)

/-- The operation asks for a granule in a role. -/
def Expects (call : Acquisition) (target : Target region) (role : Role) : Prop :=
  ∃ place, (place, role) ∈ call.asked ∧ place.target region = .ok target

/-- The operation turns granules down that somebody refers to. -/
def WantsUnreferenced : Acquisition → Prop
  | .lockUnreferenced _ => True
  | .lock .. | .lockOnMatch .. | .lockAt _ | .lockPair .. | .lockSet _ => False

/-- The operation gives guards. -/
def Grants (call : Acquisition) (monitor : Monitor region) : Prop :=
  ∃ guards last, call.perform monitor = .ok (.granted guards) last

theorem map_fst_asked (call : Acquisition) : call.asked.map Prod.fst = call.places := by
  cases call <;> simp [asked, places]

/-- Places are resolved exactly if each of them leads to a descriptor. -/
theorem resolvePlaces?_eq_some_iff {listed : List Place} {targets : List (Target region)} :
    resolvePlaces? region listed = some targets ↔
      listed.map (Place.target region) = targets.map .ok := by
  induction listed generalizing targets with
  | nil => cases targets <;> simp [resolvePlaces?]
  | cons first rest inductionHypothesis =>
    cases leads : first.target region with
    | error cause => cases targets <;> simp [resolvePlaces?, leads]
    | ok found =>
      cases targets with
      | nil =>
        cases resolved : resolvePlaces? region rest <;> simp [resolvePlaces?, leads, resolved]
      | cons target others =>
        rw [List.map_cons, List.map_cons, List.cons.injEq, ← inductionHypothesis]
        cases resolved : resolvePlaces? region rest <;> simp [resolvePlaces?, leads, resolved]

/-- The operation asks for every descriptor that it needs in some role. -/
theorem expects_of_needs {call : Acquisition} {target : Target region}
    (needs : call.Needs target) : ∃ role, call.Expects target role := by
  obtain ⟨targets, found, member⟩ := needs
  obtain ⟨resolved, -⟩ := Option.filter_eq_some_iff.mp found
  have isListed : .ok target ∈ call.places.map (Place.target region) := by
    rw [resolvePlaces?_eq_some_iff.mp resolved]
    exact List.mem_map_of_mem member
  rw [← map_fst_asked, List.map_map] at isListed
  obtain ⟨⟨place, role⟩, asks, leads⟩ := List.mem_map.mp isListed
  exact ⟨role, place, asks, leads⟩

/-- A proper operation asks for each descriptor in one role only. -/
theorem expects_unique {call : Acquisition} (proper : (call.targets? region).isSome)
    {target : Target region} {role other : Role} (expects : call.Expects target role)
    (expectsOther : call.Expects target other) : role = other := by
  obtain ⟨targets, found⟩ := Option.isSome_iff_exists.mp proper
  obtain ⟨resolved, nodup⟩ := Option.filter_eq_some_iff.mp found
  rw [resolvePlaces?_eq_some_iff, ← map_fst_asked, List.map_map] at resolved
  have atIndex {place : Place} {role : Role} (member : (place, role) ∈ call.asked)
      (leads : place.target region = .ok target) :
      ∃ index : Nat, call.asked[index]? = some (place, role) ∧ targets[index]? = some target := by
    obtain ⟨index, here⟩ := List.mem_iff_getElem?.mp member
    have found := congrArg (·[index]?) resolved
    simp only [List.getElem?_map, here, Option.map_some, Function.comp_apply, leads] at found
    obtain ⟨_, isTarget, same⟩ := Option.map_eq_some_iff.mp found.symm
    obtain rfl := Except.ok.inj same
    exact ⟨index, here, isTarget⟩
  obtain ⟨place, member, leads⟩ := expects
  obtain ⟨place', member', leads'⟩ := expectsOther
  obtain ⟨index, here, isTarget⟩ := atIndex member leads
  obtain ⟨index', here', isTarget'⟩ := atIndex member' leads'
  have within := (List.getElem?_eq_some_iff.mp isTarget).1
  obtain rfl := (List.getElem?_inj within (by simpa using nodup)).mp
    (isTarget.trans isTarget'.symm)
  rw [here, Option.some.injEq] at here'
  exact (Prod.mk.inj here').2

section Single

variable {place : Place} {target : Target region} {role : Role} {monitor : Monitor region}

/-- An operation at one place asks for the descriptor there. -/
theorem expects_iff_of_asked {call : Acquisition} (asks : call.asked = [(place, role)])
    (leads : place.target region = .ok target) {other : Target region} {expected : Role} :
    call.Expects other expected ↔ other = target ∧ expected = role := by
  unfold Expects
  rw [asks]
  constructor
  · rintro ⟨_, member, found⟩
    obtain ⟨rfl, rfl⟩ := Prod.mk.inj (List.mem_singleton.mp member)
    rw [leads] at found
    exact ⟨(Except.ok.inj found).symm, rfl⟩
  · rintro ⟨rfl, rfl⟩
    exact ⟨place, List.mem_singleton_self _, leads⟩

theorem grants_lock_iff (leads : place.target region = .ok target) :
    (lock place role).Grants monitor ↔ (monitor.store.get target).attempt role = .taken := by
  have ended : (lock place role).perform monitor = _ := Act.bind_apply _ _ _
  rw [leads] at ended
  simp only [Act.ofExcept_apply, Act.bind_apply, Target.lock_apply] at ended
  unfold Grants
  rw [ended]
  cases (monitor.store.get target).attempt role <;> simp

theorem grants_lockOnMatch_iff (leads : place.target region = .ok target) :
    (lockOnMatch place role).Grants monitor ↔
      (monitor.store.get target).attempt role = .taken := by
  have ended : (lockOnMatch place role).perform monitor = _ := Act.bind_apply _ _ _
  rw [leads] at ended
  simp only [Act.ofExcept_apply, Act.bind_apply, Target.lockOnMatch_apply] at ended
  unfold Grants
  rw [ended]
  cases (monitor.store.get target).attempt role <;> simp [Acquired.ofOption]

theorem grants_lockAt_iff {addr : Address}
    (leads : (Place.granule addr).target region = .ok target) :
    (lockAt ⟨addr, role⟩).Grants monitor ↔ (monitor.store.get target).attempt role = .taken := by
  have ended : (lockAt ⟨addr, role⟩).perform monitor = _ := Act.bind_apply _ _ _
  rw [lockAt_apply leads] at ended
  unfold Grants
  rw [ended]
  cases (monitor.store.get target).attempt role <;> simp [Acquired.ofExcept]

theorem grants_lockUnreferenced_iff {addr : Address}
    (leads : (Place.granule addr).target region = .ok target) :
    (lockUnreferenced ⟨addr, role⟩).Grants monitor ↔
      (monitor.store.get target).attempt role = .taken ∧
        (monitor.store.get target).references = 0 := by
  have ended : (lockUnreferenced ⟨addr, role⟩).perform monitor = _ := Act.bind_apply _ _ _
  rw [lockUnreferenced_apply leads] at ended
  unfold Grants
  rw [ended]
  cases (monitor.store.get target).attempt role with
  | held => simp
  | mismatch actual => simp [Acquired.ofExcept]
  | taken =>
    by_cases unreferenced : (monitor.store.get target).references = 0
    · simp [unreferenced, Acquired.ofExcept]
    · cases (monitor.store.get target).releaseFault? <;> simp [unreferenced, Acquired.ofExcept]

end Single

section Several

variable {requests : Vector Request n} {monitor : Monitor region} {call : Acquisition}

/-- What an operation asks for that is about a set of requests. -/
def askedIn (requests : Vector Request n) : List (Place × Role) :=
  requests.toList.map fun request => (.granule request.addr, request.role)

theorem places_of_askedIn (asks : call.asked = askedIn requests) :
    call.places = requests.toList.map fun request => .granule request.addr := by
  rw [← map_fst_asked, asks, askedIn, List.map_map]
  rfl

/-- A set leads to different granules if its places are resolved to different descriptors. -/
theorem leads_of_targets? (asks : call.asked = askedIn requests) {targets : List (Target region)}
    (found : call.targets? region = some targets) :
    ∃ granule : Fin n → Fin region.size, Leads requests granule := by
  obtain ⟨resolved, nodup⟩ := Option.filter_eq_some_iff.mp found
  rw [places_of_askedIn asks, resolvePlaces?_eq_some_iff, List.map_map] at resolved
  have atPosition (position : Fin n) : ∃ target, targets[position.val]? = some target ∧
      (Place.granule (requests.get position).addr).target region = .ok target := by
    have here := congrArg (·[position.val]?) resolved
    simp only [List.getElem?_map, Vector.getElem?_toList, Vector.getElem?_eq_getElem position.isLt,
      Option.map_some, Function.comp_apply] at here
    obtain ⟨target, isTarget, leads⟩ := Option.map_eq_some_iff.mp here.symm
    exact ⟨target, isTarget, leads.symm⟩
  rcases improper_or_leads region requests with improper | leads
  case inr => exact leads
  exfalso
  rcases improper with ⟨position, unknown⟩ | ⟨position, other, differs, same⟩
  · obtain ⟨target, -, leads⟩ := atPosition position
    simp [Place.target, Region.entryAt, unknown] at leads
  · obtain ⟨target, here, leads⟩ := atPosition position
    obtain ⟨target', there, leads'⟩ := atPosition other
    rw [← same, leads, Except.ok.injEq] at leads'
    subst leads'
    have within := (List.getElem?_eq_some_iff.mp here).1
    have samePosition := (List.getElem?_inj within (by simpa using nodup)).mp
      (here.trans there.symm)
    exact differs (Fin.ext samePosition)

/-- What a set asks for that leads to different granules. -/
theorem expects_iff_of_leads (asks : call.asked = askedIn requests)
    {granule : Fin n → Fin region.size} (leads : Leads requests granule) {target : Target region}
    {role : Role} :
    call.Expects target role ↔
      ∃ position, target = .entry (granule position) ∧ role = (requests.get position).role := by
  have found (position : Fin n) : (Place.granule (requests.get position).addr).target region =
      .ok (.entry (granule position)) := target_of_known (leads.known position)
  unfold Expects
  rw [asks, askedIn, vectorToList_eq_map, List.map_map]
  constructor
  · rintro ⟨place, member, leadsTo⟩
    obtain ⟨position, -, isHere⟩ := List.mem_map.mp member
    obtain ⟨rfl, rfl⟩ := Prod.mk.inj isHere
    rw [found] at leadsTo
    exact ⟨position, (Except.ok.inj leadsTo).symm, rfl⟩
  · rintro ⟨position, rfl, rfl⟩
    exact ⟨_, List.mem_map_of_mem (List.mem_finRange position), found position⟩

/-- Locking a set gives guards exactly if all its granules are different and obtainable. -/
theorem lockSet_gives_iff :
    (∃ guards last, GranuleMonitor.lockSet requests monitor = .ok (some guards) last) ↔
      ∃ granule : Fin n → Fin region.size, Leads requests granule ∧
        ∀ position, Obtainable monitor.store ((claimsOn requests granule).get position) := by
  constructor
  · rintro ⟨guards, last, ended⟩
    rcases lockSet_cases requests monitor with
      ⟨granule, leads, obtainable, -⟩ | ⟨notice, refused⟩ | ⟨index, last', waits, -⟩ |
      ⟨cause, last', faults, -⟩
    · exact ⟨granule, leads, obtainable⟩
    · rw [refused] at ended
      cases ended
    · rw [waits] at ended
      cases ended
    · rw [faults] at ended
      cases ended
  · rintro ⟨granule, leads, obtainable⟩
    have ended := lockClaims_of_obtainable leads.distinct obtainable
    rw [← leads.lockSet_eq] at ended
    exact ⟨_, _, ended⟩

/-- An operation for a set gives guards exactly if it is about different granules, all of which are
unlocked and in the roles that are asked for. -/
theorem grants_iff_of_set (asks : call.asked = askedIn requests)
    (gives : call.Grants monitor ↔
      ∃ guards last, GranuleMonitor.lockSet requests monitor = .ok (some guards) last) :
    call.Grants monitor ↔
      (call.targets? region).isSome ∧ ∀ target role, call.Expects target role →
        (monitor.store.get target).attempt role = .taken := by
  rw [gives, lockSet_gives_iff]
  constructor
  · rintro ⟨granule, leads, obtainable⟩
    have resolved := targets?_of_resolved (places_of_askedIn asks) leads.resolveAll_eq leads.distinct
    refine ⟨by rw [resolved]; rfl, fun target role expects => ?_⟩
    obtain ⟨position, rfl, rfl⟩ := (expects_iff_of_leads asks leads).mp expects
    have here := obtainable position
    rwa [Obtainable, Leads.get_claimsOn] at here
  · rintro ⟨proper, taken⟩
    obtain ⟨targets, found⟩ := Option.isSome_iff_exists.mp proper
    obtain ⟨granule, leads⟩ := leads_of_targets? asks found
    refine ⟨granule, leads, fun position => ?_⟩
    rw [Obtainable, Leads.get_claimsOn]
    exact taken _ _ ((expects_iff_of_leads asks leads).mpr ⟨position, rfl, rfl⟩)

/-- A pair gives guards exactly if the set of both requests does. -/
theorem grants_lockPair_iff (monitor : Monitor region) (first second : Request) :
    (lockPair first second).Grants monitor ↔
      ∃ guards last, GranuleMonitor.lockSet #v[first, second] monitor = .ok (some guards) last := by
  have ended : (lockPair first second).perform monitor = _ := Act.bind_apply _ _ _
  have pair : GranuleMonitor.lockPair first second monitor = _ := Act.bind_apply _ _ _
  rw [pair] at ended
  unfold Grants
  rw [ended]
  rcases GranuleMonitor.lockSet #v[first, second] monitor with ⟨_ | guards, last⟩ | ⟨halt, last⟩ <;>
    simp

/-- A list of requests gives guards exactly if the set of them does. -/
theorem grants_lockSet_iff (monitor : Monitor region) (listed : List Request) :
    (lockSet listed).Grants monitor ↔
      ∃ guards last,
        GranuleMonitor.lockSet listed.toArray.toVector monitor = .ok (some guards) last := by
  have ended : (lockSet listed).perform monitor = _ := Act.bind_apply _ _ _
  unfold Grants
  rw [ended]
  rcases GranuleMonitor.lockSet listed.toArray.toVector monitor with
    ⟨_ | guards, last⟩ | ⟨halt, last⟩ <;> simp

end Several

/-- An operation at one place gives guards exactly if the place leads somewhere and the descriptor
there passes the test of the operation. -/
theorem grants_iff_of_single {call : Acquisition} {place : Place} {role : Role}
    {monitor : Monitor region} {Passes : Target region → Prop}
    (asks : call.asked = [(place, role)])
    (nowhere : ∀ cause, place.target region = .error cause → ¬ call.Grants monitor)
    (tests : ∀ target, place.target region = .ok target →
      (call.Grants monitor ↔ (monitor.store.get target).attempt role = .taken ∧ Passes target)) :
    call.Grants monitor ↔
      (call.targets? region).isSome ∧
        (∀ target role, call.Expects target role →
          (monitor.store.get target).attempt role = .taken) ∧
        ∀ target role, call.Expects target role → Passes target := by
  have places : call.places = [place] := by rw [← map_fst_asked, asks]; rfl
  cases leads : place.target region with
  | error cause =>
    have none : call.targets? region = none := by simp [targets?, places, resolvePlaces?, leads]
    simp [none, nowhere cause leads]
  | ok target =>
    have some : call.targets? region = some [target] := by
      simp [targets?, places, resolvePlaces?, leads]
    simp [some, tests target leads, expects_iff_of_asked asks leads]

/-- A locking operation gives guards exactly if it is about different descriptors, all of which are
unlocked and in the roles that it asks for, and, if it wants that, nobody refers to them. -/
theorem grants_iff (call : Acquisition) (monitor : Monitor region) :
    call.Grants monitor ↔
      (call.targets? region).isSome ∧
        (∀ target role, call.Expects target role →
          (monitor.store.get target).attempt role = .taken) ∧
        ∀ target role, call.Expects target role → call.WantsUnreferenced →
          (monitor.store.get target).references = 0 := by
  cases call with
  | lock place role =>
    refine grants_iff_of_single rfl ?_ fun target leads => ?_
    · rintro cause leads ⟨guards, last, ended⟩
      simp [perform, leads, Act.ofExcept_apply] at ended
    · simp [grants_lock_iff leads, WantsUnreferenced]
  | lockOnMatch place role =>
    refine grants_iff_of_single rfl ?_ fun target leads => ?_
    · rintro cause leads ⟨guards, last, ended⟩
      simp [perform, leads, Act.ofExcept_apply] at ended
    · simp [grants_lockOnMatch_iff leads, WantsUnreferenced]
  | lockAt request =>
    refine grants_iff_of_single rfl ?_ fun target leads => ?_
    · rintro cause nowhere ⟨guards, last, ended⟩
      have refused : (lockAt request).perform monitor = _ := Act.bind_apply _ _ _
      rw [lockAt_of_nowhere nowhere, ended] at refused
      cases refused
    · simp [grants_lockAt_iff leads, WantsUnreferenced]
  | lockUnreferenced request =>
    refine grants_iff_of_single rfl ?_ fun target leads => ?_
    · rintro cause nowhere ⟨guards, last, ended⟩
      have refused : (lockUnreferenced request).perform monitor = _ := Act.bind_apply _ _ _
      rw [GranuleMonitor.lockUnreferenced, Act.bind_apply, lockAt_of_nowhere nowhere, ended]
        at refused
      cases refused
    · simp [grants_lockUnreferenced_iff leads, WantsUnreferenced]
  | lockPair first second =>
    have asks : (lockPair first second).asked = askedIn #v[first, second] := rfl
    have grants := grants_iff_of_set asks (grants_lockPair_iff monitor first second)
    simpa [WantsUnreferenced] using grants
  | lockSet requests =>
    have asks : (lockSet requests).asked = askedIn requests.toArray.toVector := by
      simp [asked, askedIn]
    have grants := grants_iff_of_set asks (grants_lockSet_iff monitor requests)
    simpa [WantsUnreferenced] using grants

/-- Apart from the role of one granule, nothing is in the way of the operation. -/
def HingesOn (call : Acquisition) (monitor : Monitor region) (target : Target region) : Prop :=
  (call.targets? region).isSome ∧
    (∀ other role, other ≠ target → call.Expects other role →
      (monitor.store.get other).attempt role = .taken) ∧
    ∀ other role, call.Expects other role → call.WantsUnreferenced →
      (monitor.store.get other).references = 0

/-- An operation that gives guards has found every granule in the role that it asked for. -/
theorem role_of_grants {call : Acquisition} {monitor : Monitor region} (grants : call.Grants monitor)
    {target : Target region} {role : Role} (expects : call.Expects target role) :
    (monitor.store.get target).role = role :=
  (Descriptor.attempt_eq_taken_iff.mp (((grants_iff call monitor).mp grants).2.1 _ _ expects)).2

/-- If the operation hinges on an unlocked granule, its role decides. -/
theorem grants_iff_role {call : Acquisition} {monitor : Monitor region} {target : Target region}
    {role : Role} (hinges : call.HingesOn monitor target)
    (free : (monitor.store.get target).locked = false) (expects : call.Expects target role) :
    call.Grants monitor ↔ (monitor.store.get target).role = role := by
  obtain ⟨proper, others, unreferenced⟩ := hinges
  refine ⟨fun grants => role_of_grants grants expects, fun same => ?_⟩
  rw [grants_iff]
  refine ⟨proper, fun other expected expectsOther => ?_, unreferenced⟩
  by_cases isTarget : other = target
  · subst isTarget
    rw [← expects_unique proper expects expectsOther]
    exact Descriptor.attempt_eq_taken_iff.mpr ⟨free, same⟩
  · exact others other expected isTarget expectsOther

end Acquisition

end GranuleMonitor
