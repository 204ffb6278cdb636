import GranuleMonitor.Proofs.Locking.Order
import GranuleMonitor.Proofs.Locking.Seizure

/-!
# Locking the granules of claims

The loop of `lockClaims` goes through the locking order. As long as a granule is `Obtainable`, its
lock is taken, and `lockInOrder_obtainable` says what a whole run of such granules does. Either the
order is such a run, and all locks are taken (`lockClaims_of_obtainable`), or the run ends at an
obstacle. A held lock is waited for (`lockClaims_of_held`). A granule in another role ends the
attempt without a trace in the store (`lockClaims_of_mismatch`). `obtainable_or_obstacle` says that
there is no third case.
-/

namespace GranuleMonitor

variable {region : Region} {n : Nat}

/-- The descriptor of the granule that a claim is on. -/
def Claim.target (claim : Claim region) : Target region := .entry claim.index

/-- The guard that a claim leads to. -/
def Claim.guard (claim : Claim region) : Guard region := ⟨claim.target⟩

@[simp]
theorem Claim.target_guard (claim : Claim region) : claim.guard.target = claim.target := rfl

/-- The guards that the claims at some positions lead to. -/
def guardsAt (claims : Vector (Claim region) n) (positions : List (Fin n)) : List (Guard region) :=
  positions.map fun position => (claims.get position).guard

/-- The lock of a claim's granule is free, and the granule has the role that is asked for. -/
def Obtainable (store : Store region) (claim : Claim region) : Prop :=
  (store.get claim.target).attempt claim.role = .taken

instance (store : Store region) (claim : Claim region) : Decidable (Obtainable store claim) :=
  inferInstanceAs (Decidable (_ = _))

theorem obtainable_iff {store : Store region} {claim : Claim region} :
    Obtainable store claim ↔
      (store.get claim.target).locked = false ∧ (store.get claim.target).role = claim.role :=
  Descriptor.attempt_eq_taken_iff

theorem guard_inj {claim other : Claim region} :
    claim.guard = other.guard ↔ claim.index = other.index := by
  simp [Claim.guard, Claim.target]

/-- The guards at all positions are the guards of all claims. -/
theorem mem_guardsAt_of_all {claims : Vector (Claim region) n} {positions : List (Fin n)}
    (all : ∀ position, position ∈ positions) {guard : Guard region} :
    guard ∈ guardsAt claims positions ↔ guard ∈ (claims.map Claim.guard).toList := by
  rw [vectorToList_eq_map]
  simp [guardsAt, all, vectorGet_eq]

namespace Holdings

/-- What a set holds after the locks of some positions were taken. -/
def ofTaken (claims : Vector (Claim region) n) (taken : List (Fin n)) : Holdings region n :=
  .ofFn fun position => if position ∈ taken then some (claims.get position).guard else none

variable {claims : Vector (Claim region) n} {taken : List (Fin n)}

variable (claims) in
/-- At first a set holds nothing. -/
theorem ofTaken_nil : ofTaken claims [] = .replicate n none := by
  apply Vector.ext
  intro index within
  simp [ofTaken]

/-- Taking one more lock puts its guard at the position of the request. -/
theorem ofTaken_append (position : Fin n) :
    (ofTaken claims taken).set position (some (claims.get position).guard) position.isLt =
      ofTaken claims (taken ++ [position]) := by
  apply Vector.ext
  intro index within
  by_cases same : (position : Nat) = index
  · subst same
    simp [ofTaken]
  · have differs : ¬ (⟨index, within⟩ : Fin n) = position := by
      rintro rfl
      exact same rfl
    simp [ofTaken, Vector.getElem_set_ne, same, differs]

/-- The guards of a set are those of the positions that were taken, by ascending position. -/
theorem guards_ofTaken :
    (ofTaken claims taken).guards =
      guardsAt claims ((List.finRange n).filter (· ∈ taken)) := by
  unfold guards guardsAt ofTaken
  rw [Vector.toList_ofFn, List.ofFn_eq_map, List.filterMap_map]
  induction List.finRange n with
  | nil => rfl
  | cons first rest inductionHypothesis =>
    by_cases member : first ∈ taken <;> simp_all

theorem mem_guards_ofTaken {guard : Guard region} :
    guard ∈ (ofTaken claims taken).guards ↔ guard ∈ guardsAt claims taken := by
  simp [guards_ofTaken, guardsAt]

/-- A set is complete when all of its positions were taken. -/
theorem complete?_ofTaken (all : ∀ position, position ∈ taken) :
    (ofTaken claims taken).complete? = some (claims.map Claim.guard) := by
  unfold complete? ofTaken
  rw [dif_pos (by simp [all])]
  congr 1
  apply Vector.ext
  intro index within
  simp [all, vectorGet_eq]

end Holdings

section Loop

variable {claims : Vector (Claim region) n} {taken : List (Fin n)}

/-- One step of the loop, by the state of the descriptor that it comes to. -/
theorem lockNext_apply (position : Fin n) (monitor : Monitor region) :
    lockNext claims (.ofTaken claims taken) position monitor =
      match (monitor.store.get (claims.get position).target).attempt (claims.get position).role with
      | .held => .error (.waiting (claims.get position).target) monitor
      | .mismatch actual =>
        (Guard.releaseAll (Holdings.ofTaken claims taken).guards >>= fun _ => pure none)
          { monitor with log := monitor.log.push (.roleMismatch actual (claims.get position).role) }
      | .taken =>
        .ok (some (.ofTaken claims (taken ++ [position])))
          { monitor with
            store := monitor.store.adjust .lock (guardsAt claims [position]) } := by
  simp only [lockNext, Claim.target, Act.bind_apply, Target.lockOnMatch_apply]
  cases (monitor.store.get (.entry (claims.get position).index)).attempt
    (claims.get position).role with
  | held => rfl
  | mismatch actual => simp only [Act.bind_apply]
  | taken =>
    simp only [Act.pure_apply, ← Holdings.ofTaken_append]
    rfl

/-- A run of obtainable granules is locked without a halt. -/
theorem lockInOrder_obtainable (taken : List (Fin n)) {run : List (Fin n)} (rest : List (Fin n))
    {monitor : Monitor region} (strict : StrictlyAscends claims run)
    (obtainable : ∀ position ∈ run, Obtainable monitor.store (claims.get position)) :
    lockInOrder claims (run ++ rest) (.ofTaken claims taken) monitor =
      lockInOrder claims rest (.ofTaken claims (taken ++ run))
        { monitor with store := monitor.store.adjust .lock (guardsAt claims run) } := by
  induction run generalizing taken monitor with
  | nil => simp [guardsAt]
  | cons first later inductionHypothesis =>
    obtain ⟨firstLess, laterStrict⟩ := List.pairwise_cons.mp strict
    have firstFree := obtainable first List.mem_cons_self
    unfold Obtainable at firstFree
    simp only [List.cons_append, lockInOrder, Act.bind_apply, lockNext_apply, firstFree]
    rw [inductionHypothesis _ laterStrict]
    · simp only [guardsAt, List.append_assoc, List.singleton_append, List.map_cons, List.map_nil,
        Store.adjust_cons, Store.adjust_nil]
    · -- the lock that was just taken is that of another granule
      intro position member
      have differs : (claims.get position).target ≠ (claims.get first).target := by
        simpa [Claim.target] using (firstLess position member).ne'
      unfold Obtainable
      rw [Store.get_adjust_lock, if_neg]
      · exact obtainable position (List.mem_cons_of_mem _ member)
      · simpa [guardsAt, Claim.guard] using differs

/-- Either all granules in an order are obtainable, or there is a first one that is not. -/
theorem obtainable_or_obstacle (claims : Vector (Claim region) n) (store : Store region)
    (order : List (Fin n)) :
    (∀ position ∈ order, Obtainable store (claims.get position)) ∨
      ∃ run position rest, order = run ++ position :: rest ∧
        (∀ earlier ∈ run, Obtainable store (claims.get earlier)) ∧
        ¬ Obtainable store (claims.get position) := by
  cases first : order.find? fun position => ¬ Obtainable store (claims.get position) with
  | none => left; simpa using first
  | some position =>
    right
    obtain ⟨obstacle, run, rest, split, obtainable⟩ := List.find?_eq_some_iff_append.mp first
    exact ⟨run, position, rest, split, by simpa using obtainable, by simpa using obstacle⟩

/-- The locks of a run leave the granules behind it in the order as they are. -/
theorem get_adjust_lock_behind {run rest : List (Fin n)} {position : Fin n}
    (strict : StrictlyAscends claims (run ++ position :: rest)) (store : Store region) :
    (store.adjust .lock (guardsAt claims run)).get (claims.get position).target =
      store.get (claims.get position).target := by
  rw [Store.get_adjust_lock, if_neg]
  intro member
  obtain ⟨earlier, inRun, same⟩ := List.mem_map.mp member
  have less := (List.pairwise_append.mp strict).2.2 earlier inRun position List.mem_cons_self
  exact less.ne (guard_inj.mp same)

end Loop

section Claims

variable {claims : Vector (Claim region) n} {monitor : Monitor region}

/-- If all granules are obtainable, all locks are taken, and the guards stand at the positions of
their claims. -/
theorem lockClaims_of_obtainable (distinct : Distinct claims)
    (obtainable : ∀ position, Obtainable monitor.store (claims.get position)) :
    lockClaims claims monitor =
      .ok (some (claims.map Claim.guard)) { monitor with
        store := monitor.store.adjust .lock (claims.map Claim.guard).toList } := by
  have whole := lockInOrder_obtainable [] [] (lockingOrder_strict distinct)
    fun position _ => obtainable position
  simp only [List.append_nil, List.nil_append, Holdings.ofTaken_nil] at whole
  simp only [lockClaims, Act.bind_apply, whole, lockInOrder, Act.pure_apply,
    Holdings.complete?_ofTaken mem_lockingOrder, 
    Store.adjust_lock_congr fun _ => mem_guardsAt_of_all mem_lockingOrder]

variable {run rest : List (Fin n)} {position : Fin n}

/-- The loop comes to the first obstacle in the order with the locks before it. -/
theorem lockInOrder_obstacle (distinct : Distinct claims)
    (split : lockingOrder claims = run ++ position :: rest)
    (obtainable : ∀ earlier ∈ run, Obtainable monitor.store (claims.get earlier)) :
    lockInOrder claims (lockingOrder claims) (.replicate n none) monitor =
      lockInOrder claims (position :: rest) (.ofTaken claims run)
        { monitor with store := monitor.store.adjust .lock (guardsAt claims run) } := by
  have strict := lockingOrder_strict distinct
  rw [split] at strict ⊢
  rw [← Holdings.ofTaken_nil claims,
    lockInOrder_obtainable [] _ (List.pairwise_append.mp strict).1 obtainable, List.nil_append]

/-- A held lock is waited for, with the locks before it taken. -/
theorem lockClaims_of_held (distinct : Distinct claims)
    (split : lockingOrder claims = run ++ position :: rest)
    (obtainable : ∀ earlier ∈ run, Obtainable monitor.store (claims.get earlier))
    (held : (monitor.store.get (claims.get position).target).locked = true) :
    lockClaims claims monitor =
      .error (.waiting (claims.get position).target)
        { monitor with store := monitor.store.adjust .lock (guardsAt claims run) } := by
  have strict := split ▸ lockingOrder_strict distinct
  have attempt : (monitor.store.get (claims.get position).target).attempt
      (claims.get position).role = .held := Descriptor.attempt_eq_held_iff.mpr held
  simp only [lockClaims, Act.bind_apply, lockInOrder_obstacle distinct split obtainable,
    lockInOrder, lockNext_apply, get_adjust_lock_behind strict, attempt]

/-- A granule in another role ends the attempt. The locks before it are given back, and the first
fault of a release, by position, is reported. -/
theorem lockClaims_of_mismatch (distinct : Distinct claims)
    (split : lockingOrder claims = run ++ position :: rest)
    (obtainable : ∀ earlier ∈ run, Obtainable monitor.store (claims.get earlier))
    (free : (monitor.store.get (claims.get position).target).locked = false)
    (differs : (monitor.store.get (claims.get position).target).role ≠ (claims.get position).role) :
    lockClaims claims monitor =
      let monitor' := { monitor with log := monitor.log.push (.roleMismatch
        (monitor.store.get (claims.get position).target).role (claims.get position).role) }
      match ((List.finRange n).filter (· ∈ run)).findSome? fun earlier =>
        (monitor.store.get (claims.get earlier).target).releaseFault? with
      | some cause => .error (.fault cause) monitor'
      | none => .ok none monitor' := by
  have strict := split ▸ lockingOrder_strict distinct
  have attempt := Descriptor.attempt_eq_mismatch_iff.mpr ⟨free, differs, rfl⟩
  have restored : (monitor.store.adjust .lock (guardsAt claims run)).adjust .unlock
      (Holdings.ofTaken claims run).guards = monitor.store := by
    apply Store.adjust_unlock_adjust_lock
    · intro guard member
      obtain ⟨earlier, inRun, rfl⟩ := List.mem_map.mp member
      exact (obtainable_iff.mp (obtainable earlier inRun)).1
    · exact fun guard => Holdings.mem_guards_ofTaken
  rw [Holdings.guards_ofTaken] at restored
  have faults : (guardsAt claims ((List.finRange n).filter (· ∈ run))).findSome? (fun guard =>
      (monitor.store.get guard.target).releaseFault?) =
    ((List.finRange n).filter (· ∈ run)).findSome? fun earlier =>
      (monitor.store.get (claims.get earlier).target).releaseFault? := List.findSome?_map
  simp only [lockClaims, Act.bind_apply, lockInOrder_obstacle distinct split obtainable,
    lockInOrder, lockNext_apply, get_adjust_lock_behind strict, attempt, Guard.releaseAll_apply,
    restored, Store.releaseFault?_get_adjust_lock, Holdings.guards_ofTaken, Act.failIf_apply,
    faults]
  cases ((List.finRange n).filter (· ∈ run)).findSome? fun earlier =>
    (monitor.store.get (claims.get earlier).target).releaseFault? <;> rfl

end Claims

end GranuleMonitor
