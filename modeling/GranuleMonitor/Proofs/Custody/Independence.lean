import GranuleMonitor.Proofs.Custody.Soundness
import GranuleMonitor.Proofs.Locality
import GranuleMonitor.Proofs.Locking.Expectation

/-!
# Operations on different granules

An operation on descriptors names the descriptors at its places, or that of its guard, and is local
to them: `Operation.local_perform`. Custodies that agree on what it names are the same to it
(`Custody.Alike.step`), and what it does not name stays as it is (`Custody.step_alike`). Operations
that name different descriptors therefore do not notice each other. Each one ends as if it were the
only one, and in whatever order they are carried out, the descriptors are the same in the end.
-/

namespace GranuleMonitor

variable {region : Region} {α β : Type} {own : Target region → Prop}

/-- A computation is followed by an action that is local for the value that it gives. -/
theorem Act.Local.of_ofExcept {computed : Except Fault α} {next : α → Act region β}
    (second : ∀ value, computed = .ok value → (next value).Local own) :
    (ofExcept computed >>= next).Local own := by
  cases computed with
  | error cause => exact local_fail cause
  | ok value => exact second value rfl

namespace Acquisition

/-- The descriptors at the places of a locking operation. -/
def Names (call : Acquisition) (target : Target region) : Prop :=
  ∃ place ∈ call.places, place.target region = .ok target

/-- A locking operation names what it needs. -/
theorem names_of_needs {call : Acquisition} {target : Target region} (needs : call.Needs target) :
    call.Names target := by
  obtain ⟨targets, resolved, member⟩ := needs
  obtain ⟨resolved, -⟩ := Option.filter_eq_some_iff.mp resolved
  have listed : .ok target ∈ call.places.map (Place.target region) := by
    rw [resolvePlaces?_eq_some_iff.mp resolved]
    exact List.mem_map_of_mem member
  exact List.mem_map.mp listed

/-- A locking operation is local to the descriptors that it names. -/
theorem local_perform (call : Acquisition) (mine : ∀ target, call.Names target → own target) :
    call.perform.Local own := by
  have untrusted {addr : Address} (place : .granule addr ∈ call.places) (target : Target region)
      (found : region.entryAt? addr = some target) : own target :=
    mine target ⟨_, place, target_granule_of_entryAt? found⟩
  cases call with
  | lock place role =>
    refine .of_ofExcept fun target leads => ?_
    exact .map (Target.local_lock (mine target ⟨place, by simp [places], leads⟩) role) _
  | lockOnMatch place role =>
    refine .of_ofExcept fun target leads => ?_
    exact .map (Target.local_lockOnMatch (mine target ⟨place, by simp [places], leads⟩) role) _
  | lockAt request =>
    exact .map (local_lockAt (untrusted (by simp [places])) request.role) _
  | lockUnreferenced request =>
    exact .map (local_lockUnreferenced (untrusted (by simp [places])) request.role) _
  | lockPair first second =>
    have setMine (position : Fin 2) : ∀ target,
        region.entryAt? (#v[first, second].get position).addr = some target → own target := by
      refine untrusted ?_
      revert position
      simp [Fin.forall_fin_two, places, vectorGet_eq]
    refine .bind (.bind (local_lockSet setMine) fun guards? => ?_) fun pair? => ?_
    · cases guards? <;> exact Act.local_pure _
    · cases pair? <;> exact Act.local_pure _
  | lockSet requests =>
    have setMine (position : Fin requests.toArray.size) : ∀ target,
        region.entryAt? (requests.toArray.toVector.get position).addr = some target →
          own target :=
      untrusted (List.mem_map.mpr ⟨_, by simp [vectorGet_eq], rfl⟩)
    refine .bind (local_lockSet setMine) fun guards? => ?_
    cases guards? <;> exact Act.local_pure _

end Acquisition

namespace Operation

/-- An operation on descriptors: it locks some, uses or gives back a guard, or counts references
without the lock. -/
def OnDescriptors : Operation region → Prop
  | .acquire _ | .useGuard .. | .release .. | .abandon _ | .count .. | .references _ => True
  | .fill .. | .isZeroed _ | .read .. | .selectCpu _ | .mapWindow .. | .unmapWindow .. => False

/-- The descriptors that an operation names, by an address or by a guard. -/
def Names (operation : Operation region) (target : Target region) : Prop :=
  match operation with
  | .acquire call => call.Names target
  | .useGuard guard _ | .release guard _ | .abandon guard => guard.target = target
  | .count _ place | .references place => place.target region = .ok target
  | .fill .. | .isZeroed _ | .read .. | .selectCpu _ | .mapWindow .. | .unmapWindow .. => False

/-- The operations name no descriptor both. -/
def Apart (first second : Operation region) : Prop :=
  ∀ target, first.Names target → ¬ second.Names target

theorem Apart.symm {first second : Operation region} (apart : first.Apart second) :
    second.Apart first :=
  fun target named namedFirst => apart target namedFirst named

variable {operation : Operation region}

/-- An operation on descriptors is local to those that it names. -/
theorem local_perform (onDescriptors : operation.OnDescriptors)
    (mine : ∀ target, operation.Names target → own target) : operation.perform.Local own := by
  cases operation with
  | acquire call => exact .map (call.local_perform mine) _
  | useGuard guard call => exact .map (Guard.local_perform (mine _ rfl) call) _
  | release guard next? => exact .map (Guard.local_releaseGuard (mine _ rfl) next?) _
  | abandon guard => exact .map (Guard.local_abandon (mine _ rfl)) _
  | count call place =>
    refine .map (.of_ofExcept fun target leads => ?_) _
    exact Target.local_countOnce (mine target leads) call
  | references place =>
    refine .map (.of_ofExcept fun target leads => ?_) _
    exact Target.local_references (mine target leads)
  | _ => exact onDescriptors.elim

/-- The guard that an operation needs is for a descriptor that it names. -/
theorem names_of_guard? {guard : Guard region} (needs : operation.guard? = some guard) :
    operation.Names guard.target := by
  cases operation <;> first | contradiction | exact congrArg _ (Option.some.inj needs)

/-- A guard is given back by an operation that needs it. -/
theorem guard?_of_returned? {guard : Guard region} (returns : operation.returned? = some guard) :
    operation.guard? = some guard := by
  cases operation <;> first | contradiction | exact returns

/-- An operation gives guards only for descriptors that it names. -/
theorem names_of_gives {monitor last : Monitor region} {outcome : Outcome region}
    (ended : operation.perform monitor = .ok outcome last) {guard : Guard region}
    (given : guard ∈ outcome.guards) : operation.Names guard.target := by
  cases operation with
  | acquire call =>
    obtain ⟨acquired, middle, performed, finished⟩ := Act.bind_apply_eq_ok_iff.mp ended
    obtain ⟨rfl, -⟩ := EStateM.Result.ok.inj finished
    exact Acquisition.names_of_needs (((call.seizes monitor).granted performed).2.1 guard given).2
  | _ =>
    -- every other operation replies, and a reply gives no guards
    obtain ⟨_, _, -, finished⟩ := Act.bind_apply_eq_ok_iff.mp ended
    obtain ⟨rfl, -⟩ := EStateM.Result.ok.inj finished
    exact absurd given List.not_mem_nil

/-- How often a guard is alive when an operation has given its own back. -/
theorem count_remaining (live : List (Guard region)) (guard : Guard region) :
    (operation.remaining live).count guard =
      live.count guard - if operation.returned? = some guard then 1 else 0 := by
  unfold remaining
  cases operation.returned? with
  | none => simp
  | some returned => simp [List.count_erase]

end Operation

/-- The custodies agree on some descriptors and on the guards for them that are alive. -/
structure Custody.Alike (own : Target region → Prop) (left right : Custody region) : Prop where
  monitor : left.monitor.Alike own right.monitor
  live : ∀ guard : Guard region, own guard.target → left.live.count guard = right.live.count guard

namespace Custody

namespace Alike

variable {left middle right : Custody region}

theorem refl (own : Target region → Prop) (custody : Custody region) : custody.Alike own custody :=
  ⟨.refl own _, fun _ _ => rfl⟩

theorem symm (alike : left.Alike own right) : right.Alike own left :=
  ⟨alike.monitor.symm, fun guard mine => (alike.live guard mine).symm⟩

theorem trans (first : left.Alike own middle) (second : middle.Alike own right) :
    left.Alike own right :=
  ⟨first.monitor.trans second.monitor,
    fun guard mine => (first.live guard mine).trans (second.live guard mine)⟩

/-- Custodies that agree on everything have the same descriptors. -/
theorem store_eq (alike : left.Alike (fun _ => True) right) :
    left.monitor.store = right.monitor.store :=
  Store.ext_get fun target => alike.monitor.descriptors target trivial

end Alike

variable {custody left right : Custody region} {operation first second : Operation region}

/-- What is done with a live guard depends on how the operation ends. -/
theorem step_of_alive (alive : operation.guard?.all custody.live.contains) :
    custody.step operation =
      match operation.perform.result custody.monitor with
      | .ok outcome =>
        (outcome, ⟨operation.perform.after custody.monitor,
          operation.remaining custody.live ++ outcome.guards⟩)
      | .error (.fault cause) =>
        (.halted (.fault cause), ⟨operation.perform.after custody.monitor,
          operation.remaining custody.live⟩)
      | .error (.waiting target) => (.halted (.waiting target), custody) := by
  unfold step Act.result Act.after
  rw [if_pos alive]
  cases operation.perform custody.monitor with
  | ok outcome last => rfl
  | error halt last => cases halt <;> rfl

/-- An operation ends in the same way and does the same in custodies that agree on what it names. -/
theorem Alike.step (alike : left.Alike own right) (onDescriptors : operation.OnDescriptors)
    (mine : ∀ target, operation.Names target → own target) :
    (left.step operation).1 = (right.step operation).1 ∧
      (left.step operation).2.Alike own (right.step operation).2 := by
  have isLocal := operation.local_perform onDescriptors mine
  have sameAlive : operation.guard?.all left.live.contains =
      operation.guard?.all right.live.contains := by
    cases needs : operation.guard? with
    | none => rfl
    | some guard =>
      have count := alike.live guard (mine _ (Operation.names_of_guard? needs))
      rw [Option.all_some, Option.all_some, Bool.eq_iff_iff, List.contains_iff_mem,
        List.contains_iff_mem, ← List.count_pos_iff, ← List.count_pos_iff, count]
  have remaining (guard : Guard region) (guardMine : own guard.target) :
      (operation.remaining left.live).count guard =
        (operation.remaining right.live).count guard := by
    rw [Operation.count_remaining, Operation.count_remaining, alike.live guard guardMine]
  have after := isLocal.inside alike.monitor
  by_cases alive : operation.guard?.all right.live.contains
  case neg =>
    rw [step_of_dead alive, step_of_dead (sameAlive ▸ alive)]
    exact ⟨rfl, alike⟩
  rw [step_of_alive alive, step_of_alive (sameAlive ▸ alive), isLocal.result alike.monitor]
  cases operation.perform.result right.monitor with
  | ok outcome =>
    refine ⟨rfl, after, fun guard guardMine => ?_⟩
    rw [List.count_append, List.count_append, remaining guard guardMine]
  | error halt =>
    cases halt with
    | fault cause => exact ⟨rfl, after, remaining⟩
    | waiting target => exact ⟨rfl, alike⟩

/-- An operation changes nothing about descriptors that it does not name. -/
theorem step_alike (custody : Custody region) (onDescriptors : operation.OnDescriptors) :
    (custody.step operation).2.Alike (fun target => ¬ operation.Names target) custody := by
  have isLocal := operation.local_perform onDescriptors fun _ named => named
  have remaining (guard : Guard region) (foreign : ¬ operation.Names guard.target) :
      (operation.remaining custody.live).count guard = custody.live.count guard := by
    rw [Operation.count_remaining, if_neg, Nat.sub_zero]
    exact fun returns => foreign (Operation.names_of_guard? (Operation.guard?_of_returned? returns))
  by_cases alive : operation.guard?.all custody.live.contains
  case neg =>
    rw [step_of_dead alive]
    exact .refl _ custody
  have after := isLocal.outside custody.monitor
  rw [step_of_alive alive]
  cases result : operation.perform.result custody.monitor with
  | ok outcome =>
    refine ⟨after, fun guard foreign => ?_⟩
    have notGiven : guard ∉ outcome.guards := by
      intro given
      unfold Act.result at result
      split at result
      · next ended =>
        obtain rfl := Except.ok.inj result
        exact foreign (Operation.names_of_gives ended given)
      · contradiction
    rw [List.count_append, remaining guard foreign, List.count_eq_zero.mpr notGiven, Nat.add_zero]
  | error halt =>
    cases halt with
    | fault cause => exact ⟨after, remaining⟩
    | waiting target => exact .refl _ custody

/-- An operation does not notice one before it that is apart from it. -/
theorem step_of_apart (custody : Custody region) (firstKind : first.OnDescriptors)
    (secondKind : second.OnDescriptors) (apart : first.Apart second) :
    ((custody.step first).2.step second).1 = (custody.step second).1 ∧
      ((custody.step first).2.step second).2.Alike (fun target => ¬ first.Names target)
        (custody.step second).2 :=
  (custody.step_alike firstKind).step secondKind fun target named namedFirst =>
    apart target namedFirst named

/-- Two operations that are apart leave the same behind in both orders. -/
theorem step_comm (custody : Custody region) (firstKind : first.OnDescriptors)
    (secondKind : second.OnDescriptors) (apart : first.Apart second) :
    ((custody.step first).2.step second).2.Alike (fun _ => True)
      ((custody.step second).2.step first).2 := by
  -- what the first one does not name is as the second one alone leaves it, and the other way round
  have offFirst := (custody.step_of_apart firstKind secondKind apart).2.trans
    ((custody.step second).2.step_alike firstKind).symm
  have offSecond := ((custody.step first).2.step_alike secondKind).trans
    (custody.step_of_apart secondKind firstKind apart.symm).2.symm
  refine ⟨(offFirst.monitor.union offSecond.monitor).mono fun target _ => ?_, fun guard _ => ?_⟩
  · exact not_or_of_imp (apart target)
  · by_cases named : first.Names guard.target
    · exact offSecond.live guard (apart _ named)
    · exact offFirst.live guard named

/-- Custodies that agree on everything go through the same run. -/
theorem Alike.play {operations : List (Operation region)}
    (kind : ∀ operation ∈ operations, operation.OnDescriptors)
    (alike : left.Alike (fun _ => True) right) :
    (left.play operations).1 = (right.play operations).1 ∧
      (left.play operations).2.Alike (fun _ => True) (right.play operations).2 := by
  induction operations generalizing left right with
  | nil => exact ⟨rfl, alike⟩
  | cons first rest inductionHypothesis =>
    obtain ⟨firstKind, restKind⟩ := List.forall_mem_cons.mp kind
    obtain ⟨outcome, next⟩ := alike.step firstKind fun _ _ => trivial
    obtain ⟨events, last⟩ := inductionHypothesis restKind next
    simp only [play_cons]
    exact ⟨by rw [outcome, events], last⟩

/-- Operations that are pairwise apart each end as if they were the only one. -/
theorem play_of_apart {operations : List (Operation region)} (custody : Custody region)
    (kind : ∀ operation ∈ operations, operation.OnDescriptors)
    (apart : operations.Pairwise Operation.Apart) :
    (custody.play operations).1 =
      operations.map fun operation => ⟨operation, (custody.step operation).1⟩ := by
  induction operations generalizing custody with
  | nil => rfl
  | cons first rest inductionHypothesis =>
    obtain ⟨firstKind, restKind⟩ := List.forall_mem_cons.mp kind
    obtain ⟨firstApart, restApart⟩ := List.pairwise_cons.mp apart
    simp only [play_cons, List.map_cons, inductionHypothesis _ restKind restApart]
    congr 1
    refine List.map_congr_left fun operation member => ?_
    rw [(custody.step_of_apart firstKind (restKind _ member) (firstApart _ member)).1]

/-- Operations that are pairwise apart leave the same behind in every order. -/
theorem play_perm {operations others : List (Operation region)}
    (reordered : operations.Perm others)
    (kind : ∀ operation ∈ operations, operation.OnDescriptors)
    (apart : operations.Pairwise Operation.Apart) (custody : Custody region) :
    (custody.play operations).2.Alike (fun _ => True) (custody.play others).2 := by
  induction reordered generalizing custody with
  | nil => exact .refl _ custody
  | cons first _ inductionHypothesis =>
    exact inductionHypothesis (List.forall_mem_cons.mp kind).2 (List.pairwise_cons.mp apart).2
      (custody.step first).2
  | swap second first rest =>
    obtain ⟨firstKind, laterKind⟩ := List.forall_mem_cons.mp kind
    obtain ⟨secondKind, restKind⟩ := List.forall_mem_cons.mp laterKind
    have apartPair := (List.pairwise_cons.mp apart).1 _ List.mem_cons_self
    exact ((custody.step_comm firstKind secondKind apartPair).play restKind).2
  | trans before _ earlier later =>
    have middleKind := fun operation member => kind operation (before.mem_iff.mpr member)
    have middleApart := apart.perm before fun apart => apart.symm
    exact (earlier kind apart custody).trans (later middleKind middleApart custody)

/-- In every order of operations that are pairwise apart, each ends as if it were the only one, and
the descriptors are the same in the end. -/
theorem orders_of_apart {operations others : List (Operation region)} (custody : Custody region)
    (kind : ∀ operation ∈ operations, operation.OnDescriptors)
    (apart : operations.Pairwise Operation.Apart) (reordered : operations.Perm others) :
    (custody.play others).1 =
        others.map (fun operation => ⟨operation, (custody.step operation).1⟩) ∧
      (custody.play others).2.monitor.store = (custody.play operations).2.monitor.store := by
  refine ⟨custody.play_of_apart ?_ ?_, (play_perm reordered kind apart custody).symm.store_eq⟩
  · exact fun operation member => kind operation (reordered.mem_iff.mpr member)
  · exact apart.perm reordered fun apart => apart.symm

/-- An operation that gives a guard back is on descriptors, and names that of the guard alone. -/
theorem names_of_returned {guard : Guard region} (returns : operation.returned? = some guard) :
    operation.OnDescriptors ∧ ∀ target, operation.Names target → guard.target = target := by
  cases operation <;> first
    | contradiction
    | exact ⟨trivial, fun target named => Option.some.inj returns ▸ named⟩

/-- Operations that give different guards back are pairwise apart. -/
theorem apart_of_returned {releases : List (Operation region)} {guards : List (Guard region)}
    (returns : releases.map Operation.returned? = guards.map some) (different : guards.Nodup) :
    (∀ release ∈ releases, release.OnDescriptors) ∧ releases.Pairwise Operation.Apart := by
  have gives (release : Operation region) (member : release ∈ releases) :
      ∃ guard, release.returned? = some guard := by
    have listed : release.returned? ∈ guards.map some := returns ▸ List.mem_map_of_mem member
    obtain ⟨guard, -, given⟩ := List.mem_map.mp listed
    exact ⟨guard, given.symm⟩
  have distinct : (releases.map Operation.returned?).Pairwise (· ≠ ·) := by
    rw [returns]
    exact different.map (Option.some_injective _)
  refine ⟨fun release member => ?_, (List.pairwise_map.mp distinct).imp_of_mem ?_⟩
  · obtain ⟨guard, given⟩ := gives release member
    exact (names_of_returned given).1
  · intro first second firstMember secondMember differs target namedFirst namedSecond
    obtain ⟨guard, given⟩ := gives first firstMember
    obtain ⟨other, otherGiven⟩ := gives second secondMember
    have same : guard.target = other.target :=
      ((names_of_returned given).2 target namedFirst).trans
        ((names_of_returned otherGiven).2 target namedSecond).symm
    rw [given, otherGiven] at differs
    exact differs (congrArg (fun target => some (Guard.mk target)) same)

/-- Operations on descriptors that name different ones are independent, in every custody. Of two,
each ends in the same way whether it comes first or second, and the descriptors are the same in the
end. Of any number, each ends as if it were the only one, in whatever order they are carried out,
and the order does not matter to the descriptors. So it is with different guards that are given
back. -/
theorem independent_of_apart (custody : Custody region) :
    (∀ first second : Operation region, first.OnDescriptors → second.OnDescriptors →
      first.Apart second →
        ((custody.step second).2.step first).1 = (custody.step first).1 ∧
        ((custody.step first).2.step second).1 = (custody.step second).1 ∧
        ((custody.step first).2.step second).2.monitor.store =
          ((custody.step second).2.step first).2.monitor.store) ∧
    (∀ operations : List (Operation region),
      (∀ operation ∈ operations, operation.OnDescriptors) →
      operations.Pairwise Operation.Apart →
        ∀ others, operations.Perm others →
          (custody.play others).1 =
              others.map (fun operation => ⟨operation, (custody.step operation).1⟩) ∧
            (custody.play others).2.monitor.store =
              (custody.play operations).2.monitor.store) ∧
    ∀ (releases : List (Operation region)) (guards : List (Guard region)),
      releases.map Operation.returned? = guards.map some → guards.Nodup →
        ∀ others, releases.Perm others →
          (custody.play others).1 =
              others.map (fun release => ⟨release, (custody.step release).1⟩) ∧
            (custody.play others).2.monitor.store = (custody.play releases).2.monitor.store := by
  refine ⟨fun first second firstKind secondKind apart => ⟨?_, ?_, ?_⟩, ?_, ?_⟩
  · exact (custody.step_of_apart secondKind firstKind apart.symm).1
  · exact (custody.step_of_apart firstKind secondKind apart).1
  · exact (custody.step_comm firstKind secondKind apart).store_eq
  · exact fun _ kind apart _ reordered => custody.orders_of_apart kind apart reordered
  · intro releases guards returns different others reordered
    obtain ⟨kind, apart⟩ := apart_of_returned returns different
    exact custody.orders_of_apart kind apart reordered

/-- A set that is rolled back because of its second granule, and an attempt that faults. -/
def rollback : Operation threeGranules :=
  .acquire (.lockSet [⟨0x1000, .nonsecure⟩, ⟨0x2000, .data⟩])

/-- An attempt at the third granule that faults. -/
def mistake : Operation threeGranules := .acquire (.lock (.granule 0x3000) .data)

/-- A failing set and a fault at another granule do not notice each other, and the release that
finds a fault finds it also after the other guard was lost. -/
theorem rollback_independent :
    let fresh := start (Monitor.create threeGranules .absent)
    let custody := (fresh.play mishandling).2
    ((fresh.step mistake).2.step rollback).1 = .acquired .nothing ∧
      ((fresh.step rollback).2.step mistake).1 = .halted (.fault (.roleMismatch .nonsecure .data)) ∧
      ((fresh.step rollback).2.step mistake).2.monitor.store =
        ((fresh.step mistake).2.step rollback).2.monitor.store ∧
      (custody.play cleanup.reverse).1.map (·.outcome) =
        [.replied .done, .halted (.fault (.delegatedInUse 1))] ∧
      (custody.play cleanup.reverse).2.monitor.store = (custody.play cleanup).2.monitor.store := by
  intro fresh custody
  have apart : rollback.Apart mistake := by
    rintro target ⟨place, member, leads⟩ ⟨other, otherMember, otherLeads⟩
    obtain rfl : other = .granule 0x3000 := List.mem_singleton.mp otherMember
    rw [← otherLeads] at leads
    revert place
    decide +kernel
  obtain ⟨set, attempt, store⟩ :=
    (independent_of_apart fresh).1 rollback mistake trivial trivial apart
  obtain ⟨events, released⟩ :=
    (independent_of_apart custody).2.2 cleanup [lowest, middle] rfl (by decide +kernel)
      cleanup.reverse (List.reverse_perm _).symm
  refine ⟨set.trans ?_, attempt.trans ?_, store, ?_, released⟩
  · decide +kernel
  · decide +kernel
  · rw [events]
    decide +kernel

end Custody

end GranuleMonitor
