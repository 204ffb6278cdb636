import GranuleMonitor.Proofs.Crowd.Alone

/-!
# Nobody waits in a circle

A caller is blocked either with nothing in its hands, or while it locks a set, by a granule above
all that it has. The granules that callers are blocked by therefore ascend from each caller to the
one that it waits for. Since there are only so many granules, waiting ends with a caller that is not
blocked: `Crowd.deadlock_free`.
-/

namespace GranuleMonitor

variable {region : Region} {k : Nat}

/-- How many granules there are from a descriptor on. The one that stands alone comes before all
granules. -/
def Target.headroom : Target region → Nat
  | .entry index => region.size - index
  | .detached => region.size + 1

namespace Crowd

variable {crowd : Crowd region k} {caller other : Fin k} {target : Target region}

/-- Who is blocked is about to lock one granule, or the next granule of a set. -/
theorem blocked_cases (blocked : crowd.BlockedOn caller target) :
    (∃ call last, crowd.phases.get caller = .seeking call ∧
      call.perform crowd.monitor = .error (.waiting target) last) ∨
    ∃ n, ∃ claims : Vector (Claim region) n, ∃ position later holdings last,
      crowd.phases.get caller = .collecting claims (position :: later) holdings ∧
        GranuleMonitor.lockNext claims holdings position crowd.monitor =
          .error (.waiting target) last := by
  unfold BlockedOn Phase.blockedOn? at blocked
  split at blocked
  case h_1 | h_2 | h_3 => contradiction
  case h_4 call seeking =>
    left
    split at blocked
    · next ended =>
      cases blocked
      exact ⟨call, _, seeking, ended⟩
    · contradiction
  case h_5 n claims position later holdings collecting =>
    right
    split at blocked
    · next ended =>
      cases blocked
      exact ⟨n, claims, position, later, holdings, _, collecting, ended⟩
    · contradiction

namespace Sound

/-- A caller is blocked only by a lock that is taken. -/
theorem locked_of_blocked (sound : crowd.Sound) (blocked : crowd.BlockedOn caller target) :
    (crowd.monitor.store.get target).locked = true := by
  rcases blocked_cases blocked with ⟨call, last, -, waits⟩ |
    ⟨n, claims, position, later, holdings, last, collecting, waits⟩
  · exact ((call.seizes crowd.monitor).waited waits).1
  · obtain ⟨-, taken, -, rfl⟩ := sound.fits_collecting collecting
    exact (lockNext_waiting waits).2.1

/-- A caller is blocked only by a granule above all that it has. -/
theorem below_of_blocked (sound : crowd.Sound) (blocked : crowd.BlockedOn caller target)
    {held : Target region} (holds : crowd.Holds caller held) :
    ∃ above below : Fin region.size, target = .entry above ∧ held = .entry below ∧
      region.address below < region.address above := by
  unfold Holds at holds
  rcases blocked_cases blocked with ⟨call, last, seeking, -⟩ |
    ⟨n, claims, position, later, holdings, last, collecting, waits⟩
  · rw [seeking] at holds
    exact absurd holds List.not_mem_nil
  · obtain ⟨distinct, taken, order, rfl⟩ := sound.fits_collecting collecting
    obtain ⟨rfl, -⟩ := lockNext_waiting waits
    rw [collecting, Phase.guards_collecting, Holdings.mem_guards_ofTaken] at holds
    obtain ⟨earlier, inTaken, same⟩ := List.mem_map.mp holds
    have strict := order ▸ lockingOrder_strict distinct
    have less := (List.pairwise_append.mp strict).2.2 earlier inTaken position List.mem_cons_self
    refine ⟨(claims.get position).index, (claims.get earlier).index, rfl, ?_, ?_⟩
    · exact (congrArg Guard.target same).symm
    · exact region.address_lt_address_iff.mpr less

/-- From a blocked caller to one that it waits for and that is blocked as well, there are fewer
granules ahead. -/
theorem headroom_lt (sound : crowd.Sound) (waits : crowd.WaitsFor caller other)
    (blocked : crowd.BlockedOn caller target) {next : Target region}
    (otherBlocked : crowd.BlockedOn other next) : next.headroom < target.headroom := by
  obtain ⟨wanted, wants, holds⟩ := waits
  obtain rfl : wanted = target := Option.some.inj (wants.symm.trans blocked)
  obtain ⟨above, below, rfl, rfl, less⟩ := sound.below_of_blocked otherBlocked holds
  have less : below < above := region.address_lt_address_iff.mp less
  simp only [Target.headroom]
  omega

/-- The same along any number of callers, each of which waits for the next one. -/
theorem headroom_lt_of_transGen (sound : crowd.Sound)
    (waits : Relation.TransGen crowd.WaitsFor caller other)
    (blocked : crowd.BlockedOn caller target) {next : Target region}
    (otherBlocked : crowd.BlockedOn other next) : next.headroom < target.headroom := by
  induction waits generalizing next with
  | single waits => exact sound.headroom_lt waits blocked otherBlocked
  | tail _ waits inductionHypothesis =>
    obtain ⟨wanted, wants, -⟩ := id waits
    exact (sound.headroom_lt waits wants otherBlocked).trans (inductionHypothesis wants)

/-- Waiting leads from every blocked caller to one that is not blocked. -/
theorem leads_to_unblocked (sound : crowd.Sound) (blocked : crowd.BlockedOn caller target) :
    ∃ other, Relation.TransGen crowd.WaitsFor caller other ∧
      ∀ target, ¬ crowd.BlockedOn other target := by
  induction room : target.headroom using Nat.strong_induction_on generalizing caller target with
  | _ room inductionHypothesis =>
    obtain ⟨other, holds⟩ := (sound.locked_iff target).mp (sound.locked_of_blocked blocked)
    have waits : crowd.WaitsFor caller other := ⟨target, blocked, holds⟩
    by_cases unblocked : ∀ target, ¬ crowd.BlockedOn other target
    · exact ⟨other, .single waits, unblocked⟩
    · simp only [not_forall, not_not] at unblocked
      obtain ⟨next, otherBlocked⟩ := unblocked
      have less := sound.headroom_lt waits blocked otherBlocked
      rw [room] at less
      obtain ⟨last, path, lastUnblocked⟩ := inductionHypothesis _ less otherBlocked rfl
      exact ⟨last, .head waits path, lastUnblocked⟩

end Sound

/-- Callers that lock sets in the locking order, and single granules only with nothing in their
hands, do not wait for each other in a circle. In every crowd that can come about, a caller is
blocked only by a granule above all granules that it has; so nobody waits for himself, over however
many others, and from each blocked caller one comes to a caller that is not blocked. -/
theorem deadlock_free (reachable : crowd.Reachable) :
    (∀ caller target, crowd.BlockedOn caller target → ∀ held, crowd.Holds caller held →
      ∃ above below : Fin region.size, target = .entry above ∧ held = .entry below ∧
        region.address below < region.address above) ∧
      (∀ caller, ¬ Relation.TransGen crowd.WaitsFor caller caller) ∧
      ∀ caller target, crowd.BlockedOn caller target →
        ∃ other, Relation.TransGen crowd.WaitsFor caller other ∧
          ∀ target, ¬ crowd.BlockedOn other target := by
  have sound := Sound.of_reachable reachable
  refine ⟨fun _ _ blocked _ holds => sound.below_of_blocked blocked holds, ?_,
    fun _ _ blocked => sound.leads_to_unblocked blocked⟩
  intro caller circle
  obtain ⟨next, waits, -⟩ := (Relation.TransGen.head'_iff).mp circle
  obtain ⟨target, blocked, -⟩ := waits
  exact absurd (sound.headroom_lt_of_transGen circle blocked blocked) (lt_irrefl _)

/-- Two callers in front of three granules. -/
def twoCallers : Crowd threeGranules 2 :=
  ⟨.create threeGranules .absent, .replicate 2 .idle⟩

/-- Asks for all three granules from the highest one down. -/
def descending : Vector Request 3 :=
  #v[⟨0x3000, .nonsecure⟩, ⟨0x2000, .nonsecure⟩, ⟨0x1000, .nonsecure⟩]

/-- The first caller locks the middle granule. The second one asks for all granules and is blocked
after it has locked the lowest one, and the first one is not blocked. -/
theorem descending_blocked :
    ∃ crowd : Crowd threeGranules 2, crowd.Reachable ∧
      crowd.BlockedOn 1 (.entry ⟨1, by decide⟩) ∧
        ∃ other, Relation.TransGen crowd.WaitsFor 1 other ∧
          ∀ target, ¬ crowd.BlockedOn other target := by
  let middle : Target threeGranules := .entry ⟨1, by decide⟩
  let lowest : Target threeGranules := .entry ⟨0, by decide⟩
  let start := twoCallers.monitor
  let seized : Monitor threeGranules :=
    { start with
      store := start.store.set middle Descriptor.fresh.lock }
  let stuck : Monitor threeGranules :=
    { seized with
      store := seized.store.set lowest Descriptor.fresh.lock }
  have seizes : (Acquisition.lock (.granule 0x2000) .nonsecure).perform start =
      .ok (.granted [⟨middle⟩]) seized := by rfl
  have waits : lockSet descending seized = .error (.waiting middle) stuck := by rfl
  have initial : twoCallers.Initial := by
    refine ⟨fun target => ?_, fun caller => ?_⟩
    · rw [twoCallers, Monitor.get_create]
      rfl
    · simp [twoCallers, vectorGet_eq]
  let asking := twoCallers.put 0 (.seeking (.lock (.granule 0x2000) .nonsecure)) start
  let busy := twoCallers.put 0 (.holding [⟨middle⟩]) seized
  have toAsking : Step twoCallers asking := .seek 0 _ trivial (initial.2 0)
  have toBusy : Step asking busy := by
    have step : Step asking (asking.put 0 (.holding [⟨middle⟩]) seized) :=
      .seize 0 (phase_put _ _) seizes
    rwa [put_put] at step
  have reachable : busy.Reachable := .step (.step (.initial initial) toAsking) toBusy
  have comes : busy.ComesTo 1 _ (lockSet descending busy.monitor) :=
    comesTo_lockSet (by rw [phases_put, if_neg (by decide), initial.2]) descending
  rw [show lockSet descending busy.monitor = .error (.waiting middle) stuck from waits] at comes
  obtain ⟨stopped, steps, -, blocked⟩ := comes
  have stoppedReachable := reachable.steps steps
  exact ⟨stopped, stoppedReachable, blocked,
    (deadlock_free stoppedReachable).2.2 1 middle blocked⟩

end Crowd

end GranuleMonitor
