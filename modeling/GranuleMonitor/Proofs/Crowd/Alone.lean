import GranuleMonitor.Proofs.Crowd.Exclusion
import Mathlib.Logic.Relation

/-!
# A caller that is left alone

The steps of a crowd take the locking of a set apart. If nobody else makes a step in between, they
put `lockSet` together again: `Crowd.comesTo_lockSet` leads a caller to just what the operation
gives, refuses, faults with or waits for.
-/

namespace GranuleMonitor

variable {region : Region} {k n : Nat}

namespace Crowd

variable {crowd : Crowd region k} {caller : Fin k}

/-- Any number of steps. -/
abbrev Steps : Crowd region k → Crowd region k → Prop := Relation.ReflTransGen Step

/-- Crowds that can come about lead only to such crowds. -/
theorem Reachable.steps {next : Crowd region k} (reachable : crowd.Reachable)
    (steps : crowd.Steps next) : next.Reachable := by
  induction steps with
  | refl => exact reachable
  | tail _ step inductionHypothesis => exact .step inductionHypothesis step

theorem put_self : crowd.put caller (crowd.phases.get caller) crowd.monitor = crowd := by
  simp [put, vectorGet_eq]

theorem put_put (first second : Phase region) (middle last : Monitor region) :
    (crowd.put caller first middle).put caller second last = crowd.put caller second last := by
  simp [put]

theorem phase_put (phase : Phase region) (monitor : Monitor region) :
    (crowd.put caller phase monitor).phases.get caller = phase := by
  rw [phases_put, if_pos rfl]

/-- A caller comes to what an operation leads to: to the phase after its result, to nothing after a
fault, or to the lock that is waited for. -/
def ComesTo {α : Type} (crowd : Crowd region k) (caller : Fin k) (next : α → Phase region)
    (outcome : EStateM.Result (Halt region) (Monitor region) α) : Prop :=
  match outcome with
  | .ok result last => crowd.Steps (crowd.put caller (next result) last)
  | .error (.fault _) last => crowd.Steps (crowd.put caller .idle last)
  | .error (.waiting target) last =>
    ∃ stopped, crowd.Steps stopped ∧ stopped.monitor = last ∧ stopped.BlockedOn caller target

/-- What a caller comes to after one of its steps, it comes to. -/
theorem ComesTo.of_step {α : Type} {next : α → Phase region} {phase : Phase region}
    {monitor : Monitor region} {outcome : EStateM.Result (Halt region) (Monitor region) α}
    (step : Step crowd (crowd.put caller phase monitor))
    (rest : (crowd.put caller phase monitor).ComesTo caller next outcome) :
    crowd.ComesTo caller next outcome := by
  cases outcome with
  | ok result last =>
    rw [ComesTo, put_put] at rest
    exact .head step rest
  | error halt last =>
    cases halt with
    | fault cause =>
      rw [ComesTo, put_put] at rest
      exact .head step rest
    | waiting target =>
      obtain ⟨stopped, steps, sameMonitor, blocked⟩ := rest
      exact ⟨stopped, .head step steps, sameMonitor, blocked⟩

/-- The phase of a caller after the loop over a locking order. -/
def afterLoop (claims : Vector (Claim region) n) : Option (Holdings region n) → Phase region
  | some holdings => .collecting claims [] holdings
  | none => .idle

/-- The loop over a locking order, in steps. -/
theorem comesTo_lockInOrder {claims : Vector (Claim region) n} {taken pending : List (Fin n)}
    (collecting : crowd.phases.get caller = .collecting claims pending (.ofTaken claims taken)) :
    crowd.ComesTo caller (afterLoop claims)
      (lockInOrder claims pending (.ofTaken claims taken) crowd.monitor) := by
  induction pending generalizing crowd taken with
  | nil =>
    change crowd.Steps (crowd.put caller (.collecting claims [] (.ofTaken claims taken)) _)
    rw [← collecting, put_self]
  | cons position later inductionHypothesis =>
    rw [lockInOrder, Act.bind_apply]
    cases ended : GranuleMonitor.lockNext claims (.ofTaken claims taken) position crowd.monitor with
    | ok next? middle =>
      cases next? with
      | none => exact .single (.giveUp caller collecting ended)
      | some next =>
        obtain ⟨-, rfl, -⟩ := lockNext_eq_some ended
        exact .of_step (.lockNext caller collecting ended)
          (inductionHypothesis (phase_put _ middle))
    | error halt last =>
      cases halt with
      | fault cause => exact .single (.giveUpFault caller collecting ended)
      | waiting target =>
        obtain ⟨-, -, rfl⟩ := lockNext_waiting ended
        refine ⟨crowd, .refl, rfl, ?_⟩
        simp [BlockedOn, Phase.blockedOn?, collecting, ended]

/-- A loop that comes to its end has taken all locks. -/
theorem lockInOrder_eq_some {claims : Vector (Claim region) n} {taken pending : List (Fin n)}
    {holdings : Holdings region n} {monitor last : Monitor region}
    (ended : lockInOrder claims pending (.ofTaken claims taken) monitor =
      .ok (some holdings) last) :
    holdings = .ofTaken claims (taken ++ pending) := by
  induction pending generalizing taken monitor with
  | nil =>
    cases ended
    rw [List.append_nil]
  | cons position later inductionHypothesis =>
    obtain ⟨next?, middle, locked, rest⟩ := Act.bind_apply_eq_ok_iff.mp ended
    cases next? with
    | none => cases rest
    | some next =>
      obtain ⟨-, rfl, -⟩ := lockNext_eq_some locked
      rw [inductionHypothesis rest, List.append_assoc, List.singleton_append]

/-- A caller whose set was accepted comes to what locking its claims leads to. -/
theorem comesTo_lockClaims {claims : Vector (Claim region) n}
    (collecting : crowd.phases.get caller =
      .collecting claims (lockingOrder claims) (.ofTaken claims [])) :
    crowd.ComesTo caller (fun result => .ofGuards (setGuards result))
      (lockClaims claims crowd.monitor) := by
  have loop := comesTo_lockInOrder collecting
  rw [lockClaims, Act.bind_apply, ← Holdings.ofTaken_nil claims]
  cases ended : lockInOrder claims (lockingOrder claims) (.ofTaken claims []) crowd.monitor with
  | error halt last =>
    rw [ended] at loop
    cases halt with
    | fault cause => exact loop
    | waiting target => exact loop
  | ok holdings? last =>
    rw [ended] at loop
    cases holdings? with
    | none => exact loop
    | some holdings =>
      obtain rfl := lockInOrder_eq_some ended
      have complete : (Holdings.ofTaken claims ([] ++ lockingOrder claims)).complete? =
          some (claims.map Claim.guard) := Holdings.complete?_ofTaken mem_lockingOrder
      have steps := loop.tail (.complete caller (phase_put _ last) complete)
      rw [put_put] at steps
      simp only [complete]
      exact steps

/-- A caller that asks for a set comes to what the operation leads to, if it is left alone. -/
theorem comesTo_lockSet (idle : crowd.phases.get caller = .idle) (requests : Vector Request n) :
    crowd.ComesTo caller (fun result => .ofGuards (setGuards result))
      (lockSet requests crowd.monitor) := by
  unfold lockSet
  cases resolved : resolveAll region requests with
  | error addr =>
    exact .single (.refuse caller requests (.unknownInSet addr) idle (by simp [resolved]))
  | ok claims =>
    dsimp only
    cases repeated : repeatsNext claims (lockingOrder claims) with
    | true =>
      exact .single (.refuse caller requests .duplicateInSet idle (by simp [resolved, repeated]))
    | false =>
      refine .of_step (.ask caller idle resolved repeated) ?_
      refine comesTo_lockClaims ?_
      rw [phase_put, Phase.collect, Holdings.ofTaken_nil]

end Crowd

end GranuleMonitor
