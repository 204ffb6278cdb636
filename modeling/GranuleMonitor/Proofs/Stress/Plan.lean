import GranuleMonitor.Proofs.Backing
import GranuleMonitor.Stress.Interleaving
import Mathlib.Algebra.Ring.Int.Defs

/-!
# The calls that a task consists of

What a worker owes is read off the calls that are still to come. It has the locks of the granules
that they are about (`Holds`), and each of these granules is in a state from which the calls give it
back in order (`Ready`). Some calls count in one direction and others, later in the same list, in the
other one, so calls have weights, and `weigh` adds them up. `Plan` states what the list of a whole
task has in common with all others, and `Plan.rejection`, `Plan.delegation`, `Plan.undelegation`,
`Plan.pair` and `Plan.count` are the lists that there are.
-/

namespace GranuleMonitor

variable {region : Region}

/-- The index of a descriptor, unless it is the one that stands alone. -/
def Target.index? : Target region → Option (Fin region.size)
  | .entry index => some index
  | .detached => none

namespace Stress

namespace Call

/-- The granule that a call is about, which has to be locked for it. -/
def index? : Call region → Option (Fin region.size)
  | .scrub guard | .transition guard _ | .raise guard | .lower guard | .release guard =>
    guard.target.index?
  | .inspect addr | .refill addr => region.index? addr
  | .gain _ | .drop _ | .count _ => none

/-- The granules below `sharedGranules` are locked, the others are counted, and nothing is counted
as busy. -/
def Proper : Call region → Prop
  | .gain target | .drop target => ∃ index, target = .entry index ∧ sharedGranules ≤ index.val
  | .count outcome => outcome ≠ .busy
  | call => ∃ index, call.index? = some index ∧ index.val < sharedGranules

/-- A granule with a role, and whether its content is zero, is fit for a call. -/
def Accepts (role : Role) (zeroed : Prop) : Call region → Prop
  | .inspect _ => zeroed
  | .transition _ next =>
    role = .nonsecure ∧ next = .delegated ∧ zeroed ∨ role = .delegated ∧ next = .nonsecure
  | .release _ => role = .nonsecure ∨ role = .delegated ∧ zeroed
  | _ => True

/-- Whether a call gives the lock of its granule back. -/
def GivesBack : Call region → Prop
  | .transition .. | .release _ => True
  | _ => False

instance (call : Call region) : Decidable call.GivesBack := by
  unfold GivesBack
  split <;> infer_instance

/-- The role of the granule after a call about it. -/
def roleAfter (role : Role) : Call region → Role
  | .transition _ next => next
  | _ => role

/-- What is known about its content being zero. -/
def ZeroedAfter (zeroed : Prop) : Call region → Prop
  | .scrub _ => True
  | .refill _ => False
  | _ => zeroed

/-- A fit granule whose lock is given back is non-secure, or delegated with zero content. -/
theorem settled_of_givesBack {call : Call region} {role : Role} {zeroed : Prop}
    (gives : call.GivesBack) (accepts : call.Accepts role zeroed) :
    call.roleAfter role = .nonsecure ∨
      call.roleAfter role = .delegated ∧ call.ZeroedAfter zeroed := by
  cases call with
  | transition guard next =>
    rcases accepts with ⟨-, rfl, isZeroed⟩ | ⟨-, rfl⟩
    · exact .inr ⟨rfl, isZeroed⟩
    · exact .inl rfl
  | release guard => exact accepts
  | _ => exact gives.elim

end Call

/-- Some call of a list is about a granule. -/
def Holds (calls : List (Call region)) (index : Fin region.size) : Prop :=
  ∃ call ∈ calls, call.index? = some index

/-- A locked granule in a certain state is fit for all calls about it. The last of them, and no other
one, gives its lock back. -/
def Ready (index : Fin region.size) : List (Call region) → Role → Prop → Prop
  | [], _, _ => False
  | call :: later, role, zeroed =>
    if call.index? = some index then
      call.Accepts role zeroed ∧
        if call.GivesBack then ¬ Holds later index
        else Ready index later (call.roleAfter role) (call.ZeroedAfter zeroed)
    else Ready index later role zeroed

section Lists

variable {call : Call region} {calls later : List (Call region)} {index : Fin region.size}
  {role : Role} {zeroed zeroed' : Prop}

theorem holds_cons : Holds (call :: later) index ↔ call.index? = some index ∨ Holds later index := by
  simp [Holds]

theorem not_holds_nil : ¬ Holds ([] : List (Call region)) index := by
  simp [Holds]

/-- A granule that is ready for calls is one that they are about. -/
theorem Ready.holds (ready : Ready index calls role zeroed) : Holds calls index := by
  induction calls generalizing role zeroed with
  | nil => exact ready.elim
  | cons call later inductionHypothesis =>
    by_cases here : call.index? = some index
    · exact holds_cons.mpr (.inl here)
    · rw [Ready, if_neg here] at ready
      exact holds_cons.mpr (.inr (inductionHypothesis ready))

/-- Zero content never hurts. -/
theorem Ready.mono (ready : Ready index calls role zeroed) (implies : zeroed → zeroed') :
    Ready index calls role zeroed' := by
  induction calls generalizing role zeroed zeroed' with
  | nil => exact ready
  | cons call later inductionHypothesis =>
    by_cases here : call.index? = some index
    · rw [Ready, if_pos here] at ready ⊢
      obtain ⟨accepts, rest⟩ := ready
      constructor
      · cases call with
        | inspect addr => exact implies accepts
        | transition guard next => exact accepts.imp_left fun ⟨same, next, is⟩ => ⟨same, next, implies is⟩
        | release guard => exact accepts.imp_right fun ⟨same, is⟩ => ⟨same, implies is⟩
        | _ => trivial
      · split
        · next gives => rwa [if_pos gives] at rest
        · next keeps =>
          rw [if_neg keeps] at rest
          refine inductionHypothesis rest ?_
          cases call <;> first | exact implies | exact id
    · rw [Ready, if_neg here] at ready ⊢
      exact inductionHypothesis ready implies

end Lists

namespace Call

/-- By how much a call changes the number of references to a granule. -/
def references (index : Fin region.size) : Call region → Int
  | .raise guard => if guard.target = .entry index then 1 else 0
  | .lower guard => if guard.target = .entry index then -1 else 0
  | .gain target => if target = .entry index then 1 else 0
  | .drop target => if target = .entry index then -1 else 0
  | _ => 0

/-- By how much a call changes the number of outcomes. -/
def outcomes : Call region → Int
  | .count _ => 1
  | _ => 0

/-- By how much a call changes the number of delegated granules, as far as that is not counted. -/
def delegations : Call region → Int
  | .transition _ .delegated | .count .undelegated => 1
  | .transition _ .nonsecure | .count .delegated => -1
  | _ => 0

variable {call : Call region} {index : Fin region.size}

/-- What gives a lock back does not count. -/
theorem references_of_givesBack (gives : call.GivesBack) : call.references index = 0 := by
  cases call with
  | transition guard next | release guard => rfl
  | _ => exact gives.elim

/-- A call that is not about a shared granule does not count references to it. -/
theorem references_of_elsewhere (proper : call.Proper) (shared : index.val < sharedGranules)
    (elsewhere : call.index? ≠ some index) : call.references index = 0 := by
  cases call with
  | raise guard | lower guard =>
    refine if_neg fun same => elsewhere ?_
    rw [Call.index?, same]
    rfl
  | gain target | drop target =>
    obtain ⟨counted, rfl, unshared⟩ := proper
    refine if_neg fun same => ?_
    rw [Target.entry.inj same] at unshared
    omega
  | _ => rfl

end Call

/-- The sum of the weights of calls. -/
def weigh (weight : Call region → Int) (calls : List (Call region)) : Int := (calls.map weight).sum

@[simp]
theorem weigh_nil (weight : Call region → Int) : weigh weight [] = 0 := rfl

@[simp]
theorem weigh_cons (weight : Call region → Int) (call : Call region) (later : List (Call region)) :
    weigh weight (call :: later) = weight call + weigh weight later :=
  List.sum_cons

/-- From each call on, at most one reference to the granule is given back that was there before. -/
def Repays (index : Fin region.size) : List (Call region) → Prop
  | [] => True
  | call :: later =>
    -1 ≤ weigh (Call.references index) (call :: later) ∧
      weigh (Call.references index) (call :: later) ≤ 0 ∧ Repays index later

theorem Repays.bounds {index : Fin region.size} {calls : List (Call region)}
    (repays : Repays index calls) :
    -1 ≤ weigh (Call.references index) calls ∧ weigh (Call.references index) calls ≤ 0 := by
  cases calls with
  | nil => simp
  | cons call later => exact ⟨repays.1, repays.2.1⟩

/-- Calls that may be still to come. -/
structure Underway (calls : List (Call region)) : Prop where
  proper : ∀ call ∈ calls, call.Proper
  repays : ∀ index, Repays index calls

namespace Underway

variable {call : Call region} {calls later : List (Call region)} {index : Fin region.size}

theorem nil : Underway ([] : List (Call region)) where
  proper := by simp
  repays _ := trivial

/-- What holds of all calls that are to come holds of those after the next one. -/
theorem tail (underway : Underway (call :: later)) : Underway later where
  proper call among := underway.proper call (by simp [among])
  repays index := (underway.repays index).2.2

/-- Calls that are not about a shared granule do not count references to it. -/
theorem weigh_references (underway : Underway calls) (shared : index.val < sharedGranules)
    (unused : ¬ Holds calls index) : weigh (Call.references index) calls = 0 := by
  induction calls with
  | nil => rfl
  | cons call later inductionHypothesis =>
    rw [holds_cons, not_or] at unused
    rw [weigh_cons, call.references_of_elsewhere (underway.proper call (by simp)) shared unused.1,
      inductionHypothesis underway.tail unused.2, add_zero]

/-- Only granules that can be locked are used. -/
theorem shared_of_holds (underway : Underway calls) (holds : Holds calls index) :
    index.val < sharedGranules := by
  obtain ⟨call, among, about⟩ := holds
  have proper := underway.proper call among
  cases call with
  | gain target | drop target | count outcome => contradiction
  | _ =>
    obtain ⟨found, same, shared⟩ := proper
    rw [about] at same
    rwa [Option.some.inj same]

end Underway

/-- The calls of a whole task. -/
structure Plan (calls : List (Call region)) : Prop extends Underway calls where
  references : ∀ index, weigh (Call.references index) calls = 0
  outcomes : weigh Call.outcomes calls = 1
  delegations : weigh Call.delegations calls = 0

namespace Plan

variable {index first second : Fin region.size}

/-- Something was turned down. -/
theorem rejection : Plan ([.count .rejected] : List (Call region)) where
  proper := by simp [Call.Proper]
  repays := by simp [Repays, Call.references]
  references := by simp [Call.references]
  outcomes := by simp [Call.outcomes]
  delegations := by simp [Call.delegations]

/-- A granule becomes delegated. -/
theorem delegation (shared : index.val < sharedGranules) :
    Plan [.scrub ⟨.entry index⟩, .inspect (region.address index),
      .transition ⟨.entry index⟩ .delegated, .count .delegated] where
  proper := by simp [Call.Proper, Call.index?, Target.index?, region.index?_address, shared]
  repays := by simp [Repays, Call.references]
  references := by simp [Call.references]
  outcomes := by simp [Call.outcomes]
  delegations := by simp [Call.delegations]

/-- A granule becomes non-secure. -/
theorem undelegation (shared : index.val < sharedGranules) :
    Plan [.refill (region.address index), .transition ⟨.entry index⟩ .nonsecure,
      .count .undelegated] where
  proper := by simp [Call.Proper, Call.index?, Target.index?, region.index?_address, shared]
  repays := by simp [Repays, Call.references]
  references := by simp [Call.references]
  outcomes := by simp [Call.outcomes]
  delegations := by simp [Call.delegations]

/-- A reference is counted without the lock. -/
theorem count (unshared : sharedGranules ≤ index.val) :
    Plan [.gain (.entry index), .drop (.entry index), .count .atomic] where
  proper := by simp [Call.Proper, unshared]
  repays other := by
    by_cases same : index = other <;> simp [Repays, Call.references, same]
  references other := by
    by_cases same : index = other <;> simp [Call.references, same]
  outcomes := by simp [Call.outcomes]
  delegations := by simp [Call.delegations]

/-- Two granules are locked, and references are counted on them if they are non-secure. -/
theorem pair (firstShared : first.val < sharedGranules) (secondShared : second.val < sharedGranules)
    (differ : first ≠ second) (role : Role) :
    Plan (afterPair role (some (⟨.entry first⟩, ⟨.entry second⟩))) where
  proper := by
    by_cases nonsecure : role = .nonsecure <;>
      simp [afterPair, nonsecure, Call.Proper, Call.index?, Target.index?, firstShared,
        secondShared]
  repays other := by
    by_cases nonsecure : role = .nonsecure <;> by_cases isFirst : first = other <;>
      by_cases isSecond : second = other <;>
        simp_all [afterPair, Repays, Call.references]
  references other := by
    by_cases nonsecure : role = .nonsecure <;> by_cases isFirst : first = other <;>
      by_cases isSecond : second = other <;> simp_all [afterPair, Call.references]
  outcomes := by
    by_cases nonsecure : role = .nonsecure <;> simp [afterPair, nonsecure, Call.outcomes]
  delegations := by
    by_cases nonsecure : role = .nonsecure <;> simp [afterPair, nonsecure, Call.delegations]

end Plan

end Stress

end GranuleMonitor
