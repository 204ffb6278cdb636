import GranuleMonitor.Proofs.Stress.Attempt
import GranuleMonitor.Proofs.Stress.Effect
import Mathlib.Algebra.BigOperators.Fin
import Mathlib.Algebra.Order.BigOperators.Group.Finset

/-!
# Ledgers

A `Ledger` is a number that can be read off a floor's arena, and that every call changes by its
weight. What the workers are still going to do weighs something, too, and the sum of both never
changes. The references to a granule, the number of outcomes, and the number of delegated granules
compared with the counts are such numbers: `Ledger.kept_references`, `Ledger.kept_outcomes` and
`Ledger.kept_delegations`.
-/

namespace GranuleMonitor

variable {region : Region} {k : Nat}

/-- A sum changes by what one of its terms changes. -/
theorem sum_eq_of_others {n : Nat} {before after : Fin n → Int} (index : Fin n)
    (others : ∀ other, other ≠ index → after other = before other) :
    ∑ other, after other = ∑ other, before other + (after index - before index) := by
  have change : ∑ other, (after other - before other) = after index - before index :=
    Finset.sum_eq_single_of_mem index (Finset.mem_univ index)
      fun other _ differs => sub_eq_zero.mpr (others other differs)
  rw [Finset.sum_sub_distrib] at change
  omega

/-- A sum of numbers that are zero or one below it. -/
theorem sum_bounds {n : Nat} {terms : Fin n → Int}
    (bounds : ∀ index, -1 ≤ terms index ∧ terms index ≤ 0) :
    -(n : Int) ≤ ∑ index, terms index ∧ ∑ index, terms index ≤ 0 := by
  refine ⟨?_, Finset.sum_nonpos fun index _ => (bounds index).2⟩
  have lower := Finset.card_nsmul_le_sum Finset.univ terms (-1) fun index _ => (bounds index).1
  simpa using lower

namespace Stress

/-- A number that calls change. -/
structure Ledger (region : Region) where
  value : Store region → Tally → Int
  /-- By how much a call changes the number. -/
  weight : Call region → Int
  /-- By how much each task changes it. -/
  perRound : Int

namespace Ledger

variable (ledger : Ledger region)

/-- The number as it is now. -/
def now (arena : Arena region) : Int := ledger.value arena.monitor.store arena.tally

/-- By how much a worker is still going to change the number. -/
def ahead (worker : Worker region) : Int :=
  ledger.perRound * worker.left + weigh ledger.weight worker.pending

/-- What the number is going to be when all workers have finished. -/
def total (floor : Floor region k) : Int :=
  ledger.now floor.arena + ∑ index, ledger.ahead (floor.workers.get index)

/-- The total changes with the number itself and with one worker. -/
theorem total_put (floor : Floor region k) (index : Fin k) (worker : Worker region)
    (arena : Arena region) :
    ledger.total (floor.put index worker arena) =
      ledger.total floor + (ledger.now arena - ledger.now floor.arena) +
        (ledger.ahead worker - ledger.ahead (floor.workers.get index)) := by
  have others (other : Fin k) (differs : other ≠ index) :
      ledger.ahead ((floor.put index worker arena).workers.get other) =
        ledger.ahead (floor.workers.get other) := by
    rw [Floor.put, vectorGet_set, if_neg differs]
  have here : ledger.ahead ((floor.put index worker arena).workers.get index) =
      ledger.ahead worker := by
    rw [Floor.put, vectorGet_set, if_pos rfl]
  have change := sum_eq_of_others index others
  have now : (floor.put index worker arena).arena = arena := rfl
  rw [total, total, change, here, now]
  omega

/-- Attempts and calls keep the total of a ledger. -/
structure Kept : Prop where
  opens : ∀ {before after : Monitor region} {calls : List (Call region)} {tally : Tally},
    Opens before calls after → ledger.value after.store tally = ledger.value before.store tally
  plan : ∀ {calls : List (Call region)}, Plan calls → weigh ledger.weight calls = ledger.perRound
  does : ∀ {call : Call region} {before after : Arena region}, call.Fits before →
    call.Does before after → ledger.now after = ledger.now before + ledger.weight call

/-- The references to a granule. -/
def references (index : Fin region.size) : Ledger region where
  value store _ := (store.get (.entry index)).references.toNat
  weight := Call.references index
  perRound := 0

/-- The number of outcomes. -/
def outcomes : Ledger region where
  value _ tally := tally.total
  weight := Call.outcomes
  perRound := 1

end Ledger

/-- The number of delegated granules. -/
def delegatedGranules (store : Store region) : Nat :=
  (Finset.univ.filter fun index => (store.get (.entry index)).role = .delegated).card

namespace Ledger

/-- The number of delegated granules, compared with what was counted. -/
def delegations : Ledger region where
  value store tally := delegatedGranules store + tally.undelegated - tally.delegated
  weight := Call.delegations
  perRound := 0

end Ledger

/-- An attempt changes neither roles nor references. -/
theorem Opens.descriptor {before after : Monitor region} {calls : List (Call region)}
    (opens : Opens before calls after) (index : Fin region.size) :
    (after.store.get (.entry index)).role = (before.store.get (.entry index)).role ∧
      (after.store.get (.entry index)).references =
        (before.store.get (.entry index)).references := by
  by_cases holds : Holds calls index
  · obtain ⟨-, -, taken⟩ := opens.taken index holds
    rw [taken]
    exact ⟨rfl, rfl⟩
  · rw [opens.untouched index holds]
    exact ⟨rfl, rfl⟩

/-- With the same roles, as many granules are delegated. -/
theorem delegatedGranules_congr {before after : Store region}
    (same : ∀ index, (after.get (.entry index)).role = (before.get (.entry index)).role) :
    delegatedGranules after = delegatedGranules before := by
  simp only [delegatedGranules, same]

/-- One granule less or one more is delegated, depending on what role another one had before. -/
theorem delegatedGranules_change {before after : Store region} (index : Fin region.size)
    (others : ∀ other, other ≠ index →
      (after.get (.entry other)).role = (before.get (.entry other)).role) :
    (delegatedGranules after : Int) = delegatedGranules before +
      ((if (after.get (.entry index)).role = .delegated then 1 else 0) -
        if (before.get (.entry index)).role = .delegated then 1 else 0) := by
  have count (store : Store region) : (delegatedGranules store : Int) =
      ∑ index, if (store.get (.entry index)).role = .delegated then 1 else 0 := by
    rw [delegatedGranules, Finset.card_filter]
    push_cast
    rfl
  rw [count, count]
  exact sum_eq_of_others index fun other differs => by rw [others other differs]

namespace Ledger

/-- References are given back exactly. -/
theorem kept_references (index : Fin region.size) : (references index).Kept where
  opens opens := by
    change (((_ : Descriptor).references.toNat : Nat) : Int) = _
    rw [(opens.descriptor index).2]
    rfl
  plan plan := plan.references index
  does _ does := does.references index

/-- Each task has one outcome. -/
theorem kept_outcomes : (outcomes : Ledger region).Kept where
  opens _ := rfl
  plan plan := plan.outcomes
  does {call before after} _ does := by
    change (after.tally.total : Int) = before.tally.total + call.outcomes
    rw [does.tally]
    cases call with
    | count outcome =>
      rw [Call.tallyAfter, Tally.total_add]
      rfl
    | _ => simp [Call.tallyAfter, Call.outcomes]

/-- The counts of delegated granules are right. -/
theorem kept_delegations : (delegations : Ledger region).Kept where
  opens {before after calls tally} opens := by
    have same : delegatedGranules after.store = delegatedGranules before.store :=
      delegatedGranules_congr fun index => (opens.descriptor index).1
    change ((delegatedGranules after.store : Int) + _ - _) = _
    rw [same]
    rfl
  plan plan := plan.delegations
  does {call before after} fits does := by
    have kept (quiet : ∀ role, call.roleAfter role = role) :
        delegatedGranules after.monitor.store = delegatedGranules before.monitor.store :=
      delegatedGranules_congr fun index => (does.role index).trans (by
        rw [Call.roleOn, quiet, ite_self]
        rfl)
    have tally := does.tally
    change (delegatedGranules after.monitor.store : Int) + after.tally.undelegated -
      after.tally.delegated = delegatedGranules before.monitor.store + before.tally.undelegated -
        before.tally.delegated + call.delegations
    cases call with
    | transition guard next =>
      obtain ⟨index, about, -⟩ := fits.proper
      have others (other : Fin region.size) (differs : other ≠ index) :
          (after.get other).role = (before.get other).role := by
        rw [does.role, Call.roleOn, about, if_neg fun same => differs (Option.some.inj same).symm]
      have here : (after.get index).role = next := by
        rw [does.role, Call.roleOn, if_pos about]
        rfl
      have change := delegatedGranules_change index others
      rw [after.get_eq, here, before.get_eq] at change
      rw [change, tally]
      rcases fits.accepts index about with ⟨role, rfl, -⟩ | ⟨role, rfl⟩ <;>
        simp [role, Call.delegations, Call.tallyAfter] <;> omega
    | count outcome =>
      rw [kept fun _ => rfl, tally]
      cases outcome <;> simp [Call.tallyAfter, Tally.add, Call.delegations] <;> omega
    | _ =>
      rw [kept fun _ => rfl, tally]
      simp [Call.tallyAfter, Call.delegations]

end Ledger

end Stress

end GranuleMonitor
