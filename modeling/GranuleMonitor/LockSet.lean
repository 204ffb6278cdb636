import GranuleMonitor.Lock

/-!
# Locking several granules

A caller that needs several granules at once names them in any order and gets all of them or none.
All addresses are looked at before the first lock is taken, and no granule may be named twice: in
ascending order, two requests for one granule would be neighbours. The locks are then taken by
ascending address. Since every caller does so, nobody can wait for a granule below one that he
holds, and callers cannot wait for each other in a circle. If a granule turns out to have another
role, the locks taken so far are given back.

The guards of a set stand at the positions of their requests, whatever the locking order was.
-/

namespace GranuleMonitor

/-- Asks for the granule at an address in a certain role. -/
structure Request where
  addr : Address
  role : Role
deriving DecidableEq, Repr

/-- A request as diagnostics show it. -/
def Request.describe (request : Request) : String :=
  s!"GranuleRequest \x7b addr: {request.addr}, state: {request.role.label} \x7d"

/-- A request whose address was found to be that of a granule. -/
structure Claim (region : Region) where
  index : Fin region.size
  role : Role
deriving DecidableEq, Repr

variable {region : Region} {n : Nat}

/-- Looks all addresses up. The first one that is not that of a granule is given as the error. -/
def resolveAll (region : Region) (requests : Vector Request n) :
    Except Address (Vector (Claim region) n) :=
  match unknown : requests.toList.find? fun request => (region.index? request.addr).isNone with
  | some request => .error request.addr
  | none =>
    .ok <| .ofFn fun position =>
      have known : (region.index? (requests.get position).addr).isSome := by
        have := List.find?_eq_none.mp unknown (requests.get position) (by simp [Vector.get])
        simpa [Option.isNone_iff_eq_none, Option.isSome_iff_ne_none] using this
      ⟨(region.index? (requests.get position).addr).get known, (requests.get position).role⟩

/-- No two claims are on the same granule. -/
def Distinct (claims : Vector (Claim region) n) : Prop :=
  (claims.toList.map (·.index)).Nodup

instance (claims : Vector (Claim region) n) : Decidable (Distinct claims) :=
  inferInstanceAs (Decidable (List.Nodup _))

/-- Puts a position into a list of positions that ascends by granule. -/
def insertByGranule (claims : Vector (Claim region) n) (position : Fin n) :
    List (Fin n) → List (Fin n)
  | [] => [position]
  | first :: rest =>
    if (claims.get position).index ≤ (claims.get first).index then position :: first :: rest
    else first :: insertByGranule claims position rest

/-- The positions of claims in the order in which their granules are locked. -/
def lockingOrder (claims : Vector (Claim region) n) : List (Fin n) :=
  (List.finRange n).foldr (insertByGranule claims) []

/-- Whether two positions that follow one another in a list are on the same granule. -/
def repeatsNext (claims : Vector (Claim region) n) : List (Fin n) → Bool
  | first :: second :: rest =>
    (claims.get first).index = (claims.get second).index || repeatsNext claims (second :: rest)
  | [_] | [] => false

/-- The guards that a set has so far, at the positions of their requests. -/
abbrev Holdings (region : Region) (n : Nat) := Vector (Option (Guard region)) n

namespace Holdings

/-- The guards that are there, by ascending position. -/
def guards (holdings : Holdings region n) : List (Guard region) :=
  holdings.toList.filterMap id

/-- All guards of a set, if none is missing. -/
def complete? (holdings : Holdings region n) : Option (Vector (Guard region) n) :=
  if complete : holdings.all (·.isSome) then
    some (.ofFn fun position =>
      (holdings.get position).get (Vector.all_eq_true.mp complete position position.isLt))
  else none

end Holdings

/-- Locks the granule of one claim. If it has another role, all guards that the set has so far are
released and the set is given up. -/
def lockNext (claims : Vector (Claim region) n) (holdings : Holdings region n)
    (position : Fin n) : Act region (Option (Holdings region n)) := do
  let claim := claims.get position
  match ← (Target.entry claim.index).lockOnMatch claim.role with
  | some guard => return some (holdings.set position (some guard) position.isLt)
  | none =>
    Guard.releaseAll holdings.guards
    return none

/-- Locks the granules of claims one after the other. -/
def lockInOrder (claims : Vector (Claim region) n) :
    List (Fin n) → Holdings region n → Act region (Option (Holdings region n))
  | [], holdings => return some holdings
  | position :: rest, holdings => do
    match ← lockNext claims holdings position with
    | none => return none
    | some holdings => lockInOrder claims rest holdings

/-- Locks the granules of all claims, which are on different granules. -/
def lockClaims (claims : Vector (Claim region) n) :
    Act region (Option (Vector (Guard region) n)) := do
  match ← lockInOrder claims (lockingOrder claims) (.replicate n none) with
  | none => return none
  | some holdings =>
    match holdings.complete? with
    | some guards => return some guards
    | none => Act.fail .setIncomplete

/-- Locks all granules that are asked for, or none. -/
def lockSet (requests : Vector Request n) : Act region (Option (Vector (Guard region) n)) := do
  match resolveAll region requests with
  | .error addr =>
    Act.note (.unknownInSet addr)
    return none
  | .ok claims =>
    if repeatsNext claims (lockingOrder claims) then
      Act.note .duplicateInSet
      return none
    else lockClaims claims

/-- Locks two granules, or none. -/
def lockPair (first second : Request) :
    Act region (Option (Guard region × Guard region)) := do
  match ← lockSet #v[first, second] with
  | none => return none
  | some guards => return some (guards[0], guards[1])

end GranuleMonitor
