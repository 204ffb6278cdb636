import GranuleMonitor.Lock

/-!
# Critical sections on one granule

A section locks a granule if it has the expected role, uses the guard, and gives the lock back.
There are two ways to execute sections. `Section.perform` executes one whole, by the operations of
the monitor; `serial` does so for the sections of several threads in a given order. In a `Contest`
every access to the descriptor is a step of its own: an attempt to take the lock, the load or store
of a role or a count, and the release of the lock. Adding or removing references under the lock
takes two steps, a load and a store. The steps of different threads may alternate.
-/

namespace GranuleMonitor

variable {region : Region} {k : Nat}

/-- A use of a guard in a section. -/
inductive Touch where
  | readRole
  | writeRole (role : Role)
  | readReferences
  | raise (added : UInt64)
  | lower (removed : UInt64)
deriving DecidableEq, Repr

/-- A critical section. -/
structure Section where
  expected : Role
  touches : List Touch
  /-- The role that the granule gets when the lock is given back, if it gets one. -/
  next? : Option Role
deriving DecidableEq, Repr

/-- What a thread learns. -/
inductive Seen where
  /-- Whether it got the lock. -/
  | entered (granted : Bool)
  | role (role : Role)
  | references (references : UInt64)
deriving DecidableEq, Repr

namespace Section

/-- Uses a guard. -/
def touch (guard : Guard region) : Touch → Act region (List Seen)
  | .readRole => do return [.role (← guard.role)]
  | .writeRole role => do
    guard.setRole role
    return []
  | .readReferences => do return [.references (← guard.references)]
  | .raise added => do
    guard.raise added
    return []
  | .lower removed => do
    guard.lower removed
    return []

/-- Uses a guard several times. -/
def touchAll (guard : Guard region) : List Touch → Act region (List Seen)
  | [] => return []
  | first :: rest => do
    let seen ← touch guard first
    return seen ++ (← touchAll guard rest)

/-- Executes a whole section. -/
def perform (target : Target region) (sect : Section) : Act region (List Seen) := do
  match ← target.lockOnMatch sect.expected with
  | none => return [.entered false]
  | some guard =>
    let seen ← touchAll guard sect.touches
    match sect.next? with
    | some next => guard.transition next
    | none => guard.release
    return .entered true :: seen

end Section

/-- What a thread has left to do, and what it has learnt. -/
structure Course where
  later : List Section
  seen : List Seen
deriving DecidableEq, Repr

/-- Executes sections whole, one after the other: each entry of the list names the thread whose
next section is executed. -/
def serial (target : Target region) :
    List (Fin k) → Vector Course k → Act region (Vector Course k)
  | [], courses => return courses
  | thread :: rest, courses => do
    match courses.get thread with
    | ⟨[], _⟩ => serial target rest courses
    | ⟨sect :: later, seen⟩ =>
      let fresh ← sect.perform target
      serial target rest (courses.set thread ⟨later, seen ++ fresh⟩ thread.isLt)

/-- Where a thread is in a section. -/
inductive Point where
  /-- Not in a section. The next step is an attempt to take the lock for the next section. -/
  | outside
  /-- The lock is taken. The next step loads the role to compare it. -/
  | comparing (sect : Section)
  /-- These uses are left. The next step begins the first of them. -/
  | touching (touches : List Touch) (next? : Option Role)
  /-- A new count was computed. The next step stores it. -/
  | storing (references : UInt64) (touches : List Touch) (next? : Option Role)
  /-- The granule is delegated. The next step loads the count to check it. -/
  | checking
  /-- The next step gives the lock back. -/
  | unlocking
  /-- A rule was broken, and the thread makes no further step. -/
  | broken
deriving DecidableEq, Repr

/-- A thread of a contest. -/
structure Contestant where
  point : Point
  course : Course
deriving DecidableEq, Repr

namespace Contestant

/-- The thread at another point. -/
def goTo (thread : Contestant) (point : Point) : Contestant := { thread with point }

/-- The thread at another point, after it has learnt something. -/
def learn (thread : Contestant) (fact : Seen) (point : Point) : Contestant :=
  ⟨point, { thread.course with seen := thread.course.seen ++ [fact] }⟩

/-- The result of loading a count and computing the next one. -/
def compute (thread : Contestant) (references? : Option UInt64) (touches : List Touch)
    (next? : Option Role) : Contestant :=
  match references? with
  | some references => thread.goTo (.storing references touches next?)
  | none => thread.goTo .broken

/-- One access to a descriptor. A thread that finds the lock taken tries again with its next
step. -/
def advance (thread : Contestant) (descriptor : Descriptor) : Contestant × Descriptor :=
  match thread.point with
  | .outside =>
    match thread.course.later with
    | [] => (thread, descriptor)
    | sect :: later =>
      if descriptor.locked then (thread, descriptor)
      else (⟨.comparing sect, { thread.course with later }⟩, descriptor.lock)
  | .comparing sect =>
    if descriptor.role = sect.expected then
      (thread.learn (.entered true) (.touching sect.touches sect.next?), descriptor)
    else (thread.learn (.entered false) .unlocking, descriptor)
  | .touching (.readRole :: touches) next? =>
    (thread.learn (.role descriptor.role) (.touching touches next?), descriptor)
  | .touching (.writeRole role :: touches) next? =>
    (thread.goTo (.touching touches next?), { descriptor with role })
  | .touching (.readReferences :: touches) next? =>
    (thread.learn (.references descriptor.references) (.touching touches next?), descriptor)
  | .touching (.raise added :: touches) next? =>
    (thread.compute (Word.add? descriptor.references added) touches next?, descriptor)
  | .touching (.lower removed :: touches) next? =>
    (thread.compute (Word.sub? descriptor.references removed) touches next?, descriptor)
  | .touching [] (some next) => (thread.goTo (.touching [] none), { descriptor with role := next })
  | .touching [] none =>
    if descriptor.role = .delegated then (thread.goTo .checking, descriptor)
    else (thread.goTo .unlocking, descriptor)
  | .storing references touches next? =>
    (thread.goTo (.touching touches next?), { descriptor with references })
  | .checking =>
    if descriptor.references = 0 then (thread.goTo .unlocking, descriptor)
    else (thread.goTo .broken, descriptor)
  | .unlocking => (thread.goTo .outside, descriptor.unlock)
  | .broken => (thread, descriptor)

end Contestant

/-- Threads that execute sections on one descriptor. -/
structure Contest (k : Nat) where
  descriptor : Descriptor
  threads : Vector Contestant k
  /-- The threads that took the lock, in this order. -/
  entries : List (Fin k)
deriving DecidableEq

namespace Contest

/-- Begins a contest. -/
def start (descriptor : Descriptor) (programs : Vector (List Section) k) : Contest k :=
  ⟨descriptor, programs.map fun later => ⟨.outside, later, []⟩, []⟩

/-- One access by one thread. -/
def advance (contest : Contest k) (thread : Fin k) : Contest k :=
  let (contestant, descriptor) := (contest.threads.get thread).advance contest.descriptor
  let entered := contest.descriptor.locked = false ∧ descriptor.locked = true
  ⟨descriptor, contest.threads.set thread contestant thread.isLt,
    if entered then contest.entries ++ [thread] else contest.entries⟩

/-- The contest after accesses by the listed threads. -/
def run (contest : Contest k) (schedule : List (Fin k)) : Contest k :=
  schedule.foldl advance contest

/-- All threads have executed all their sections. -/
def Finished (contest : Contest k) : Prop :=
  ∀ thread : Fin k,
    (contest.threads.get thread).point = .outside ∧ (contest.threads.get thread).course.later = []

end Contest

end GranuleMonitor
