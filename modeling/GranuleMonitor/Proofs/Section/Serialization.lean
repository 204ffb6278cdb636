import GranuleMonitor.Proofs.Locking.AllOrNothing
import GranuleMonitor.Proofs.Section.Outcome

/-!
# Sections are serialized

While a thread is in a section, nobody else gets at the descriptor, so each of its accesses goes
on with the same outcome: `Contestant.advance_inside`. Hence a contest is always in one of two
states, which `Contest.Serialized` describes. Either the lock is free, and everything is as if the
sections had been executed whole, in the order of the entries; or one thread is in the section that
it entered last, and what is left of it leads to its outcome. In `sections_serialized` this is
proved of every schedule, together with what it means for roles, references and answers.
-/

namespace GranuleMonitor

variable {region : Region} {k : Nat}

/-- A section that was executed: by which thread, and whether it was granted the lock. -/
structure Turn (k : Nat) where
  thread : Fin k
  sect : Section
  granted : Bool

namespace Turn

/-- The sections that threads execute in an order, if the first of them finds a role and each of the
others finds the role that the one before it has left. -/
def inOrder (programs : Vector (List Section) k) (role : Role) : List (Fin k) → List (Turn k)
  | [] => []
  | thread :: rest =>
    match programs.get thread with
    | [] => inOrder programs role rest
    | sect :: later =>
      ⟨thread, sect, role = sect.expected⟩ ::
        inOrder (programs.set thread later thread.isLt) (sect.leaves role) rest

/-- The role that is left when sections have found a role. -/
def roleAfter (turns : List (Turn k)) (role : Role) : Role :=
  turns.foldl (fun role turn => turn.sect.leaves role) role

/-- How many references were added under the lock. -/
def raised (turns : List (Turn k)) : Nat :=
  ((turns.filter (·.granted)).map (·.sect.raised)).sum

/-- How many references were removed under the lock. -/
def lowered (turns : List (Turn k)) : Nat :=
  ((turns.filter (·.granted)).map (·.sect.lowered)).sum

/-- The answers to the attempts of a thread. -/
def answers (turns : List (Turn k)) (thread : Fin k) : List Bool :=
  (turns.filter (·.thread = thread)).map (·.granted)

theorem raised_cons (first : Turn k) (rest : List (Turn k)) :
    raised (first :: rest) = (if first.granted then first.sect.raised else 0) + raised rest := by
  cases granted : first.granted <;> simp [raised, granted]

theorem lowered_cons (first : Turn k) (rest : List (Turn k)) :
    lowered (first :: rest) = (if first.granted then first.sect.lowered else 0) + lowered rest := by
  cases granted : first.granted <;> simp [lowered, granted]

theorem answers_cons (first : Turn k) (rest : List (Turn k)) (thread : Fin k) :
    answers (first :: rest) thread =
      (if first.thread = thread then [first.granted] else []) ++ answers rest thread := by
  by_cases mine : first.thread = thread <;> simp [answers, mine]

end Turn

/-- The answers among what a thread has learnt. -/
def Course.answers (course : Course) : List Bool := course.seen.filterMap Seen.answer?

section Serial

variable {target : Target region} {thread : Fin k} {rest : List (Fin k)} {courses : Vector Course k}
  {sect : Section} {later : List Section} {seen : List Seen}

/-- It is nobody's turn whose sections are all executed. -/
theorem serial_cons_of_nil (idle : courses.get thread = ⟨[], seen⟩) :
    serial target (thread :: rest) courses = serial target rest courses := by
  rw [serial, idle]

/-- Whose turn it is executes his next section. -/
theorem serial_cons_of_cons (course : courses.get thread = ⟨sect :: later, seen⟩) :
    serial target (thread :: rest) courses = sect.perform target >>= fun fresh =>
      serial target rest (courses.set thread ⟨later, seen ++ fresh⟩ thread.isLt) := by
  rw [serial, course]

/-- Two lists of turns may be executed one after the other. -/
theorem serial_append (first : List (Fin k)) (courses : Vector Course k) :
    serial target (first ++ rest) courses =
      serial target first courses >>= fun middle => serial target rest middle := by
  induction first generalizing courses with
  | nil => rw [List.nil_append, serial, pure_bind]
  | cons thread others inductionHypothesis =>
    cases course : courses.get thread with
    | mk later seen =>
      cases later with
      | nil =>
        rw [List.cons_append, serial_cons_of_nil course, serial_cons_of_nil course,
          inductionHypothesis]
      | cons sect later =>
        rw [List.cons_append, serial_cons_of_cons course, serial_cons_of_cons course, bind_assoc]
        exact congrArg _ (funext fun fresh => inductionHypothesis _)

theorem Turn.inOrder_cons_of_nil (role : Role) (idle : courses.get thread = ⟨[], seen⟩) :
    inOrder (courses.map (·.later)) role (thread :: rest) =
      inOrder (courses.map (·.later)) role rest := by
  have none : (courses.map (·.later)).get thread = [] := by
    simpa [vectorGet_eq] using congrArg Course.later idle
  rw [inOrder, none]

theorem Turn.inOrder_cons_of_cons (role : Role) (fresh : List Seen)
    (course : courses.get thread = ⟨sect :: later, seen⟩) :
    inOrder (courses.map (·.later)) role (thread :: rest) =
      ⟨thread, sect, role = sect.expected⟩ ::
        inOrder ((courses.set thread ⟨later, seen ++ fresh⟩ thread.isLt).map (·.later))
          (sect.leaves role) rest := by
  have next : (courses.map (·.later)).get thread = sect :: later := by
    simpa [vectorGet_eq] using congrArg Course.later course
  rw [inOrder, next]
  simp only [Vector.map_set]

/-- What executing sections one after the other amounts to: each of them finds the role that the one
before it has left, which decides whether it is granted the lock, and no reference is lost. -/
theorem serial_spec {entries : List (Fin k)} {final : Vector Course k}
    {monitor last : Monitor region} (free : (monitor.store.get target).locked = false)
    (ended : serial target entries courses monitor = .ok final last) :
    let turns := Turn.inOrder (courses.map (·.later)) (monitor.store.get target).role entries
    (last.store.get target).role = Turn.roleAfter turns (monitor.store.get target).role ∧
      (last.store.get target).references.toNat + Turn.lowered turns =
        (monitor.store.get target).references.toNat + Turn.raised turns ∧
      ∀ thread, (final.get thread).answers =
        (courses.get thread).answers ++ Turn.answers turns thread := by
  induction entries generalizing courses monitor with
  | nil =>
    cases ended
    simp [Turn.inOrder, Turn.roleAfter, Turn.lowered, Turn.raised, Turn.answers]
  | cons first rest inductionHypothesis =>
    cases course : courses.get first with
    | mk later seen =>
      cases later with
      | nil =>
        rw [serial_cons_of_nil course] at ended
        rw [Turn.inOrder_cons_of_nil _ course]
        exact inductionHypothesis free ended
      | cons sect later =>
        rw [serial_cons_of_cons course, Act.bind_apply] at ended
        have performs := sect.perform_apply target monitor free
        cases comes : sect.outcome (monitor.store.get target) with
        | none =>
          rw [comes] at performs
          obtain ⟨cause, broken, faults⟩ := performs
          rw [faults] at ended
          cases ended
        | some result =>
          obtain ⟨fresh, after⟩ := result
          rw [comes] at performs
          obtain ⟨log, performed⟩ := performs
          rw [performed] at ended
          obtain ⟨role, references, unlocked, answers⟩ := Section.outcome_spec free comes
          have later := inductionHypothesis (by simpa using unlocked) ended
          simp only [Store.get_set_self, role] at later
          rw [Turn.inOrder_cons_of_cons _ fresh course]
          obtain ⟨laterRole, laterReferences, laterAnswers⟩ := later
          refine ⟨laterRole, ?_, fun thread => ?_⟩
          · simp only [Turn.raised_cons, Turn.lowered_cons, decide_eq_true_eq]
            omega
          · rw [laterAnswers, Turn.answers_cons]
            rw [vectorGet_set, ← List.append_assoc]
            congr 1
            by_cases mine : thread = first
            · subst mine
              rw [if_pos rfl, if_pos rfl, course, Course.answers, Course.answers,
                List.filterMap_append, answers]
            · rw [if_neg mine, if_neg (Ne.symm mine), List.append_nil]

end Serial

/-- What comes of the rest of a section, use by use. -/
theorem Section.rest_cons (first : Touch) (touches : List Touch) (next? : Option Role)
    (descriptor : Descriptor) :
    rest (first :: touches) next? descriptor =
      (first.apply descriptor).bind fun (seen, after) =>
        (rest touches next? after).map (Prod.map (seen ++ ·) id) := by
  unfold rest
  rw [Touch.applyAll]
  cases applied : first.apply descriptor with
  | none => rfl
  | some result =>
    obtain ⟨seen, after⟩ := result
    simp only [Option.bind_some]
    cases Touch.applyAll touches after with
    | none => rfl
    | some later =>
      obtain ⟨shown, left⟩ := later
      simp only [Option.map_some, Option.bind_some, Prod.map_apply, id_eq]
      cases left.leave next? <;> rfl

/-- Nothing is learnt on the way to what comes of a section. -/
theorem map_learn_nil (comes : Option (List Seen × Descriptor)) :
    comes.map (Prod.map ([] ++ ·) id) = comes := by
  cases comes <;> rfl

/-- What is learnt first on the way comes first. -/
theorem map_learn_append (first second : List Seen) (comes : Option (List Seen × Descriptor)) :
    (comes.map (Prod.map (second ++ ·) id)).map (Prod.map (first ++ ·) id) =
      comes.map (Prod.map (first ++ second ++ ·) id) := by
  cases comes <;> simp [Prod.map, List.append_assoc]

/-- Without a role for the granule, giving the guard back unlocks the descriptor, or finds a delegated
granule with references. -/
theorem Descriptor.leave_none (descriptor : Descriptor) :
    descriptor.leave none =
      if descriptor.role = .delegated ∧ descriptor.references ≠ 0 then none
      else some descriptor.unlock := by
  have same : descriptor.become none = descriptor := rfl
  unfold leave releaseFault?
  rw [same]
  by_cases inUse : descriptor.role = .delegated ∧ descriptor.references ≠ 0
  · simp only [if_pos inUse]
  · simp only [if_neg inUse]

namespace Contestant

variable {thread : Contestant} {descriptor after : Descriptor} {point : Point}

/-- A thread in a section makes an access and learns something. What the section still comes to is
the same as before, and the lock is free if the access was the last one. -/
structure GoesOn (thread : Contestant) (descriptor : Descriptor) (learnt : List Seen)
    (next : Contestant) (after : Descriptor) : Prop where
  course : next.course = ⟨thread.course.later, thread.course.seen ++ learnt⟩
  remaining : thread.point.remaining descriptor =
    (next.point.remaining after).map (Prod.map (learnt ++ ·) id)
  free_iff : after.locked = false ↔ next.point = .outside

/-- An access inside the section that shows nothing. -/
theorem GoesOn.silent (locked : after.locked = true) (inside : point ≠ .outside)
    (remaining : thread.point.remaining descriptor = point.remaining after) :
    thread.GoesOn descriptor [] (thread.goTo point) after where
  course := by simp [goTo]
  remaining := by
    rw [remaining, map_learn_nil]
    rfl
  free_iff := by simp [locked, goTo, inside]

/-- An access inside the section that shows a fact. -/
theorem GoesOn.showing {fact : Seen} (locked : after.locked = true) (inside : point ≠ .outside)
    (remaining : thread.point.remaining descriptor =
      (point.remaining after).map (Prod.map ([fact] ++ ·) id)) :
    thread.GoesOn descriptor [fact] (thread.learn fact point) after where
  course := rfl
  remaining := remaining
  free_iff := by simp [locked, learn, inside]

/-- Loading a count and computing the next one changes nothing yet. -/
theorem goesOn_compute {references? : Option UInt64} {touches : List Touch} {next? : Option Role}
    (locked : descriptor.locked = true)
    (remaining : thread.point.remaining descriptor = references?.bind fun references =>
      Section.rest touches next? { descriptor with references }) :
    thread.GoesOn descriptor [] (thread.compute references? touches next?) descriptor := by
  cases references? with
  | none => exact .silent locked nofun remaining
  | some references => exact .silent locked nofun remaining

/-- Every access of a thread in a section goes on with it. -/
theorem advance_inside (inside : thread.point ≠ .outside) (locked : descriptor.locked = true) :
    ∃ learnt, thread.GoesOn descriptor learnt (thread.advance descriptor).1
      (thread.advance descriptor).2 := by
  obtain ⟨point, course⟩ := thread
  unfold advance
  cases point with
  | outside => exact absurd rfl inside
  | comparing sect =>
    by_cases same : descriptor.role = sect.expected
    · simp only [if_pos same]
      exact ⟨_, .showing locked (by simp) (if_pos same)⟩
    · simp only [if_neg same]
      exact ⟨_, .showing locked (by simp) (if_neg same)⟩
  | touching touches next? =>
    cases touches with
    | nil =>
      cases next? with
      | some next => exact ⟨_, .silent locked (by simp) rfl⟩
      | none =>
        by_cases delegated : descriptor.role = .delegated
        · simp only [if_pos delegated]
          refine ⟨_, .silent locked (by simp) ?_⟩
          change (descriptor.leave none).map ([], ·) = _
          by_cases unreferenced : descriptor.references = 0 <;>
            simp [Descriptor.leave_none, Point.remaining, delegated, unreferenced]
        · simp only [if_neg delegated]
          refine ⟨_, .silent locked (by simp) ?_⟩
          change (descriptor.leave none).map ([], ·) = _
          simp [Descriptor.leave_none, Point.remaining, delegated]
    | cons first rest =>
      have remaining := Section.rest_cons first rest next? descriptor
      cases first with
      | readRole => exact ⟨_, .showing locked (by simp) remaining⟩
      | readReferences => exact ⟨_, .showing locked (by simp) remaining⟩
      | writeRole role =>
        exact ⟨_, .silent locked (by simp) (remaining.trans (map_learn_nil _))⟩
      | raise added =>
        refine ⟨_, goesOn_compute locked (remaining.trans ?_)⟩
        cases computed : Word.add? descriptor.references added with
        | none => simp [Touch.apply, Descriptor.raise, computed, Except.toOption]
        | some references =>
          simpa [Touch.apply, Descriptor.raise, computed, Except.toOption] using
            map_learn_nil (Section.rest rest next? { descriptor with references })
      | lower removed =>
        refine ⟨_, goesOn_compute locked (remaining.trans ?_)⟩
        cases computed : Word.sub? descriptor.references removed with
        | none => simp [Touch.apply, Descriptor.lower, computed, Except.toOption]
        | some references =>
          simpa [Touch.apply, Descriptor.lower, computed, Except.toOption] using
            map_learn_nil (Section.rest rest next? { descriptor with references })
  | storing references touches next? => exact ⟨_, .silent locked (by simp) rfl⟩
  | checking =>
    by_cases unreferenced : descriptor.references = 0
    · simp only [if_pos unreferenced]
      exact ⟨_, .silent locked (by simp) (if_pos unreferenced)⟩
    · simp only [if_neg unreferenced]
      exact ⟨_, .silent locked (by simp) (if_neg unreferenced)⟩
  | unlocking => exact ⟨[], by simp [goTo], rfl, by simp [goTo, Descriptor.unlock]⟩
  | broken => exact ⟨[], by simp, rfl, by simp [locked]⟩

end Contestant

section Contests

variable {target : Target region} {monitor : Monitor region} {programs : Vector (List Section) k}

/-- Executing whole sections in an order leads to what the threads have learnt and to a descriptor. -/
def Executes (target : Target region) (monitor : Monitor region)
    (programs : Vector (List Section) k) (entries : List (Fin k)) (courses : Vector Course k)
    (descriptor : Descriptor) : Prop :=
  ∃ last, serial target entries (programs.map fun later => ⟨later, []⟩) monitor =
      .ok courses last ∧
    last.store.get target = descriptor

/-- One more section is executed after the others. -/
theorem Executes.snoc {prior : List (Fin k)} {courses : Vector Course k} {thread : Fin k}
    {before after : Descriptor} {sect : Section} {later : List Section} {seen fresh : List Seen}
    (executes : Executes target monitor programs prior courses before)
    (free : before.locked = false) (course : courses.get thread = ⟨sect :: later, seen⟩)
    (comes : sect.outcome before = some (fresh, after)) :
    Executes target monitor programs (prior ++ [thread])
      (courses.set thread ⟨later, seen ++ fresh⟩ thread.isLt) after := by
  obtain ⟨last, ended, rfl⟩ := executes
  have performs := sect.perform_apply target last free
  rw [comes] at performs
  obtain ⟨log, performed⟩ := performs
  refine ⟨{ last with store := last.store.set target after, log }, ?_, Store.get_set_self _ _ _⟩
  rw [serial_append, Act.bind_apply, ended]
  dsimp only
  rw [serial_cons_of_cons course, Act.bind_apply, performed]
  rfl

/-- The lock is free and whole sections were executed, or one thread is in the section that it
entered last, after whole sections. -/
inductive Contest.Serialized (target : Target region) (monitor : Monitor region)
    (programs : Vector (List Section) k) (contest : Contest k) : Prop where
  | free (unlocked : contest.descriptor.locked = false)
      (outside : ∀ thread, (contest.threads.get thread).point = .outside)
      (executes : Executes target monitor programs contest.entries
        (contest.threads.map (·.course)) contest.descriptor)
  | inside (locked : contest.descriptor.locked = true) (thread : Fin k)
      (inside : (contest.threads.get thread).point ≠ .outside)
      (others : ∀ other, other ≠ thread → (contest.threads.get other).point = .outside)
      (prior : List (Fin k)) (entries : contest.entries = prior ++ [thread])
      (courses : Vector Course k) (before : Descriptor)
      (executes : Executes target monitor programs prior courses before)
      (unlocked : before.locked = false)
      (sect : Section) (later : List Section) (seen learnt : List Seen)
      (course : courses.get thread = ⟨sect :: later, seen⟩)
      (now : contest.threads.map (·.course) =
        courses.set thread ⟨later, seen ++ learnt⟩ thread.isLt)
      (comes : sect.outcome before =
        ((contest.threads.get thread).point.remaining contest.descriptor).map
          (Prod.map (learnt ++ ·) id))

namespace Contest.Serialized

variable {contest : Contest k}

/-- One access by one thread. It is the thread's turn next if it takes the lock. -/
theorem advance_eq {thread : Fin k} {next : Contestant} {after : Descriptor}
    (advances : (contest.threads.get thread).advance contest.descriptor = (next, after)) :
    contest.advance thread = ⟨after, contest.threads.set thread next thread.isLt,
      if contest.descriptor.locked = false ∧ after.locked = true then contest.entries ++ [thread]
      else contest.entries⟩ := by
  unfold Contest.advance
  rw [advances]

/-- A thread that can only try again changes nothing. -/
theorem advance_of_stutter {thread : Fin k}
    (stutters : (contest.threads.get thread).advance contest.descriptor =
      (contest.threads.get thread, contest.descriptor)) : contest.advance thread = contest := by
  rw [advance_eq stutters, if_neg (by simp)]
  simp [vectorGet_eq]

/-- Outside of its sections, a thread takes the lock if it is free and a section is left. -/
theorem advance_of_free {thread : Fin k}
    (outside : ∀ thread, (contest.threads.get thread).point = .outside)
    (unlocked : contest.descriptor.locked = false)
    (executes : Executes target monitor programs contest.entries
      (contest.threads.map (·.course)) contest.descriptor) :
    (contest.advance thread).Serialized target monitor programs := by
  cases here : contest.threads.get thread with
  | mk point course =>
    obtain ⟨later, seen⟩ := course
    obtain rfl : point = .outside := by
      rw [← outside thread, here]
    cases later with
    | nil =>
      rw [advance_of_stutter (by rw [here]; rfl)]
      exact .free unlocked outside executes
    | cons sect later =>
      have advances : (contest.threads.get thread).advance contest.descriptor =
          (⟨.comparing sect, ⟨later, seen⟩⟩, contest.descriptor.lock) := by
        rw [here]
        simp [Contestant.advance, unlocked]
      rw [advance_eq advances, if_pos ⟨unlocked, rfl⟩]
      refine .inside rfl thread ?_ (fun other differs => ?_) contest.entries rfl _ _ executes
        unlocked sect later seen [] ?_ ?_ ?_
      · rw [vectorGet_set, if_pos rfl]
        exact nofun
      · rw [vectorGet_set, if_neg differs]
        exact outside other
      · rw [vectorGet_map, here]
      · rw [Vector.map_set, List.append_nil]
      · rw [vectorGet_set, if_pos rfl, map_learn_nil]
        rfl

/-- Each access keeps to one of the two states. -/
theorem advance (serialized : contest.Serialized target monitor programs) (thread : Fin k) :
    (contest.advance thread).Serialized target monitor programs := by
  cases serialized with
  | free unlocked outside executes => exact advance_of_free outside unlocked executes
  | inside locked holder inside others prior entries courses before executes unlocked sect later
      seen learnt course now comes =>
    by_cases mine : thread = holder
    case neg =>
      have stutters : (contest.threads.get thread).advance contest.descriptor =
          (contest.threads.get thread, contest.descriptor) := by
        unfold Contestant.advance
        rw [others thread mine]
        cases (contest.threads.get thread).course.later <;> simp [locked]
      rw [advance_of_stutter stutters]
      exact .inside locked holder inside others prior entries courses before executes unlocked sect
        later seen learnt course now comes
    subst mine
    obtain ⟨shown, goesOn⟩ := Contestant.advance_inside inside locked
    cases advances : (contest.threads.get thread).advance contest.descriptor with
    | mk next after =>
    rw [advances] at goesOn
    rw [advance_eq advances, if_neg (by simp [locked])]
    have stillOutside (other : Fin k) (differs : other ≠ thread) :
        ((contest.threads.set thread next thread.isLt).get other).point = .outside := by
      rw [vectorGet_set, if_neg differs]
      exact others other differs
    have courseNow : next.course = ⟨later, seen ++ (learnt ++ shown)⟩ := by
      have courseBefore : (contest.threads.get thread).course = ⟨later, seen ++ learnt⟩ := by
        rw [← vectorGet_map Contestant.course, now, vectorGet_set, if_pos rfl]
      rw [goesOn.course, courseBefore, List.append_assoc]
    have nowAfter : (contest.threads.set thread next thread.isLt).map (·.course) =
        courses.set thread ⟨later, seen ++ (learnt ++ shown)⟩ thread.isLt := by
      rw [Vector.map_set, now, Vector.set_set, courseNow]
    have comesAfter : sect.outcome before =
        (next.point.remaining after).map (Prod.map (learnt ++ shown ++ ·) id) := by
      rw [comes, goesOn.remaining, map_learn_append]
    cases left : after.locked with
    | true =>
      refine .inside left thread ?_ stillOutside prior entries courses before executes unlocked sect
        later seen (learnt ++ shown) course nowAfter ?_
      · rw [vectorGet_set, if_pos rfl]
        intro isOutside
        exact absurd (goesOn.free_iff.mpr isOutside) (by simp [left])
      · rw [vectorGet_set, if_pos rfl, comesAfter]
    | false =>
      have isOutside := goesOn.free_iff.mp left
      refine .free left (fun other => ?_) ?_
      · by_cases same : other = thread
        · rw [same, vectorGet_set, if_pos rfl, isOutside]
        · exact stillOutside other same
      · rw [isOutside] at comesAfter
        rw [nowAfter, entries]
        refine executes.snoc unlocked course ?_
        simpa [Point.remaining] using comesAfter

end Contest.Serialized

/-- A contest begins between two sections. -/
theorem Contest.serialized_start (free : (monitor.store.get target).locked = false) :
    (Contest.start (monitor.store.get target) programs).Serialized target monitor programs := by
  refine .free free (fun thread => ?_) ⟨monitor, ?_, rfl⟩
  · rw [start, vectorGet_map]
  · rw [start, Vector.map_map]
    rfl

/-- Every schedule keeps to the two states. -/
theorem Contest.Serialized.run (schedule : List (Fin k)) {contest : Contest k}
    (serialized : contest.Serialized target monitor programs) :
    (contest.run schedule).Serialized target monitor programs := by
  induction schedule generalizing contest with
  | nil => exact serialized
  | cons first rest inductionHypothesis => exact inductionHypothesis (serialized.advance first)

end Contests

/-- Sections are serialized. Let threads execute sections on a granule whose lock is free, in any
interleaving of their accesses. Whenever the lock is free, in particular when all sections are
executed, every answer, everything that was read and the descriptor are as if the sections had been
executed whole, one after the other, in the order in which they took the lock. Hence every attempt
finds the role that the section before it has left, and no added or removed reference is lost. -/
theorem sections_serialized (target : Target region) (monitor : Monitor region)
    (free : (monitor.store.get target).locked = false) (programs : Vector (List Section) k)
    (schedule : List (Fin k)) :
    let contest := (Contest.start (monitor.store.get target) programs).run schedule
    let turns := Turn.inOrder programs (monitor.store.get target).role contest.entries
    (contest.Finished → contest.descriptor.locked = false) ∧
      (contest.descriptor.locked = false →
        (∃ last, serial target contest.entries (programs.map fun later => ⟨later, []⟩) monitor =
            .ok (contest.threads.map (·.course)) last ∧
          last.store.get target = contest.descriptor) ∧
        (∀ thread, (contest.threads.get thread).course.answers = Turn.answers turns thread) ∧
        contest.descriptor.role = Turn.roleAfter turns (monitor.store.get target).role ∧
        contest.descriptor.references.toNat + Turn.lowered turns =
          (monitor.store.get target).references.toNat + Turn.raised turns) := by
  intro contest turns
  have serialized : contest.Serialized target monitor programs :=
    (Contest.serialized_start free).run schedule
  constructor
  · intro finished
    cases serialized with
    | free unlocked => exact unlocked
    | inside locked thread inside => exact absurd (finished thread).1 inside
  · intro unlocked
    cases serialized with
    | inside locked =>
      rw [unlocked] at locked
      contradiction
    | free _ _ executes =>
      obtain ⟨last, ended, same⟩ := executes
      have spec := serial_spec free ended
      have ofPrograms : (programs.map fun later => (⟨later, []⟩ : Course)).map (·.later) =
          programs := by
        rw [Vector.map_map]
        exact Vector.map_id _
      rw [ofPrograms, same] at spec
      obtain ⟨role, references, answers⟩ := spec
      refine ⟨⟨last, ended, same⟩, fun thread => ?_, role, references⟩
      have here := answers thread
      rw [vectorGet_map, vectorGet_map] at here
      exact here

/-- One thread counts two references and hands the granule over as data. The other one first asks for
it in the old role, then in the new one. -/
def handover : Vector (List Section) 2 :=
  #v[[⟨.nonsecure, [.raise 2], some .data⟩],
    [⟨.nonsecure, [.raise 1], none⟩, ⟨.data, [.readRole, .lower 1], none⟩]]

/-- The accesses of both threads alternate. -/
def alternating : List (Fin 2) := (List.replicate 20 [0, 1]).flatten

/-- What comes of the sections of both threads then. -/
def contested : Contest 2 := (Contest.start .fresh handover).run alternating

/-- The attempt in the old role fails, although it began before the role was changed. -/
theorem handover_serialized :
    contested.Finished ∧ contested.descriptor.locked = false ∧
      (contested.threads.get 1).course.seen = [.entered false, .entered true, .role .data] ∧
      contested.descriptor.references.toNat + 1 = 2 := by
  have fresh : ((Monitor.create threeGranules .absent).store.get .detached) = .fresh :=
    Monitor.get_create _ _
  have serialized := sections_serialized .detached (Monitor.create threeGranules .absent)
    (by rw [fresh]; rfl) handover alternating
  rw [fresh, ← contested] at serialized
  have finished : contested.Finished := by
    unfold Contest.Finished
    decide +kernel
  have entries : contested.entries = [0, 1, 1] := by decide +kernel
  obtain ⟨isFree, isSerial⟩ := serialized
  have unlocked := isFree finished
  obtain ⟨-, -, -, references⟩ := isSerial unlocked
  refine ⟨finished, unlocked, by decide +kernel, ?_⟩
  have counted : Turn.raised (Turn.inOrder handover Descriptor.fresh.role [0, 1, 1]) = 2 ∧
      Turn.lowered (Turn.inOrder handover Descriptor.fresh.role [0, 1, 1]) = 1 := by
    decide +kernel
  have none : Descriptor.fresh.references.toNat = 0 := rfl
  rw [entries, counted.1, counted.2, none] at references
  exact references

end GranuleMonitor
