import GranuleMonitor.Concurrent.Creation
import GranuleMonitor.Proofs.Region.Check

/-!
# One table for a process

Any number of callers create the table of a process at the same time, others ask for it and use it,
and their steps come in any order. `CreationCall.Advances` lists what a step of a call can do. At every
moment of a race `CreationRace.Consistent` holds: there is a table exactly if one call has won, and
every call that has come to an end tells the truth about it. What follows for those who call and ask
is listed in `CreationRace.Lawful`, and what happens after a moment in `CreationRace.Lasting`: a table
stays the one that it is, calls that have not won by then never will, and a call that goes on comes to
its end.
-/

namespace GranuleMonitor

/-- A table of some region. -/
abbrev Table : Type := Σ region : Region, Store region

namespace CreationStage

/-- The call has put its table in place. -/
def Won (stage : CreationStage) : Prop :=
  stage = .stored ∨ ∃ region, stage = .ended (.ok region)

/-- The call may still put a table in place. -/
def Undecided (stage : CreationStage) : Prop :=
  stage = .begun ∨ ∃ region, stage = .looked region

/-- How many steps the call has before it at most. -/
def left : CreationStage → Nat
  | .begun => 3
  | .looked _ => 2
  | .stored => 1
  | .ended _ | .broken _ => 0

end CreationStage

namespace CreationCall

/-- What a step of a call for some range does to the table and to the stage of the call. -/
inductive Advances (spec : RegionSpec) :
    Option Table → CreationStage → Option Table → CreationStage → Prop where
  | late {table} : Advances spec (some table) .begun (some table) (.ended (.error .alreadyCreated))
  | refuse {reason} (refused : spec.check = .error reason) :
      Advances spec none .begun none (.ended (.error (.range reason)))
  | look {region} (checked : spec.check = .ok region) :
      Advances spec none .begun none (.looked region)
  | lose {table region} :
      Advances spec (some table) (.looked region) (some table) (.ended (.error .alreadyCreated))
  | win {region} :
      Advances spec none (.looked region) (some ⟨region, .fresh region⟩) .stored
  | fetch {table} : Advances spec (some table) .stored (some table) (.ended (.ok table.1))
  | miss : Advances spec none .stored none (.broken .noTable)
  | rest {table? outcome} : Advances spec table? (.ended outcome) table? (.ended outcome)
  | lie {table? cause} : Advances spec table? (.broken cause) table? (.broken cause)

variable (call : CreationCall) (registry : Registry)

/-- The call after its next step. -/
def advanced : CreationCall := ⟨call.spec, (call.advance registry).1⟩

theorem advances :
    Advances call.spec registry.table? call.stage (call.advance registry).2.table?
      (call.advance registry).1 := by
  obtain ⟨spec, stage⟩ := call
  obtain ⟨table?, log⟩ := registry
  cases stage with
  | begun =>
    cases table? with
    | some table => exact .late
    | none =>
      cases checked : spec.check with
      | error reason =>
        simpa [advance, Registry.look, checked] using .refuse checked
      | ok region =>
        simpa [advance, Registry.look, Registry.note, checked] using .look checked
  | looked region =>
    cases table? with
    | some table => exact .lose
    | none => exact .win
  | stored =>
    cases table? with
    | some table => exact .fetch
    | none => exact .miss
  | ended outcome => exact .rest
  | broken cause => exact .lie

/-- What a call that has come so far says about the region of the table. -/
def Agrees (region? : Option Region) (call : CreationCall) : Prop :=
  match call.stage with
  | .begun => True
  | .looked region => call.spec.check = .ok region
  | .stored => ∃ region, region? = some region ∧ call.spec.check = .ok region
  | .ended (.ok region) => region? = some region ∧ call.spec.check = .ok region
  | .ended (.error (.range reason)) => call.spec.check = .error reason
  | .ended (.error .alreadyCreated) => ∃ region, region? = some region
  | .broken _ => False

/-- What a call says stays true when a table is put in place. -/
theorem Agrees.mono {region? later? : Option Region} (agrees : call.Agrees region?)
    (grows : ∀ region, region? = some region → later? = some region) : call.Agrees later? := by
  unfold Agrees at agrees ⊢
  split
  case h_3 there =>
    simp only [there] at agrees
    exact agrees.imp fun region known => ⟨grows region known.1, known.2⟩
  case h_4 there =>
    simp only [there] at agrees
    exact ⟨grows _ agrees.1, agrees.2⟩
  case h_6 there =>
    simp only [there] at agrees
    exact agrees.imp grows
  all_goals simp_all

/-- A step of a call that told the truth leaves a table as it is, and the call tells the truth
afterwards. -/
theorem Agrees.advanced {spec : RegionSpec} {table? next? : Option Table}
    {stage next : CreationStage} (agrees : Agrees (table?.map (·.1)) ⟨spec, stage⟩)
    (advances : Advances spec table? stage next? next) :
    Agrees (next?.map (·.1)) ⟨spec, next⟩ := by
  cases advances with
  | late | lose => exact ⟨_, rfl⟩
  | refuse refused => exact refused
  | look checked => exact checked
  | win => exact ⟨_, rfl, agrees⟩
  | fetch =>
    obtain ⟨region, known, checked⟩ := agrees
    obtain rfl := Option.some.inj known
    exact ⟨rfl, checked⟩
  | miss =>
    obtain ⟨region, known, -⟩ := agrees
    contradiction
  | rest => exact agrees
  | lie => exact agrees

/-- A call that has won knows the region of the table. -/
theorem Agrees.known {region? : Option Region} {call : CreationCall} (agrees : call.Agrees region?)
    (won : call.stage.Won) : ∃ region, region? = some region ∧ call.spec.check = .ok region := by
  obtain ⟨spec, stage⟩ := call
  obtain rfl | ⟨region, rfl⟩ := won
  · exact agrees
  · exact ⟨region, agrees⟩

namespace Advances

variable {spec : RegionSpec} {table? next? : Option Table} {stage next : CreationStage}

/-- A step leaves a table as it is. -/
theorem keeps {table : Table} (advances : Advances spec (some table) stage next? next) :
    next? = some table := by
  cases advances <;> rfl

/-- A call wins only by putting its table in place. -/
theorem won (advances : Advances spec table? stage next? next) (won : next.Won) :
    stage.Won ∧ next? = table? ∨ table? = none ∧ next?.isSome := by
  cases advances with
  | fetch => exact .inl ⟨.inl rfl, rfl⟩
  | win => exact .inr ⟨rfl, rfl⟩
  | rest => exact .inl ⟨won, rfl⟩
  | late | refuse | look | lose | miss | lie => simp [CreationStage.Won] at won

/-- A table comes into place only by a call that wins. -/
theorem wins (advances : Advances spec none stage next? next) (put : next?.isSome) : next.Won := by
  cases advances with
  | win => exact .inl rfl
  | refuse | look | miss | rest | lie => contradiction

/-- A call that has won has won for good. -/
theorem stays_won {table : Table} (advances : Advances spec (some table) stage next? next)
    (won : stage.Won) : next.Won := by
  cases advances with
  | fetch => exact .inr ⟨_, rfl⟩
  | rest => exact won
  | late | lose | lie => simp [CreationStage.Won] at won

/-- Every step of a call that goes on brings it nearer to its end. -/
theorem left_le (advances : Advances spec table? stage next? next) :
    next.left ≤ stage.left - 1 := by
  cases advances <;> simp [CreationStage.left]

/-- A call that is behind a table can only find that out. -/
theorem undecided {table : Table} (advances : Advances spec (some table) stage next? next)
    (open' : stage.Undecided) : next = .ended (.error .alreadyCreated) := by
  cases advances with
  | late | lose => rfl
  | fetch | rest | lie => simp [CreationStage.Undecided] at open'

end Advances

end CreationCall

namespace CreationMove

/-- Whether a move is a step of a caller. -/
def isStepOf (caller : Nat) : CreationMove → Bool
  | .proceed other => other = caller
  | .call _ | .ask | .use _ _ => false

/-- Whether a move asks for the table. -/
def isAsk : CreationMove → Bool
  | .ask => true
  | .call _ | .proceed _ | .use _ _ => false

/-- What a move does to a table. Only its uses change something. -/
def alter : CreationMove → Table → Table
  | .use change _, ⟨region, store⟩ => ⟨region, change region store⟩
  | .call _, table | .proceed _, table | .ask, table => table

@[simp]
theorem alter_fst (move : CreationMove) (table : Table) : (move.alter table).1 = table.1 := by
  cases move <;> rfl

/-- A call that nobody else comes in between. -/
def alone (caller : Nat) (spec : RegionSpec) : List CreationMove :=
  [.call spec, .proceed caller, .proceed caller, .proceed caller]

end CreationMove

namespace CreationRace

variable {race : CreationRace} {caller : Nat} {call : CreationCall}

/-- The registry after a move, if a call takes it. -/
theorem registry_step_proceed (known : race.calls[caller]? = some call) :
    (race.step (.proceed caller)).registry = (call.advance race.registry).2 := by
  simp only [step, known]

/-- What a move does to a call that has been made. -/
theorem getElem?_calls_step (known : race.calls[caller]? = some call) (move : CreationMove) :
    (race.step move).calls[caller]? =
      some (if move.isStepOf caller then call.advanced race.registry else call) := by
  have within : caller < race.calls.length := (List.getElem?_eq_some_iff.mp known).1
  cases move with
  | call spec => simp [step, CreationMove.isStepOf, List.getElem?_append_left within, known]
  | proceed other =>
    by_cases own : other = caller
    · subst own
      simp only [step, known, CreationMove.isStepOf, decide_true, if_true]
      exact List.getElem?_set_self within
    · cases stranger : race.calls[other]? with
      | none => simp [step, stranger, CreationMove.isStepOf, own, known]
      | some _ => simp [step, stranger, CreationMove.isStepOf, own, known]
  | ask => simpa [step, CreationMove.isStepOf] using known
  | use change log => simpa [step, CreationMove.isStepOf] using known

/-- A call that has not been made is at its beginning when it is. -/
theorem stage_of_new {move : CreationMove} (unknown : race.calls[caller]? = none)
    (known : (race.step move).calls[caller]? = some call) : call.stage = .begun := by
  have outside : race.calls.length ≤ caller := List.getElem?_eq_none_iff.mp unknown
  cases move with
  | call spec =>
    rw [step, List.getElem?_append_right outside] at known
    have only := List.mem_of_getElem? known
    rw [List.mem_singleton] at only
    rw [only]
  | proceed other =>
    cases stranger : race.calls[other]? with
    | none => simp [step, stranger, unknown] at known
    | some _ => simp [step, stranger, outside] at known
  | ask => simp [step, unknown] at known
  | use change log => simp [step, unknown] at known

/-- What a move does to a table that is there. -/
theorem table?_step {table : Table} (there : race.registry.table? = some table)
    (move : CreationMove) : (race.step move).registry.table? = some (move.alter table) := by
  cases move with
  | call | ask => exact there
  | proceed caller =>
    cases known : race.calls[caller]? with
    | none => simp [step, known, there, CreationMove.alter]
    | some call =>
      have advances := call.advances race.registry
      rw [there] at advances
      rw [registry_step_proceed known, advances.keeps, CreationMove.alter]
  | use change log =>
    obtain ⟨region, store⟩ := table
    simp [step, Registry.use, there, CreationMove.alter]

/-- A call after a move is new or was there before. -/
theorem call_before {move : CreationMove} {after : CreationCall}
    (known : (race.step move).calls[caller]? = some after) :
    after.stage = .begun ∨ ∃ call, race.calls[caller]? = some call ∧
      after = if move.isStepOf caller then call.advanced race.registry else call := by
  cases before : race.calls[caller]? with
  | none => exact .inl (stage_of_new before known)
  | some call =>
    rw [getElem?_calls_step before] at known
    exact .inr ⟨call, rfl, (Option.some.inj known).symm⟩

/-- A region that is known stays known. -/
theorem region?_step {region : Region} (there : race.region? = some region) (move : CreationMove) :
    (race.step move).region? = some region := by
  obtain ⟨table, known, rfl⟩ := Option.map_eq_some_iff.mp there
  rw [region?, table?_step known, Option.map_some, move.alter_fst]

/-- Only a call that wins puts a table in place. -/
theorem winner_of_step {move : CreationMove} (missing : race.registry.table? = none)
    (put : (race.step move).registry.table?.isSome) :
    ∃ caller call, move = .proceed caller ∧ race.calls[caller]? = some call ∧
      (call.advanced race.registry).stage.Won := by
  cases move with
  | call | ask => simp [step, missing] at put
  | use => simp [step, Registry.use, missing] at put
  | proceed caller =>
    cases known : race.calls[caller]? with
    | none => simp [step, known, missing] at put
    | some call =>
      have advances := call.advances race.registry
      rw [registry_step_proceed known] at put
      rw [missing] at advances
      exact ⟨caller, call, rfl, known, advances.wins put⟩

/-- A call that has won after a move had won before, or has just put its table in place. -/
theorem won_before {move : CreationMove} {after : CreationCall}
    (known : (race.step move).calls[caller]? = some after) (won : after.stage.Won) :
    (∃ call, race.calls[caller]? = some call ∧ call.stage.Won) ∨
      race.registry.table? = none ∧ move = .proceed caller := by
  obtain begun | ⟨call, before, rfl⟩ := call_before known
  · rw [begun] at won
    simp [CreationStage.Won] at won
  split at won
  next own =>
    obtain ⟨already, -⟩ | ⟨missing, -⟩ := (call.advances race.registry).won won
    · exact .inl ⟨call, before, already⟩
    · refine .inr ⟨missing, ?_⟩
      cases move with
      | proceed other => rw [of_decide_eq_true own]
      | call | ask | use => contradiction
  next => exact .inl ⟨call, before, won⟩

/-- What every moment of a race is like. -/
structure Consistent (race : CreationRace) : Prop where
  agrees : ∀ (caller : Nat) (call : CreationCall), race.calls[caller]? = some call →
    call.Agrees race.region?
  winner : race.registry.table?.isSome →
    ∃ (caller : Nat) (call : CreationCall), race.calls[caller]? = some call ∧ call.stage.Won
  unique : ∀ (caller other : Nat) (call rival : CreationCall), race.calls[caller]? = some call →
    race.calls[other]? = some rival → call.stage.Won → rival.stage.Won → caller = other
  unanswered : race.registry.table? = none → ∀ answer ∈ race.answers, answer = .error .noTable

theorem consistent_start : start.Consistent where
  agrees caller call known := by simp [start] at known
  winner there := by simp [start, Registry.empty] at there
  unique caller other call rival known := by simp [start] at known
  unanswered _ answer given := by simp [start] at given

namespace Consistent

theorem agrees_step (consistent : race.Consistent) {move : CreationMove}
    (known : (race.step move).calls[caller]? = some call) :
    call.Agrees (race.step move).region? := by
  obtain begun | ⟨old, before, rfl⟩ := call_before known
  · rw [CreationCall.Agrees, begun]
    trivial
  have agrees := consistent.agrees caller old before
  split
  next own =>
    cases move with
    | call | ask | use => contradiction
    | proceed other =>
      obtain rfl : other = caller := of_decide_eq_true own
      rw [region?, registry_step_proceed before]
      exact agrees.advanced (old.advances race.registry)
  next => exact agrees.mono _ fun region there => region?_step there move

theorem winner_step (consistent : race.Consistent) {move : CreationMove}
    (there : (race.step move).registry.table?.isSome) :
    ∃ (caller : Nat) (call : CreationCall),
      (race.step move).calls[caller]? = some call ∧ call.stage.Won := by
  cases before : race.registry.table? with
  | none =>
    obtain ⟨caller, call, rfl, known, won⟩ := winner_of_step before there
    refine ⟨caller, _, getElem?_calls_step known _, ?_⟩
    simpa [CreationMove.isStepOf] using won
  | some table =>
    obtain ⟨caller, call, known, won⟩ := consistent.winner (by rw [before]; rfl)
    refine ⟨caller, _, getElem?_calls_step known move, ?_⟩
    have advances := call.advances race.registry
    rw [before] at advances
    split
    next => exact advances.stays_won won
    next => exact won

theorem unique_step (consistent : race.Consistent) {move : CreationMove} {other : Nat}
    {rival : CreationCall} (known : (race.step move).calls[caller]? = some call)
    (knownRival : (race.step move).calls[other]? = some rival) (won : call.stage.Won)
    (wonRival : rival.stage.Won) : caller = other := by
  -- whoever had won before knows of a table, and a table leaves nothing to be won
  have taken : ∀ {caller : Nat} {call : CreationCall}, race.calls[caller]? = some call →
      call.stage.Won → race.registry.table? ≠ none := by
    intro caller call known won missing
    obtain ⟨region, there, -⟩ := (consistent.agrees caller call known).known won
    rw [region?, missing] at there
    contradiction
  obtain ⟨old, before, already⟩ | ⟨missing, rfl⟩ := won_before known won <;>
    obtain ⟨oldRival, beforeRival, alreadyRival⟩ | ⟨missingRival, own⟩ :=
      won_before knownRival wonRival
  · exact consistent.unique caller other old oldRival before beforeRival already alreadyRival
  · exact absurd missingRival (taken before already)
  · exact absurd missing (taken beforeRival alreadyRival)
  · exact CreationMove.proceed.inj own

theorem unanswered_step (consistent : race.Consistent) {move : CreationMove}
    (missing : (race.step move).registry.table? = none) :
    ∀ answer ∈ (race.step move).answers, answer = .error .noTable := by
  have before : race.registry.table? = none := by
    cases there : race.registry.table? with
    | none => rfl
    | some table =>
      rw [table?_step there] at missing
      contradiction
  have unanswered := consistent.unanswered before
  cases move with
  | call | use => exact unanswered
  | proceed caller =>
    cases known : race.calls[caller]? <;> simpa [step, known] using unanswered
  | ask =>
    simp only [step, List.forall_mem_append, List.forall_mem_singleton, Registry.table, before]
    exact ⟨unanswered, rfl⟩

theorem step (consistent : race.Consistent) (move : CreationMove) : (race.step move).Consistent where
  agrees _ _ known := consistent.agrees_step known
  winner there := consistent.winner_step there
  unique _ _ _ _ known knownRival won wonRival :=
    consistent.unique_step known knownRival won wonRival
  unanswered missing := consistent.unanswered_step missing

theorem play (consistent : race.Consistent) (moves : List CreationMove) :
    (race.play moves).Consistent := by
  induction moves generalizing race with
  | nil => exact consistent
  | cons move rest inductionHypothesis => exact inductionHypothesis (consistent.step move)

end Consistent

/-! ## After a moment -/

/-- A table stays in place, changed by its uses alone. -/
theorem table?_play {table : Table} (there : race.registry.table? = some table)
    (moves : List CreationMove) :
    (race.play moves).registry.table? =
      some (moves.foldl (fun table move => move.alter table) table) := by
  induction moves generalizing race table with
  | nil => exact there
  | cons move rest inductionHypothesis => exact inductionHypothesis (table?_step there move)

/-- Its region is known for good. -/
theorem region?_play {region : Region} (there : race.region? = some region)
    (moves : List CreationMove) : (race.play moves).region? = some region := by
  induction moves generalizing race with
  | nil => exact there
  | cons move rest inductionHypothesis => exact inductionHypothesis (region?_step there move)

theorem answers_step (race : CreationRace) (move : CreationMove) :
    (race.step move).answers =
      race.answers ++ if move.isAsk then [race.registry.table.map (·.1)] else [] := by
  cases move with
  | proceed caller => cases known : race.calls[caller]? <;> simp [step, known, CreationMove.isAsk]
  | call | ask | use => simp [step, CreationMove.isAsk]

theorem length_answers_play (race : CreationRace) (moves : List CreationMove) :
    (race.play moves).answers.length = race.answers.length + moves.countP (·.isAsk) := by
  induction moves generalizing race with
  | nil => rfl
  | cons move rest inductionHypothesis =>
    refine (inductionHypothesis (race.step move)).trans ?_
    rw [answers_step, List.length_append, List.countP_cons]
    split <;> simp only [List.length_singleton, List.length_nil] <;> omega

/-- Whoever asks when there is a table gets this table. -/
theorem answers_play {table : Table} (there : race.registry.table? = some table)
    (moves : List CreationMove) :
    (race.play moves).answers =
      race.answers ++ .replicate (moves.countP (·.isAsk)) (.ok table.1) := by
  induction moves generalizing race table with
  | nil => simp [play]
  | cons move rest inductionHypothesis =>
    refine (inductionHypothesis (table?_step there move)).trans ?_
    rw [answers_step, move.alter_fst, List.countP_cons, Registry.table, there]
    split
    next =>
      rw [List.append_assoc, List.singleton_append, List.replicate_succ]
      rfl
    next => rw [List.append_nil, Nat.add_zero]

/-- A call that has been made has at most the steps before it that it did not take. -/
theorem left_play (known : race.calls[caller]? = some call) (moves : List CreationMove) :
    ∃ stage, (race.play moves).calls[caller]? = some ⟨call.spec, stage⟩ ∧
      stage.left ≤ call.stage.left - moves.countP (·.isStepOf caller) := by
  induction moves generalizing race call with
  | nil => exact ⟨call.stage, known, Nat.le_refl _⟩
  | cons move rest inductionHypothesis =>
    have next := getElem?_calls_step known move
    rw [List.countP_cons]
    split at next
    next own =>
      obtain ⟨stage, reached, less⟩ := inductionHypothesis next
      have step := (call.advances race.registry).left_le
      refine ⟨stage, reached, ?_⟩
      rw [if_pos own]
      simp only [CreationCall.advanced] at less
      omega
    next other =>
      obtain ⟨stage, reached, less⟩ := inductionHypothesis next
      exact ⟨stage, reached, by simpa [other] using less⟩

/-- An outcome is final. -/
theorem ended_play {spec : RegionSpec} {outcome : Except CreationError Region}
    (known : race.calls[caller]? = some ⟨spec, .ended outcome⟩) (moves : List CreationMove) :
    (race.play moves).calls[caller]? = some ⟨spec, .ended outcome⟩ := by
  induction moves generalizing race with
  | nil => exact known
  | cons move rest inductionHypothesis =>
    refine inductionHypothesis ((getElem?_calls_step known move).trans ?_)
    split <;> rfl

/-- A call that had not put its table in place when there was one is left with nothing. -/
theorem undecided_play {table : Table} (there : race.registry.table? = some table)
    (known : race.calls[caller]? = some call) (undecided : call.stage.Undecided)
    (moves : List CreationMove) :
    (race.play moves).calls[caller]? = some call ∨
      (race.play moves).calls[caller]? = some ⟨call.spec, .ended (.error .alreadyCreated)⟩ := by
  induction moves generalizing race table with
  | nil => exact .inl known
  | cons move rest inductionHypothesis =>
    have next := getElem?_calls_step known move
    split at next
    next =>
      have advances := call.advances race.registry
      rw [there] at advances
      rw [CreationCall.advanced, advances.undecided undecided] at next
      exact .inr (ended_play next rest)
    next => exact inductionHypothesis (table?_step there move) next

/-- A call that is made when there is a table is left with nothing, whatever it asks for. -/
theorem latecomer_play {table : Table} (there : race.registry.table? = some table)
    {moves : List CreationMove} (unknown : race.calls[caller]? = none)
    (known : (race.play moves).calls[caller]? = some call) :
    call.stage = .begun ∨ call.stage = .ended (.error .alreadyCreated) := by
  induction moves generalizing race table with
  | nil =>
    rw [play, List.foldl_nil, unknown] at known
    contradiction
  | cons move rest inductionHypothesis =>
    cases new : (race.step move).calls[caller]? with
    | none => exact inductionHypothesis (table?_step there move) new known
    | some made =>
      have begun := stage_of_new unknown new
      obtain same | lost :=
        undecided_play (table?_step there move) new (.inl begun) rest
      · obtain rfl := Option.some.inj (known.symm.trans same)
        exact .inl begun
      · obtain rfl := Option.some.inj (known.symm.trans lost)
        exact .inr rfl

/-- A call that nobody comes in between is a creation in one go. -/
theorem play_alone (race : CreationRace) (spec : RegionSpec) :
    race.play (CreationMove.alone race.calls.length spec) =
      ⟨(race.registry.create spec).2,
        race.calls ++ [⟨spec, .ended (race.registry.create spec).1⟩], race.answers⟩ := by
  obtain ⟨⟨table?, log⟩, calls, answers⟩ := race
  cases table? with
  | some table =>
    simp [play, CreationMove.alone, step, CreationCall.advance, Registry.create, Registry.look]
  | none =>
    cases checked : spec.check <;>
      simp [play, CreationMove.alone, step, CreationCall.advance, Registry.create, Registry.look,
        Registry.put, Registry.note, Registry.table, checked]

/-- What every moment of a race is like, for all who call and ask. -/
structure Lawful (race : CreationRace) : Prop where
  /-- At most one call puts its table in place. -/
  unique : ∀ (caller other : Nat) (call rival : CreationCall), race.calls[caller]? = some call →
    race.calls[other]? = some rival → call.stage.Won → rival.stage.Won → caller = other
  /-- A table is that of a call that did, with the base and the count that it asked for. -/
  winner : ∀ region, race.region? = some region → ∃ (caller : Nat) (call : CreationCall),
    race.calls[caller]? = some call ∧ call.stage.Won ∧ region.spec = call.spec
  /-- Without a table nobody was ever told of one. -/
  unanswered : race.registry.table? = none → ∀ answer ∈ race.answers, answer = .error .noTable
  /-- A call succeeds only with the table that is there. -/
  succeeded : ∀ (caller : Nat) spec region,
    race.calls[caller]? = some ⟨spec, .ended (.ok region)⟩ →
      race.region? = some region ∧ region.spec = spec
  /-- It is told of a defect only if its range has it. -/
  refused : ∀ (caller : Nat) spec reason,
    race.calls[caller]? = some ⟨spec, .ended (.error (.range reason))⟩ →
      spec.check = .error reason
  /-- It is told of another table only if there is one. -/
  lost : ∀ (caller : Nat) spec,
    race.calls[caller]? = some ⟨spec, .ended (.error .alreadyCreated)⟩ →
      ∃ region, race.region? = some region
  /-- A proper call that has returned has won or lost. -/
  decided : ∀ (caller : Nat) (spec : RegionSpec) region outcome, spec.check = .ok region →
    race.calls[caller]? = some ⟨spec, .ended outcome⟩ →
      outcome = .ok region ∨ outcome = .error .alreadyCreated
  /-- No call is broken off. -/
  unbroken : ∀ (caller : Nat) spec cause, race.calls[caller]? ≠ some ⟨spec, .broken cause⟩
  /-- An improper call that sees no table returns, and changes nothing else. -/
  refuses : ∀ (caller : Nat) (spec : RegionSpec) reason, race.registry.table? = none →
    spec.check = .error reason → race.calls[caller]? = some ⟨spec, .begun⟩ →
      race.step (.proceed caller) =
        { race with calls := race.calls.set caller ⟨spec, .ended (.error (.range reason))⟩ }
  /-- As long as there is no table, a proper call still succeeds. -/
  succeeds : ∀ (spec : RegionSpec) region, race.registry.table? = none →
    spec.check = .ok region → ∃ log, race.play (CreationMove.alone race.calls.length spec) =
      ⟨⟨some ⟨region, .fresh region⟩, log⟩, race.calls ++ [⟨spec, .ended (.ok region)⟩],
        race.answers⟩
  /-- A call that nobody comes in between is a creation in one go. -/
  alone : ∀ spec, race.play (CreationMove.alone race.calls.length spec) =
    ⟨(race.registry.create spec).2,
      race.calls ++ [⟨spec, .ended (race.registry.create spec).1⟩], race.answers⟩

theorem Consistent.lawful (consistent : race.Consistent) : race.Lawful where
  unique := consistent.unique
  winner region there := by
    obtain ⟨table, known, rfl⟩ := Option.map_eq_some_iff.mp there
    obtain ⟨caller, call, made, won⟩ := consistent.winner (by rw [known]; rfl)
    obtain ⟨region, same, checked⟩ := (consistent.agrees caller call made).known won
    obtain rfl := Option.some.inj (there.symm.trans same)
    exact ⟨caller, call, made, won, RegionSpec.check_eq_ok_iff.mp checked⟩
  unanswered := consistent.unanswered
  succeeded caller spec region known := by
    obtain ⟨there, checked⟩ := consistent.agrees caller _ known
    exact ⟨there, RegionSpec.check_eq_ok_iff.mp checked⟩
  refused caller spec reason known := consistent.agrees caller _ known
  lost caller spec known := consistent.agrees caller _ known
  decided caller spec region outcome checked known := by
    have agrees := consistent.agrees caller _ known
    cases outcome with
    | ok other =>
      obtain rfl := Except.ok.inj (checked.symm.trans agrees.2)
      exact .inl rfl
    | error failure =>
      cases failure with
      | alreadyCreated => exact .inr rfl
      | range reason =>
        have refused : spec.check = .error reason := agrees
        rw [checked] at refused
        contradiction
  unbroken caller spec cause known := consistent.agrees caller _ known
  refuses caller spec reason missing refused known := by
    simp [CreationRace.step, known, CreationCall.advance, Registry.look, missing, refused]
  succeeds spec region missing checked := by
    refine ⟨(race.registry.create spec).2.log, (play_alone race spec).trans ?_⟩
    simp [Registry.create, Registry.look, Registry.put, Registry.note, missing, checked]
  alone := play_alone race

/-- What further moves do to a race. -/
structure Lasting (race : CreationRace) (moves : List CreationMove) : Prop where
  /-- A table stays in place for good, and no call or question changes its descriptors. -/
  table : ∀ table, race.registry.table? = some table →
    (race.play moves).registry.table? =
      some (moves.foldl (fun table move => move.alter table) table)
  /-- Whoever asks when there is a table gets this one. -/
  answered : ∀ region, race.region? = some region →
    (race.play moves).region? = some region ∧
      (race.play moves).answers = race.answers ++ .replicate (moves.countP (·.isAsk)) (.ok region)
  /-- Everybody who asks is answered. -/
  asked : (race.play moves).answers.length = race.answers.length + moves.countP (·.isAsk)
  /-- A call that is made when there is a table is left with nothing, whatever it asks for. -/
  latecomer : race.registry.table?.isSome → ∀ (caller : Nat) call, race.calls[caller]? = none →
    (race.play moves).calls[caller]? = some call →
      call.stage = .begun ∨ call.stage = .ended (.error .alreadyCreated)
  /-- So is a call that had not put its table in place by then. -/
  loser : race.registry.table?.isSome → ∀ (caller : Nat) (call : CreationCall),
    race.calls[caller]? = some call → call.stage.Undecided →
      (race.play moves).calls[caller]? = some call ∨
        (race.play moves).calls[caller]? = some ⟨call.spec, .ended (.error .alreadyCreated)⟩
  /-- An outcome is final. -/
  final : ∀ (caller : Nat) spec outcome, race.calls[caller]? = some ⟨spec, .ended outcome⟩ →
    (race.play moves).calls[caller]? = some ⟨spec, .ended outcome⟩
  /-- A call that takes three steps returns. -/
  returns : ∀ (caller : Nat) (call : CreationCall), race.calls[caller]? = some call →
    3 ≤ moves.countP (·.isStepOf caller) →
      ∃ outcome, (race.play moves).calls[caller]? = some ⟨call.spec, .ended outcome⟩

theorem Consistent.lasting (consistent : race.Consistent) (moves : List CreationMove) :
    race.Lasting moves where
  table table there := table?_play there moves
  answered region there := by
    obtain ⟨table, known, rfl⟩ := Option.map_eq_some_iff.mp there
    exact ⟨region?_play there moves, answers_play known moves⟩
  asked := length_answers_play race moves
  latecomer there caller call unknown known := by
    obtain ⟨table, there⟩ := Option.isSome_iff_exists.mp there
    exact latecomer_play there unknown known
  loser there caller call known undecided := by
    obtain ⟨table, there⟩ := Option.isSome_iff_exists.mp there
    exact undecided_play there known undecided moves
  final caller spec outcome known := ended_play known moves
  returns caller call known often := by
    obtain ⟨stage, reached, less⟩ := left_play known moves
    have done : stage.left = 0 := by
      have most : call.stage.left ≤ 3 := by cases call.stage <;> simp [CreationStage.left]
      omega
    cases stage with
    | ended outcome => exact ⟨outcome, reached⟩
    | broken cause => exact ((consistent.play moves).agrees caller _ reached).elim
    | begun | looked | stored => contradiction

/-- At every moment of a race that starts without a table, at most one call has won, the table is
the one of this call, and every call that has returned was told the truth. From then on a table stays
in place, and nobody but its users changes its descriptors. -/
theorem created_once (before after : List CreationMove) :
    (start.play before).Lawful ∧ (start.play before).Lasting after :=
  have consistent := consistent_start.play before
  ⟨consistent.lawful, consistent.lasting after⟩

/-- The first of two proper calls is overtaken by the second, and an empty range is refused. -/
example :
    let race := start.play [.ask, .call ⟨0x1000, 2⟩, .call ⟨0xffffffffffffd000, 2⟩, .call ⟨0x1000, 0⟩,
      .proceed 0, .proceed 1, .proceed 2, .proceed 1, .proceed 0, .proceed 1, .ask]
    race.answers = [.error .noTable, .ok .highest] ∧
      race.calls.map (·.stage) =
        [.ended (.error .alreadyCreated), .ended (.ok .highest),
          .ended (.error (.range .empty))] :=
  ⟨rfl, rfl⟩

end CreationRace

/-- Giving a granule of the process another role is a use of the table. -/
theorem Registry.exists_use_eq_transition (registry : Registry) (addr : Address)
    (expected next : Role) :
    ∃ change log, (registry.transition addr expected next).2 = registry.use change log := by
  obtain ⟨table?, log⟩ := registry
  cases table? with
  | none => exact ⟨fun _ => id, log, rfl⟩
  | some table =>
    obtain ⟨region, store⟩ := table
    suffices kept : ∃ store' log',
        (Registry.transition ⟨some ⟨region, store⟩, log⟩ addr expected next).2 =
          ⟨some ⟨region, store'⟩, log'⟩ by
      obtain ⟨store', log', same⟩ := kept
      refine ⟨fun other old => if here : region = other then here ▸ store' else old, log', ?_⟩
      rw [same]
      simp [Registry.use]
    unfold Registry.transition
    dsimp only
    split <;> exact ⟨_, _, rfl⟩

end GranuleMonitor
