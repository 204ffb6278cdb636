import GranuleMonitor.Proofs.Custody.Independence

/-!
# What is in a window slot

A window slot holds what the latest call put there that concerned it: a successful call that opened
a window, or any call that gave one back, with or without a fault. Which processor a call is for was
decided by the latest successful selection. `Event.slotHistory` reads this off the events of a run,
whatever else happens in between, and `Custody.occupant?_play` says that the slots agree with it.
What a single call does is listed in `Monitor.Bookkept`.
-/

namespace GranuleMonitor

variable {region : Region}

/-- An operation that selects a processor, or opens a window or gives one back by itself. -/
def Operation.OnWindows : Operation region → Prop
  | .selectCpu _ | .mapWindow .. | .unmapWindow .. => True
  | _ => False

namespace Event

/-- The current processor after an event. -/
def cpuAfter (event : Event region) (cpu : Cpu) : Cpu :=
  match event.operation with
  | .selectCpu number =>
    if known : number.toNat < maxCpus then ⟨number.toNat, known⟩ else cpu
  | _ => cpu

/-- What an event puts into a slot of its processor, in this order. Zeroing a granule opens a window
and gives it back. -/
def changes (event : Event region) (slot : WindowSlot) : List (Option Address) :=
  match event.operation with
  | .mapWindow used addr =>
    match event.outcome with
    | .replied (.address (some _)) => if used = slot then [some addr] else []
    | _ => []
  | .unmapWindow used _ => if used = slot then [none] else []
  | .useGuard guard (.zero used) =>
    match event.outcome with
    | .replied _ => if used = slot then [Monitor.addressOf? guard.target, none] else []
    | _ => []
  | _ => []

/-- All that events put into a slot of a processor, if they begin at another one. -/
def slotHistory (cpu : Cpu) (slot : WindowSlot) : Cpu → List (Event region) → List (Option Address)
  | _, [] => []
  | current, event :: rest =>
    (if cpu = current then event.changes slot else []) ++
      slotHistory cpu slot (event.cpuAfter current) rest

end Event

namespace Windows

/-- Exactly the window in the slot may be given back. -/
theorem unmapFault?_eq (windows : Windows) (cpu : Cpu) (slot : WindowSlot) {window : Address}
    (proper : window ≠ 0) :
    windows.unmapFault? cpu slot window =
      if windows.occupant? cpu slot = some window then none
      else some (.windowMismatch slot cpu ((windows.occupant? cpu slot).getD 0) window) := by
  unfold unmapFault?
  cases windows.occupant? cpu slot with
  | none => simp [proper.symm]
  | some occupant => simp

end Windows

namespace Act

/-- A window is opened on every granule but that at zero, if the slot is empty. -/
theorem mapWindow_apply (slot : WindowSlot) (addr : Address) (monitor : Monitor region) :
    mapWindow slot addr monitor =
      if addr = 0 then .ok none monitor
      else
        match monitor.windows.occupant? monitor.cpu slot with
        | some occupant => .error (.fault (.windowOccupied slot monitor.cpu occupant)) monitor
        | none =>
          .ok (some addr) { monitor with
            windows := monitor.windows.put monitor.cpu slot (some addr) } := by
  unfold mapWindow Windows.map
  by_cases null : addr = 0
  · simp [null]
  · cases monitor.windows.occupant? monitor.cpu slot <;> simp [null]

/-- Giving a window back empties the slot, and then reports what was wrong. -/
theorem unmapWindow_apply (slot : WindowSlot) (window : Address) (monitor : Monitor region) :
    unmapWindow slot window monitor =
      failIf (monitor.windows.unmapFault? monitor.cpu slot window) { monitor with
        windows := monitor.windows.put monitor.cpu slot none } := by
  rw [failIf_apply]
  rfl

theorem result_unmapWindow (slot : WindowSlot) (window : Address) (monitor : Monitor region) :
    (unmapWindow slot window).result monitor =
      match monitor.windows.unmapFault? monitor.cpu slot window with
      | some cause => .error (.fault cause)
      | none => .ok () := by
  unfold result
  rw [unmapWindow_apply, failIf_apply]
  cases monitor.windows.unmapFault? monitor.cpu slot window <;> rfl

theorem after_unmapWindow (slot : WindowSlot) (window : Address) (monitor : Monitor region) :
    (unmapWindow slot window).after monitor =
      { monitor with windows := monitor.windows.put monitor.cpu slot none } := by
  unfold after
  rw [unmapWindow_apply, failIf_apply]
  cases monitor.windows.unmapFault? monitor.cpu slot window <;> rfl

end Act

namespace Custody

variable (custody : Custody region)

theorem step_mapWindow (slot : WindowSlot) (addr : Address) :
    custody.step (.mapWindow slot addr) =
      if addr = 0 then (.replied (.address none), custody)
      else
        match custody.monitor.windows.occupant? custody.monitor.cpu slot with
        | some occupant =>
          (.halted (.fault (.windowOccupied slot custody.monitor.cpu occupant)), custody)
        | none =>
          (.replied (.address (some addr)), { custody with
            monitor := { custody.monitor with
              windows := custody.monitor.windows.put custody.monitor.cpu slot (some addr) } }) := by
  by_cases null : addr = 0
  · rw [if_pos null]
    exact step_of_ok .address (by rw [Act.mapWindow_apply, if_pos null]) rfl rfl
  rw [if_neg null]
  cases present : custody.monitor.windows.occupant? custody.monitor.cpu slot with
  | some occupant =>
    exact step_of_fault .address (by rw [Act.mapWindow_apply, if_neg null, present]) rfl rfl
  | none => exact step_of_ok .address (by rw [Act.mapWindow_apply, if_neg null, present]) rfl rfl

theorem step_unmapWindow (slot : WindowSlot) (window : Address) :
    custody.step (.unmapWindow slot window) =
      (.ofFault? (custody.monitor.windows.unmapFault? custody.monitor.cpu slot window),
        { custody with
          monitor := { custody.monitor with
            windows := custody.monitor.windows.put custody.monitor.cpu slot none } }) := by
  have ended := Act.unmapWindow_apply slot window custody.monitor
  rw [Act.failIf_apply] at ended
  cases wrong : custody.monitor.windows.unmapFault? custody.monitor.cpu slot window with
  | some cause =>
    rw [wrong] at ended
    exact step_of_fault (fun _ => .done) ended rfl rfl
  | none =>
    rw [wrong] at ended
    exact step_of_ok (fun _ => .done) ended rfl rfl

theorem step_selectCpu (number : UInt64) :
    custody.step (.selectCpu number) =
      if known : number.toNat < maxCpus then
        (.replied .done, { custody with
          monitor := { custody.monitor with cpu := ⟨number.toNat, known⟩ } })
      else (.halted (.fault (.unknownCpu number)), custody) := by
  split
  · next known => exact step_of_ok (fun _ => .done) (dif_pos known) rfl rfl
  · next unknown => exact step_of_fault (fun _ => .done) (dif_neg unknown) rfl rfl

/-- A granule is zeroed through an empty slot. -/
theorem empty_of_zero {guard : Guard region} {slot : WindowSlot} {reply : Reply region}
    (ended : (custody.step (.useGuard guard (.zero slot))).1 = .replied reply) :
    custody.monitor.windows.occupant? custody.monitor.cpu slot = none := by
  by_cases alive : (Operation.useGuard guard (.zero slot)).guard?.all custody.live.contains
  case neg =>
    rw [step_of_dead alive] at ended
    contradiction
  rw [step_of_alive alive] at ended
  simp only [Operation.perform, GuardCall.perform, Act.result_bind, Act.bind_apply,
    Guard.zero_eq] at ended
  cases stopped : guard.zeroFault? slot custody.monitor with
  | some cause => simp [stopped] at ended
  | none =>
    unfold Guard.zeroFault? at stopped
    split at stopped
    · contradiction
    split at stopped
    · contradiction
    split at stopped
    · contradiction
    exact Option.map_eq_none_iff.mp stopped

/-- Operations on descriptors and on memory leave windows and processor as they are. -/
theorem windows_step_of_kept {operation : Operation region} (kept : ¬ operation.OnWindows) :
    (custody.step operation).2.monitor.windows = custody.monitor.windows ∧
      (custody.step operation).2.monitor.cpu = custody.monitor.cpu := by
  have onDescriptors (kind : operation.OnDescriptors) :
      (custody.step operation).2.monitor.windows = custody.monitor.windows ∧
        (custody.step operation).2.monitor.cpu = custody.monitor.cpu :=
    ⟨(custody.step_alike kind).monitor.windows, (custody.step_alike kind).monitor.cpu⟩
  cases operation with
  | fill addr value =>
    simp only [step, Operation.guard?, Option.all_none, if_true, Operation.perform, Act.bind_apply,
      Act.fill]
    cases custody.monitor.memory.fill addr value <;> exact ⟨rfl, rfl⟩
  | isZeroed addr =>
    simp only [step, Operation.guard?, Option.all_none, if_true, Operation.perform, Act.bind_apply,
      Act.isZeroed]
    cases custody.monitor.memory.isZeroed addr <;> exact ⟨rfl, rfl⟩
  | read addr buffer =>
    simp only [step, Operation.guard?, Option.all_none, if_true, Operation.perform, Act.bind_apply,
      Act.readInto, Act.ofExcept_apply]
    cases custody.monitor.memory.read addr buffer <;> exact ⟨rfl, rfl⟩
  | selectCpu | mapWindow | unmapWindow => exact absurd trivial kept
  | _ => exact onDescriptors trivial

/-- An operation leaves in a slot what it put there last, or what was there before. -/
theorem occupant?_step (operation : Operation region) (cpu : Cpu) (slot : WindowSlot) :
    (custody.step operation).2.monitor.windows.occupant? cpu slot =
      (if cpu = custody.monitor.cpu then
          Event.changes ⟨operation, (custody.step operation).1⟩ slot
        else []).getLast?.getD (custody.monitor.windows.occupant? cpu slot) := by
  have unchanged (kept : ¬ operation.OnWindows)
      (nothing : ∀ outcome, Event.changes ⟨operation, outcome⟩ slot = []) :
      (custody.step operation).2.monitor.windows.occupant? cpu slot =
        (if cpu = custody.monitor.cpu then
            Event.changes ⟨operation, (custody.step operation).1⟩ slot
          else []).getLast?.getD (custody.monitor.windows.occupant? cpu slot) := by
    rw [(custody.windows_step_of_kept kept).1, nothing, ite_self]
    rfl
  cases operation with
  | selectCpu number =>
    rw [step_selectCpu]
    split <;> simp [Event.changes]
  | mapWindow used addr =>
    rw [step_mapWindow]
    by_cases null : addr = 0
    · simp [null, Event.changes]
    rw [if_neg null]
    cases custody.monitor.windows.occupant? custody.monitor.cpu used with
    | some occupant => simp [Event.changes]
    | none =>
      simp only [Windows.occupant?_put, Event.changes]
      by_cases here : cpu = custody.monitor.cpu <;> by_cases same : slot = used <;>
        simp [here, same, eq_comm]
  | unmapWindow used window =>
    rw [step_unmapWindow]
    simp only [Windows.occupant?_put, Event.changes, @eq_comm _ used]
    by_cases here : cpu = custody.monitor.cpu <;> by_cases same : slot = used <;>
      simp [here, same]
  | useGuard guard call =>
    cases call with
    | zero used =>
      have kept : ¬ (Operation.useGuard guard (.zero used)).OnWindows := id
      rw [(custody.windows_step_of_kept kept).1]
      cases ended : (custody.step (.useGuard guard (.zero used))).1 with
      | replied reply =>
        by_cases here : cpu = custody.monitor.cpu <;> by_cases same : used = slot
        · -- the slot is empty again, and it was empty before
          have empty := custody.empty_of_zero ended
          subst same
          simp [Event.changes, here, empty]
        all_goals simp [Event.changes, here, same]
      | _ => simp [Event.changes]
    | _ => exact unchanged id fun _ => rfl
  | _ => exact unchanged id fun _ => rfl

/-- Operations run on the processor that was selected last. -/
theorem cpu_step (operation : Operation region) :
    (custody.step operation).2.monitor.cpu =
      Event.cpuAfter ⟨operation, (custody.step operation).1⟩ custody.monitor.cpu := by
  cases operation with
  | selectCpu number =>
    rw [step_selectCpu]
    unfold Event.cpuAfter
    dsimp only
    split <;> rfl
  | mapWindow used addr =>
    rw [step_mapWindow]
    by_cases null : addr = 0
    · rw [if_pos null]
      rfl
    rw [if_neg null]
    cases custody.monitor.windows.occupant? custody.monitor.cpu used <;> rfl
  | unmapWindow used window =>
    rw [step_unmapWindow]
    rfl
  | _ => exact (custody.windows_step_of_kept id).2

/-- A slot holds what a run put there last, or what was there before the run. -/
theorem occupant?_play (operations : List (Operation region)) (cpu : Cpu) (slot : WindowSlot) :
    (custody.play operations).2.monitor.windows.occupant? cpu slot =
      (Event.slotHistory cpu slot custody.monitor.cpu (custody.play operations).1).getLast?.getD
        (custody.monitor.windows.occupant? cpu slot) := by
  induction operations generalizing custody with
  | nil => rfl
  | cons first rest inductionHypothesis =>
    rw [play_cons]
    dsimp only
    rw [inductionHypothesis, occupant?_step, cpu_step, Event.slotHistory, List.getLast?_append,
      Option.getD_or]

/-- A run ends on the processor that it selected last. -/
theorem cpu_play (operations : List (Operation region)) :
    (custody.play operations).2.monitor.cpu =
      (custody.play operations).1.foldl (fun cpu event => event.cpuAfter cpu)
        custody.monitor.cpu := by
  induction operations generalizing custody with
  | nil => rfl
  | cons first rest inductionHypothesis =>
    rw [play_cons]
    dsimp only
    rw [inductionHypothesis, cpu_step, List.foldl_cons]

/-- No operation opens a window on the granule at zero. -/
theorem occupant?_step_ne_zero (operation : Operation region)
    (proper : ∀ cpu slot, custody.monitor.windows.occupant? cpu slot ≠ some 0) (cpu : Cpu)
    (slot : WindowSlot) :
    (custody.step operation).2.monitor.windows.occupant? cpu slot ≠ some 0 := by
  cases operation with
  | selectCpu number =>
    rw [step_selectCpu]
    split <;> exact proper cpu slot
  | mapWindow used addr =>
    rw [step_mapWindow]
    by_cases null : addr = 0
    · rw [if_pos null]
      exact proper cpu slot
    rw [if_neg null]
    cases custody.monitor.windows.occupant? custody.monitor.cpu used with
    | some occupant => exact proper cpu slot
    | none =>
      dsimp only
      rw [Windows.occupant?_put]
      split
      · exact fun opened => null (Option.some.inj opened)
      · exact proper cpu slot
  | unmapWindow used window =>
    rw [step_unmapWindow]
    dsimp only
    rw [Windows.occupant?_put]
    split
    · simp
    · exact proper cpu slot
  | _ =>
    rw [(custody.windows_step_of_kept id).1]
    exact proper cpu slot

/-- No run opens a window on the granule at zero. -/
theorem occupant?_play_ne_zero (operations : List (Operation region))
    (proper : ∀ cpu slot, custody.monitor.windows.occupant? cpu slot ≠ some 0) (cpu : Cpu)
    (slot : WindowSlot) :
    (custody.play operations).2.monitor.windows.occupant? cpu slot ≠ some 0 := by
  induction operations generalizing custody with
  | nil => exact proper cpu slot
  | cons first rest inductionHypothesis =>
    exact inductionHypothesis (custody.step first).2 (custody.occupant?_step_ne_zero first proper)

end Custody

/-- What single calls do to the windows of a monitor. -/
structure Monitor.Bookkept (monitor : Monitor region) : Prop where
  /-- A window is opened exactly on a granule that does not lie at zero, through an empty slot, and
  its address is that of the granule. -/
  opens_iff : ∀ slot addr window,
    (Act.mapWindow slot addr).result monitor = .ok (some window) ↔
      window = addr ∧ addr ≠ 0 ∧ monitor.windows.occupant? monitor.cpu slot = none
  /-- There is no window on a granule at zero. -/
  opens_nothing_iff : ∀ slot addr,
    (Act.mapWindow slot addr).result monitor = .ok none ↔ addr = 0
  /-- An occupied slot is a fault. -/
  opens_fault_iff : ∀ slot addr halt,
    (Act.mapWindow slot addr).result monitor = .error halt ↔
      addr ≠ 0 ∧ ∃ occupant, monitor.windows.occupant? monitor.cpu slot = some occupant ∧
        halt = .fault (.windowOccupied slot monitor.cpu occupant)
  /-- Without a window nothing changes. -/
  unopened : ∀ slot addr,
    (∀ window, (Act.mapWindow slot addr).result monitor ≠ .ok (some window)) →
      (Act.mapWindow slot addr).after monitor = monitor
  /-- A slot whose window is given back is empty, whatever the outcome. -/
  returned_empty : ∀ slot window,
    ((Act.unmapWindow slot window).after monitor).windows.occupant? monitor.cpu slot = none
  /-- Exactly the window in the slot may be given back. -/
  returned_iff : ∀ slot window, window ≠ 0 →
    ((Act.unmapWindow slot window).result monitor = .ok () ↔
      monitor.windows.occupant? monitor.cpu slot = some window)
  /-- Any other one is a fault, also if the slot is empty. -/
  returned_fault_iff : ∀ slot window halt, window ≠ 0 →
    ((Act.unmapWindow slot window).result monitor = .error halt ↔
      monitor.windows.occupant? monitor.cpu slot ≠ some window ∧
        halt = .fault (.windowMismatch slot monitor.cpu
          ((monitor.windows.occupant? monitor.cpu slot).getD 0) window))
  /-- No call changes another slot or a slot of another processor. -/
  elsewhere : ∀ slot addr cpu other, cpu ≠ monitor.cpu ∨ other ≠ slot →
    ((Act.mapWindow slot addr).after monitor).windows.occupant? cpu other =
        monitor.windows.occupant? cpu other ∧
      ((Act.unmapWindow slot addr).after monitor).windows.occupant? cpu other =
        monitor.windows.occupant? cpu other
  /-- Zeroing leaves all windows as they are, whatever the outcome. -/
  zeroed : ∀ guard slot, ((Guard.zero guard slot).after monitor).windows = monitor.windows
  /-- A processor that exists is selected. -/
  selected : ∀ (number : UInt64) (known : number.toNat < maxCpus),
    Act.selectCpu number monitor = .ok () { monitor with cpu := ⟨number.toNat, known⟩ }
  /-- Any other one is rejected without effect. -/
  rejected : ∀ number : UInt64, maxCpus ≤ number.toNat →
    Act.selectCpu number monitor = .error (.fault (.unknownCpu number)) monitor
  /-- Asking whether a slot is occupied has no effect. -/
  asked : ∀ held (number : UInt64) slot,
    Session.step ⟨monitor, held⟩ (.isMapped number slot) =
      (if known : number.toNat < maxCpus then
          .flag (monitor.windows.occupant? ⟨number.toNat, known⟩ slot).isSome
        else .halted (.fault (.noSuchCpu number)),
        ⟨monitor, held⟩)

/-- Single calls keep the books in every monitor. -/
theorem Monitor.bookkept (monitor : Monitor region) : monitor.Bookkept where
  opens_iff slot addr window := by
    unfold Act.result
    rw [Act.mapWindow_apply]
    by_cases null : addr = 0
    · simp [null]
    cases monitor.windows.occupant? monitor.cpu slot <;> simp [null, eq_comm]
  opens_nothing_iff slot addr := by
    unfold Act.result
    rw [Act.mapWindow_apply]
    by_cases null : addr = 0
    · simp [null]
    cases monitor.windows.occupant? monitor.cpu slot <;> simp [null]
  opens_fault_iff slot addr halt := by
    unfold Act.result
    rw [Act.mapWindow_apply]
    by_cases null : addr = 0
    · simp [null]
    cases monitor.windows.occupant? monitor.cpu slot <;> simp [null, eq_comm]
  unopened slot addr unopened := by
    unfold Act.result at unopened
    unfold Act.after
    rw [Act.mapWindow_apply] at unopened ⊢
    by_cases null : addr = 0
    · simp [null]
    cases present : monitor.windows.occupant? monitor.cpu slot <;>
      simp [null, present] at unopened ⊢
  returned_empty slot window := by
    rw [Act.after_unmapWindow, Windows.occupant?_put, if_pos ⟨rfl, rfl⟩]
  returned_iff slot window proper := by
    rw [Act.result_unmapWindow, Windows.unmapFault?_eq _ _ _ proper]
    by_cases present : monitor.windows.occupant? monitor.cpu slot = some window <;> simp [present]
  returned_fault_iff slot window halt proper := by
    rw [Act.result_unmapWindow, Windows.unmapFault?_eq _ _ _ proper]
    by_cases present : monitor.windows.occupant? monitor.cpu slot = some window <;>
      simp [present, eq_comm]
  elsewhere slot addr cpu other differs := by
    have apart : ¬ (cpu = monitor.cpu ∧ other = slot) := not_and_or.mpr differs
    refine ⟨?_, ?_⟩
    · unfold Act.after
      rw [Act.mapWindow_apply]
      by_cases null : addr = 0
      · simp [null]
      cases monitor.windows.occupant? monitor.cpu slot <;> simp [null, Windows.occupant?_put, apart]
    · rw [Act.after_unmapWindow, Windows.occupant?_put, if_neg apart]
  zeroed guard slot := by
    unfold Act.after
    rw [Guard.zero_eq]
    cases guard.zeroFault? slot monitor <;> rfl
  selected number known := dif_pos known
  rejected number unknown := dif_neg (Nat.not_lt.mpr unknown)
  asked held number slot := by
    by_cases known : number.toNat < maxCpus <;>
      simp [Session.step, Session.answer, Session.run, Session.isMapped, known, Act.ofExcept]

namespace Custody

/-- If no window was open before a run, then at its end a slot holds a window on a granule exactly
if the latest call that concerned the slot opened it, and otherwise the slot is empty. No slot holds
a window on a granule at zero. The calls that concern a slot are the successful ones that open a
window and all that give one back, on the processor that was selected last. Single calls keep the
books in every monitor that a run comes to; asking about a slot has no effect and may come in at any
moment. -/
theorem slots_hold_latest (custody : Custody region) (empty : custody.monitor.windows = .empty)
    (operations : List (Operation region)) :
    let events := (custody.play operations).1
    let monitor := (custody.play operations).2.monitor
    (∀ cpu slot addr, monitor.windows.occupant? cpu slot = some addr ↔
        (Event.slotHistory cpu slot custody.monitor.cpu events).getLast? = some (some addr)) ∧
      (∀ cpu slot, monitor.windows.occupant? cpu slot ≠ some 0) ∧
      monitor.cpu = events.foldl (fun cpu event => event.cpuAfter cpu) custody.monitor.cpu ∧
      monitor.Bookkept := by
  intro events monitor
  have unused (cpu : Cpu) (slot : WindowSlot) :
      custody.monitor.windows.occupant? cpu slot = none := by
    rw [empty, Windows.occupant?_empty]
  refine ⟨fun cpu slot addr => ?_, ?_, custody.cpu_play operations, monitor.bookkept⟩
  · have present := custody.occupant?_play operations cpu slot
    rw [unused] at present
    rw [present]
    cases (Event.slotHistory cpu slot custody.monitor.cpu events).getLast? with
    | none => simp
    | some latest => simp
  · refine custody.occupant?_play_ne_zero operations fun cpu slot => ?_
    rw [unused]
    simp

/-- Opens windows on two processors, with attempts at an occupied slot, at a granule at zero and at
a processor that does not exist, and gives one back by the wrong address. -/
def relocation : List (Operation threeGranules) :=
  [.acquire (.lock (.granule 0x1000) .nonsecure), .selectCpu 3, .mapWindow .realm 0x1000,
    .mapWindow .realm 0x2000, .useGuard lowest (.zero .realm), .useGuard lowest (.zero .delegated),
    .selectCpu 16, .selectCpu 4, .mapWindow .realm 0x2000, .mapWindow .context 0, .selectCpu 3,
    .unmapWindow .realm 0x9000]

/-- The window that was given back by the wrong address is gone, and the slot of the other processor
is as it was. -/
theorem relocation_slots :
    let monitor := ((start (Monitor.create threeGranules .absent)).play relocation).2.monitor
    monitor.windows.occupant? 4 .realm = some 0x2000 ∧
      monitor.windows.occupant? 3 .realm ≠ some 0x1000 ∧
      monitor.cpu = 3 ∧ (Act.mapWindow .context 0).result monitor = .ok none := by
  obtain ⟨holds, -, cpu, books⟩ :=
    slots_hold_latest (start (Monitor.create threeGranules .absent)) rfl relocation
  refine ⟨(holds 4 .realm 0x2000).mpr (by decide +kernel), ?_, ?_, ?_⟩
  · rw [ne_eq, holds 3 .realm 0x1000]
    decide +kernel
  · rw [cpu]
    decide +kernel
  · exact (books.opens_nothing_iff .context 0).mpr rfl

end Custody

end GranuleMonitor
