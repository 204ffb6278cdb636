import GranuleMonitor.Proofs.Custody.Soundness

/-!
# Sessions as custodies

A session has one caller, who keeps guards under names. Whatever a step of a session does comes of
operations on the custody that the session stands for, which is `Session.leads_step`. So what all
operations preserve is preserved by sessions: a descriptor is locked exactly while the session has
its guard, and nothing stays locked at the end.
-/

namespace GranuleMonitor

variable {region : Region}

namespace Custody

/-- A custody comes to another one by operations. In which order the live guards are listed does
not matter. -/
inductive Leads (first : Custody region) : Custody region → Prop where
  | refl : Leads first first
  | step {middle} (prior : Leads first middle) (operation : Operation region) :
      Leads first (middle.step operation).2
  | reorder {monitor live others} (prior : Leads first ⟨monitor, live⟩)
      (same : live.Perm others) : Leads first ⟨monitor, others⟩

variable {first middle last : Custody region}

theorem Leads.trans (before : first.Leads middle) (after : middle.Leads last) :
    first.Leads last := by
  induction after with
  | refl => exact before
  | step _ operation inductionHypothesis => exact .step inductionHypothesis operation
  | reorder _ same inductionHypothesis => exact .reorder inductionHypothesis same

/-- Locks and live guards stay together. -/
theorem Leads.sound (leads : first.Leads last) (sound : first.Sound) : last.Sound := by
  induction leads with
  | refl => exact sound
  | step _ operation inductionHypothesis =>
    exact inductionHypothesis.of_effect (step_effect _ operation)
  | reorder _ same inductionHypothesis =>
    refine ⟨fun target => ?_, same.nodup_iff.mp inductionHypothesis.nodup⟩
    rw [← same.mem_iff]
    exact inductionHypothesis.locked_iff target

/-- One of the live guards may be given back. -/
theorem Leads.release {monitor : Monitor region} {live rest : List (Guard region)}
    {guard : Guard region} (next? : Option Role) (mine : live.Perm (guard :: rest)) :
    Leads ⟨monitor, live⟩ ⟨(Session.releaseGuard guard next?).after monitor, rest⟩ := by
  have member : guard ∈ live := mine.mem_iff.mpr List.mem_cons_self
  have leads : Leads ⟨monitor, live⟩ _ := Leads.refl.step (.release guard next?)
  rw [step_release member] at leads
  rw [Session.after_releaseGuard]
  refine leads.reorder ?_
  have erased := mine.erase guard
  rwa [List.erase_cons_head] at erased

/-- A locking operation that does not wait leaves its guards alive. -/
theorem Leads.acquire {monitor last : Monitor region} {live : List (Guard region)}
    {call : Acquisition} {acquired : Acquired region}
    (ended : call.perform monitor = .ok acquired last) :
    Leads ⟨monitor, live⟩ ⟨last, live ++ acquired.toList⟩ := by
  have leads : Leads ⟨monitor, live⟩ _ := Leads.refl.step (.acquire call)
  simpa [Custody.step, Operation.guard?, Operation.perform, ended, Operation.remaining,
    Operation.returned?, Outcome.guards] using leads

/-- A locking operation that faults leaves no guard. -/
theorem Leads.acquireFault {monitor last : Monitor region} {live : List (Guard region)}
    {call : Acquisition} {cause : Fault}
    (ended : call.perform monitor = .error (.fault cause) last) :
    Leads ⟨monitor, live⟩ ⟨last, live⟩ := by
  have leads : Leads ⟨monitor, live⟩ _ := Leads.refl.step (.acquire call)
  simpa [Custody.step, Operation.guard?, Operation.perform, ended, Operation.remaining,
    Operation.returned?] using leads

end Custody

namespace Session

variable {session : Session region}

/-- The custody that a session stands for, with guards besides those that have names. -/
def custody (session : Session region) (unnamed : List (Guard region)) : Custody region :=
  ⟨session.monitor, session.held.map (·.2) ++ unnamed⟩

/-- No two guards go by the same name. -/
def Named (session : Session region) : Prop := (session.held.map (·.1)).Nodup

/-- An action leaves its monitor to the session, and all guards under their names. -/
theorem run_snd {α : Type} (action : Act region α) :
    (session.run action).2 = ⟨action.after session.monitor, session.held⟩ := by
  simp only [run, Act.after]
  cases action session.monitor <;> rfl

theorem answer_snd {α : Type} (action : Act region α) (reply : α → Reply region) :
    (session.answer action reply).2 = ⟨action.after session.monitor, session.held⟩ := by
  simp only [answer, run, Act.after]
  cases action session.monitor <;> rfl

/-- A name that no guard goes by is forgotten without an effect. -/
theorem filter_fresh {name : String} {held : List (String × Guard region)}
    (fresh : name ∉ held.map (·.1)) : held.filter (·.1 != name) = held := by
  refine List.filter_eq_self.mpr fun entry member => ?_
  have differs : entry.1 ≠ name := by
    rintro rfl
    exact fresh (List.mem_map.mpr ⟨entry, member, rfl⟩)
  simpa using differs

/-- The guards of a session are the one under a name, if there is one, and those that are left when
the name is forgotten. -/
theorem perm_forget (named : session.Named) (name : String) :
    (session.held.map (·.2)).Perm
      ((session.guard? name).toList ++ (session.forget name).held.map (·.2)) := by
  obtain ⟨monitor, held⟩ := session
  change (held.map (·.2)).Perm
    ((held.lookup name).toList ++ (held.filter (·.1 != name)).map (·.2))
  change (held.map (·.1)).Nodup at named
  induction held with
  | nil => rfl
  | cons entry rest inductionHypothesis =>
    obtain ⟨other, guard⟩ := entry
    obtain ⟨fresh, restNamed⟩ := List.nodup_cons.mp named
    by_cases same : name = other
    · subst same
      have kept : rest.filter (·.1 != name) = rest := filter_fresh fresh
      simp [kept]
    · have different : (name == other) = false := by simpa using same
      have stays : (other != name) = true := by simpa using Ne.symm same
      simp only [List.lookup_cons, different, List.filter_cons, stays, if_true, List.map_cons]
      exact ((inductionHypothesis restNamed).cons guard).trans List.perm_middle.symm

theorem insertNamed_perm (name : String) (guard : Guard region)
    (held : List (String × Guard region)) :
    (insertNamed name guard held).Perm ((name, guard) :: held) := by
  induction held with
  | nil => rfl
  | cons entry rest inductionHypothesis =>
    rw [insertNamed]
    split
    · rfl
    · exact (inductionHypothesis.cons entry).trans (.swap _ _ _)

theorem held_releaseEach (guards : List (Guard region)) (session : Session region) :
    (session.releaseEach guards).2.held = session.held := by
  induction guards generalizing session with
  | nil => rfl
  | cons guard rest inductionHypothesis =>
    change ((session.run guard.release).2.releaseEach rest).2.held = session.held
    rw [inductionHypothesis, run_snd]

/-- Guards without a name are released one by one. -/
theorem leads_releaseEach (guards unnamed : List (Guard region)) (session : Session region) :
    (session.custody (guards ++ unnamed)).Leads
      ((session.releaseEach guards).2.custody unnamed) := by
  induction guards generalizing session with
  | nil => exact .refl
  | cons guard rest inductionHypothesis =>
    change Custody.Leads _ (((session.run guard.release).2.releaseEach rest).2.custody unnamed)
    refine .trans ?_ (inductionHypothesis _)
    rw [run_snd]
    exact .release none List.perm_middle

/-- A name that is forgotten and given again is given to one guard. -/
theorem named_keep (named : session.Named) (name : String) (guard : Guard region) :
    (session.keep name guard).2.Named := by
  unfold Named keep
  rw [held_releaseEach]
  have names := (insertNamed_perm name guard (session.forget name).held).map (·.1)
  refine names.nodup_iff.mpr (List.nodup_cons.mpr ⟨?_, ?_⟩)
  · simp [forget]
  · exact named.sublist (List.filter_sublist.map _)

/-- A guard that is kept under a name takes the place of the one that went by this name. -/
theorem leads_keep (named : session.Named) (name : String) (guard : Guard region)
    (unnamed : List (Guard region)) :
    (session.custody (guard :: unnamed)).Leads ((session.keep name guard).2.custody unnamed) := by
  have released := leads_releaseEach (session.guard? name).toList unnamed
    ⟨session.monitor, insertNamed name guard (session.forget name).held⟩
  refine .trans (.reorder .refl ?_) released
  have forgotten := perm_forget named name
  have inserted := (insertNamed_perm name guard (session.forget name).held).map (·.2)
  rw [List.perm_iff_count] at forgotten inserted ⊢
  intro other
  have forgotten := forgotten other
  have inserted := inserted other
  simp only [List.map_cons, List.count_cons, List.count_append] at forgotten inserted ⊢
  omega

/-- Guards are kept under names as long as there are names, and the others are released. -/
theorem leads_distribute (named : session.Named) (names : List String)
    (guards : List (Guard region)) :
    (session.custody guards).Leads ((session.distribute names guards).2.custody []) ∧
      (session.distribute names guards).2.Named := by
  induction names generalizing session guards with
  | nil =>
    have released := leads_releaseEach guards [] session
    rw [List.append_nil] at released
    refine ⟨released, ?_⟩
    unfold Named distribute
    rw [held_releaseEach]
    exact named
  | cons name names inductionHypothesis =>
    cases guards with
    | nil => exact ⟨.refl, named⟩
    | cons guard rest =>
      obtain ⟨leads, restNamed⟩ := inductionHypothesis (named_keep named name guard) rest
      exact ⟨.trans (leads_keep named name guard rest) leads, restNamed⟩

/-- A locking operation that does not wait is carried out, and its guards are handed out. -/
theorem leads_acquire (named : session.Named) {call : Acquisition}
    (proceeds : ∀ target last, call.perform session.monitor ≠ .error (.waiting target) last)
    (names : List String) :
    (session.custody []).Leads ((session.acquire call names).2.custody []) ∧
      (session.acquire call names).2.Named := by
  cases ended : call.perform session.monitor with
  | error halt last =>
    cases halt with
    | waiting target => exact absurd ended (proceeds target last)
    | fault cause =>
      have after : (session.acquire call names).2 = ⟨last, session.held⟩ := by
        simp [acquire, run, ended]
      rw [after]
      exact ⟨.acquireFault ended, named⟩
  | ok acquired last =>
    have leads : (session.custody []).Leads
        (custody ⟨last, session.held⟩ acquired.toList) := by
      have leads : (session.custody []).Leads ⟨last, _⟩ := .acquire ended
      rwa [List.append_nil] at leads
    cases acquired with
    | granted guards =>
      have after : (session.acquire call names).2 =
          (distribute ⟨last, session.held⟩ names guards).2 := by
        simp [acquire, run, ended]
      have named : Named ⟨last, session.held⟩ := named
      obtain ⟨distributed, lastNamed⟩ := leads_distribute named names guards
      rw [after]
      exact ⟨leads.trans distributed, lastNamed⟩
    | nothing =>
      have after : (session.acquire call names).2 = ⟨last, session.held⟩ := by
        simp [acquire, run, ended]
      rw [after]
      exact ⟨leads, named⟩
    | refused reason =>
      have after : (session.acquire call names).2 = ⟨last, session.held⟩ := by
        simp [acquire, run, ended]
      rw [after]
      exact ⟨leads, named⟩

/-- If a caller has no lock that an operation needs, the operation does not wait. -/
theorem proceeds_of_spared (sound : (session.custody []).Sound) {call : Acquisition}
    (spared : ∀ entry ∈ session.held, ¬ call.Needs entry.2.target) (target : Target region)
    (last : Monitor region) : call.perform session.monitor ≠ .error (.waiting target) last := by
  intro waits
  obtain ⟨mine, needed⟩ := sound.waiting_for waits
  simp only [custody, List.append_nil, List.mem_map] at mine
  obtain ⟨entry, member, same⟩ := mine
  apply spared entry member
  rwa [same]

/-- A caller who is not blocked has no lock that the operation needs, apart from the one under the
name that he is about to give back. -/
theorem spared_of_blocker? {call : Acquisition} {leaving? : Option String}
    (free : session.blocker? call leaving? = none) {entry : String × Guard region}
    (member : entry ∈ session.held) (stays : some entry.1 ≠ leaving?) :
    ¬ call.Needs entry.2.target := by
  rintro ⟨targets, found, needed⟩
  simp only [blocker?, found, Option.getD_some, List.find?_eq_none] at free
  have spared := free entry.2.target needed
  simp only [List.contains_eq_mem, decide_eq_true_eq, List.mem_map, List.mem_filter] at spared
  exact spared ⟨entry, ⟨member, by simpa using stays⟩, rfl⟩

/-- An operation that has nothing to do with locks, or uses a guard of the session. -/
theorem leads_reply {α : Type} {action : Act region α} {reply : α → Reply region}
    {change : Store region → Store region} (operation : Operation region)
    (turns : action.Turns change)
    (alive : operation.guard?.all (session.custody []).live.contains)
    (remains : operation.remaining (session.custody []).live = (session.custody []).live)
    (performs : operation.perform = action >>= fun value => pure (.replied (reply value))) :
    (session.custody []).Leads (custody ⟨action.after session.monitor, session.held⟩ []) := by
  obtain ⟨outcome, ended⟩ := Custody.step_of_turns turns alive performs
  have leads : (session.custody []).Leads _ := Custody.Leads.refl.step operation
  rw [ended, remains] at leads
  exact leads

/-- References are counted one by one until one cannot be counted. -/
theorem leads_countTimes {call : CountCall} {place : Place} {target : Target region}
    (leads : place.target region = .ok target) (times : Nat) (session : Session region) :
    (session.custody []).Leads
      (custody ⟨(countTimes target call times).after session.monitor, session.held⟩ []) := by
  induction times generalizing session with
  | zero => exact .refl
  | succ times inductionHypothesis =>
    have counted : (session.custody []).Leads
        (custody ⟨(call.perform place).after session.monitor, session.held⟩ []) :=
      leads_reply (.count call place) (call.turns_perform leads) rfl rfl rfl
    rw [call.perform_eq leads, Act.after] at counted
    rw [countTimes, Act.after_bind]
    cases ended : countOnce target call session.monitor with
    | error halt middle =>
      rw [ended] at counted
      exact counted
    | ok _ middle =>
      rw [ended] at counted
      exact counted.trans (inductionHypothesis ⟨middle, session.held⟩)

/-- Forgetting a name and giving its guard back is a release. -/
theorem leads_forget_release (named : session.Named) {name : String} {guard : Guard region}
    (known : session.guard? name = some guard) (next? : Option Role) :
    (session.custody []).Leads
      (custody ⟨(releaseGuard guard next?).after session.monitor, (session.forget name).held⟩
        []) := by
  refine .release next? ?_
  have forgotten := perm_forget named name
  rw [known] at forgotten
  rw [List.append_nil, List.append_nil]
  exact forgotten

theorem named_forget (named : session.Named) (name : String) : (session.forget name).Named :=
  named.sublist (List.filter_sublist.map _)

/-- What is answered to an operation that has nothing to do with locks leaves the names alone. -/
theorem leads_answer (named : session.Named) {α : Type} {action : Act region α}
    {reply : α → Reply region} (operation : Operation region) (lockless : action.Lockless)
    (guardless : operation.guard? = none)
    (remains : operation.remaining (session.custody []).live = (session.custody []).live)
    {other : α → Reply region}
    (performs : operation.perform = action >>= fun value => pure (.replied (other value))) :
    (session.custody []).Leads ((session.answer action reply).2.custody []) ∧
      (session.answer action reply).2.Named := by
  rw [answer_snd]
  have alive : operation.guard?.all (session.custody []).live.contains := by
    rw [guardless]
    rfl
  exact ⟨leads_reply operation lockless alive remains performs, named⟩

/-- What is only looked up changes nothing. -/
theorem answer_ofExcept {α : Type} (found : Except Fault α) (reply : α → Reply region) :
    (session.answer (Act.ofExcept found) reply).2 = session := by
  rw [answer_snd]
  cases found <;> rfl

/-- A guard with a name is alive. -/
theorem mem_custody {name : String} {guard : Guard region} (named : session.Named)
    (known : session.guard? name = some guard) : guard ∈ (session.custody []).live := by
  have forgotten := perm_forget named name
  rw [known] at forgotten
  rw [custody, List.append_nil]
  exact forgotten.mem_iff.mpr List.mem_cons_self

/-- A caller who gives a guard back to let another one have its lock. -/
theorem leads_contend (named : session.Named) (sound : (session.custody []).Sound) (name : String)
    (next? : Option Role) (waiter : Acquisition) :
    (session.custody []).Leads ((session.step (.contend name next? waiter)).2.custody []) ∧
      (session.step (.contend name next? waiter)).2.Named := by
  cases known : session.guard? name with
  | none =>
    simp only [Session.step, known]
    exact ⟨.refl, named⟩
  | some guard =>
    cases free : session.blocker? waiter (some name) with
    | some target =>
      simp only [Session.step, known, free]
      exact ⟨.refl, named⟩
    | none =>
      simp only [Session.step, known, free, run_snd]
      have released := leads_forget_release named known next?
      have spared : ∀ entry ∈ (session.forget name).held, ¬ waiter.Needs entry.2.target := by
        intro entry member
        obtain ⟨mine, differs⟩ := List.mem_filter.mp member
        exact spared_of_blocker? free mine (by simpa using differs)
      have restNamed : Named ⟨(releaseGuard guard next?).after session.monitor,
          (session.forget name).held⟩ := named_forget named name
      obtain ⟨acquired, lastNamed⟩ :=
        leads_acquire restNamed (proceeds_of_spared (released.sound sound) spared) []
      exact ⟨released.trans acquired, lastNamed⟩

/-- Everything that a step of a session does comes of operations. -/
theorem leads_step (named : session.Named) (sound : (session.custody []).Sound) (step : Step) :
    (session.custody []).Leads ((session.step step).2.custody []) ∧
      (session.step step).2.Named := by
  cases step with
  | acquire call names =>
    cases free : session.blocker? call none with
    | some target =>
      simp only [Session.step, free]
      exact ⟨.refl, named⟩
    | none =>
      simp only [Session.step, free]
      refine leads_acquire named (proceeds_of_spared sound ?_) names
      exact fun entry member => spared_of_blocker? free member (by simp)
  | contend name next? waiter => exact leads_contend named sound name next? waiter
  | useGuard name call =>
    cases known : session.guard? name with
    | none =>
      simp only [Session.step, known]
      exact ⟨.refl, named⟩
    | some guard =>
      have mine := mem_custody named known
      simp only [Session.step, known, useGuard, answer_snd]
      refine ⟨leads_reply (.useGuard guard call) (call.turns_perform guard) ?_ rfl rfl, named⟩
      simpa [Operation.guard?] using mine
  | release name next? =>
    cases known : session.guard? name with
    | none =>
      simp only [Session.step, known]
      exact ⟨.refl, named⟩
    | some guard =>
      simp only [Session.step, known, answer_snd]
      exact ⟨leads_forget_release named known next?, named_forget named name⟩
  | count call place times =>
    simp only [Session.step, answer_snd]
    refine ⟨?_, named⟩
    cases leads : place.target region with
    | error cause => exact .refl
    | ok target => exact leads_countTimes leads times session
  | references place =>
    exact leads_answer named (.references place) place.lockless_references rfl rfl rfl
  | fill addr value =>
    exact leads_answer named (.fill addr value) (Act.lockless_fill addr value) rfl rfl rfl
  | isZeroed addr =>
    exact leads_answer named (.isZeroed addr) (Act.lockless_isZeroed addr) rfl rfl rfl
  | selectCpu cpu =>
    exact leads_answer named (.selectCpu cpu) (Act.lockless_selectCpu cpu) rfl rfl rfl
  | mapWindow slot addr =>
    exact leads_answer named (.mapWindow slot addr) (Act.lockless_mapWindow addr slot) rfl rfl rfl
  | unmapWindow slot window =>
    exact leads_answer named (.unmapWindow slot window) (Act.lockless_unmapWindow window slot) rfl
      rfl rfl
  | read | entryAt | detachedAddress | isMapped =>
    simp only [Session.step, answer_ofExcept]
    exact ⟨.refl, named⟩
  | bounds | entries skip take | index addr | find addr | memoryInfo | currentCpu =>
    exact ⟨.refl, named⟩

/-- A session whose names are distinct, and in which a descriptor is locked exactly while its guard
is kept. -/
structure Sound (session : Session region) : Prop where
  named : session.Named
  custody : (session.custody []).Sound

namespace Sound

/-- A session on a new table. -/
theorem start (memory : Memory) : (Session.start (Monitor.create region memory)).Sound where
  named := List.nodup_nil
  custody := Custody.Sound.start memory

/-- Each step keeps locks and guards together. -/
theorem step (sound : session.Sound) (step : Step) : (session.step step).2.Sound := by
  obtain ⟨leads, named⟩ := leads_step sound.named sound.custody step
  exact ⟨named, leads.sound sound.custody⟩

/-- The log has nothing to do with it. -/
theorem clearLog (sound : session.Sound) : session.clearLog.Sound :=
  ⟨sound.named, sound.custody.of_locked_eq fun _ => rfl⟩

/-- All steps keep locks and guards together. -/
theorem play (steps : List Step) (sound : session.Sound) : (session.play steps).2.Sound := by
  induction steps generalizing session with
  | nil => exact sound
  | cons first rest inductionHypothesis => exact inductionHypothesis (sound.clearLog.step first)

end Sound

/-- All guards are given back one after the other, whatever is reported of them. -/
theorem leads_foldl {α : Type}
    {giveBack : α × Session region → String × Guard region → α × Session region}
    (gives : ∀ reported entry, (giveBack reported entry).2 =
      ((reported.2.forget entry.1).run entry.2.release).2)
    (entries : List (String × Guard region)) (reported : α × Session region)
    (all : reported.2.held = entries) (named : reported.2.Named) :
    (reported.2.custody []).Leads ((entries.foldl giveBack reported).2.custody []) ∧
      (entries.foldl giveBack reported).2.held = [] := by
  induction entries generalizing reported with
  | nil => exact ⟨.refl, all⟩
  | cons entry rest inductionHypothesis =>
    unfold Named at named
    rw [all] at named
    obtain ⟨fresh, restNamed⟩ := List.nodup_cons.mp named
    have gone : (giveBack reported entry).2 =
        ⟨entry.2.release.after reported.2.monitor, rest⟩ := by
      simp [gives, run_snd, forget, all, filter_fresh fresh]
    have released : (reported.2.custody []).Leads ((giveBack reported entry).2.custody []) := by
      rw [gone, custody, all]
      exact .release none (.refl _)
    obtain ⟨leads, left⟩ := inductionHypothesis (giveBack reported entry) (by rw [gone])
      (by rwa [gone])
    exact ⟨released.trans leads, left⟩

/-- When the guards that are left are released one by one, none is left. -/
theorem leads_finish (named : session.Named) :
    (session.custody []).Leads (session.finish.2.custody []) ∧ session.finish.2.held = [] := by
  unfold finish
  refine leads_foldl ?_ session.held ([], session) rfl named
  exact fun _ _ => rfl

/-- A descriptor is locked exactly while a session keeps its guard under some name, whatever steps
it was made of and whatever faults they met. At the end, everything is unlocked. -/
theorem locked_while_held (memory : Memory) (steps : List Step) :
    let session := ((Session.start (Monitor.create region memory)).play steps).2
    (∀ target, (session.monitor.store.get target).locked = true ↔
      ∃ name, (name, ⟨target⟩) ∈ session.held) ∧
      ∀ target, (session.finish.2.monitor.store.get target).locked = false := by
  intro session
  have sound : session.Sound := (Sound.start memory).play steps
  obtain ⟨leads, gone⟩ := leads_finish sound.named
  refine ⟨fun target => ?_, (leads.sound sound.custody).unlocked_of_nil ?_⟩
  · refine (sound.custody.locked_iff target).trans ?_
    simp [custody]
  · simp [custody, gone]

end Session

end GranuleMonitor
