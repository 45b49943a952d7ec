import HomeRules.Proofs.Host.Course

/-!
# Duties are done when they are due

The task of a list that is put off is about to begin, or sleeps until the list is due, or has
been woken and goes on at once. Nothing that happens beside it changes this as long as the task
is tracked, so a ledger is right about all that it promises.
-/

set_option autoImplicit false

namespace HomeRules.Host

/-- Where the task of a duty stands that has come so far. -/
inductive Duty.Placed (duty : Duty) (roster : Roster) (delay : Duration) : Progress → Prop where
  | fresh (due : duty.due = resumeTime roster.clock delay)
      (awake : roster.awake.count duty.id = 1) (asleep : roster.dues duty.id = []) :
      Placed duty roster delay .fresh
  | asleep (rounds : Nat) (early : roster.clock < duty.due)
      (awake : roster.awake.count duty.id = 0) (asleep : roster.dues duty.id = [duty.due]) :
      Placed duty roster delay (.waiting duty.due rounds)
  | woken (rounds : Nat) (now : roster.clock = duty.due)
      (awake : roster.awake.count duty.id = 1) (asleep : roster.dues duty.id = []) :
      Placed duty roster delay (.waiting duty.due rounds)

/-- The task of a duty, if it is tracked, is going to run its list when it is due. -/
def Duty.Waits (occasion : Occasion) (duty : Duty) (roster : Roster) : Prop :=
  ∀ task ∈ roster.supervisor.tasks, task.id = duty.id →
    task.generation = occasion.generation ∧ task.owner = occasion.owner ∧
    ∃ delay, task.work = .delayed delay duty.actions occasion.payload ∧
      duty.Placed roster delay task.progress

/-- A ledger is right about a moment: its duties are waited for, and what was called is past. -/
structure Ledger.Sound (occasion : Occasion) (ledger : Ledger) (moment : Moment) : Prop where
  seated : moment.Seated
  generation : moment.host.generation = occasion.generation
  distinct : (ledger.duties.map (·.id)).Nodup
  issued : ∀ duty ∈ ledger.duties, duty.id < moment.host.supervisor.nextId
  idle : ∀ duty ∈ ledger.duties, moment.turn ≠ some duty.id
  waits : ∀ duty ∈ ledger.duties, duty.Waits occasion moment.host.roster
  past : ∀ call ∈ ledger.calls, call.1 ≤ moment.host.clock

/-! ## Beside the duties -/

theorem Duty.Waits.untouched {occasion : Occasion} {duty : Duty} {spared : TaskId → Prop}
    {roster next : Roster} (waits : duty.Waits occasion roster)
    (untouched : roster.Untouched spared next) (own : spared duty.id) :
    duty.Waits occasion next := by
  intro task tracked same
  obtain ⟨generation, owner, delay, work, placed⟩ :=
    waits task (untouched.tracked task tracked (same ▸ own)) same
  refine ⟨generation, owner, delay, work, ?_⟩
  have awake := untouched.awake duty.id own
  have asleep := untouched.asleep duty.id own
  generalize task.progress = progress at placed
  cases placed with
  | fresh due count none =>
      exact .fresh (untouched.clock ▸ due) (awake.trans count) (asleep.trans none)
  | asleep rounds early count only =>
      exact .asleep rounds (untouched.clock ▸ early) (awake.trans count) (asleep.trans only)
  | woken rounds now count none =>
      exact .woken rounds (untouched.clock.trans now) (awake.trans count) (asleep.trans none)

namespace Ledger.Sound

variable {occasion : Occasion} {ledger : Ledger} {licence : Licence} {start : Moment}
  {inside : List GateId} {turn : Option TaskId} {host : Host}

theorem untouched {moment : Moment} (sound : ledger.Sound occasion start)
    (untouched : start.host.roster.Untouched (∃ duty ∈ ledger.duties, duty.id = ·)
      moment.host.roster)
    (onward : start.host.roster.Onward moment.host.roster) (seated : moment.Seated)
    (idle : ∀ duty ∈ ledger.duties, moment.turn ≠ some duty.id) :
    ledger.Sound occasion moment where
  seated := seated
  generation := untouched.generation.trans sound.generation
  distinct := sound.distinct
  issued duty member := Nat.lt_of_lt_of_le (sound.issued duty member) onward.issued
  idle := idle
  waits duty member := (sound.waits duty member).untouched untouched ⟨duty, member, rfl⟩
  past call member := Nat.le_trans (sound.past call member) onward.clock

/-- What happens while no task of a duty has control leaves the ledger right. -/
theorem acts (sound : ledger.Sound occasion start) (path : Acting licence start inside turn host)
    (still : ¬licence.cycles) (idle : ∀ duty ∈ ledger.duties, ¬licence.task duty.id) :
    ledger.Sound occasion ⟨inside, turn, host⟩ := by
  obtain ⟨untouched, control⟩ : start.host.roster.Untouched (∃ duty ∈ ledger.duties, duty.id = ·)
      host.roster ∧ ∀ id, turn = some id → ¬∃ duty ∈ ledger.duties, duty.id = id := by
    refine path.untouched still ?_ ?_ ?_
    · rintro _ ⟨duty, member, rfl⟩
      exact idle duty member
    · rintro _ control ⟨duty, member, rfl⟩
      exact sound.idle duty member control
    · rintro _ ⟨duty, member, rfl⟩
      exact sound.issued duty member
  exact sound.untouched untouched path.onward (path.seated sound.seated)
    fun duty member same => control _ same ⟨duty, member, rfl⟩

theorem without {moment : Moment} (sound : ledger.Sound occasion moment) (id : TaskId) :
    (ledger.without id).Sound occasion moment where
  seated := sound.seated
  generation := sound.generation
  distinct := sound.distinct.sublist (List.filter_sublist.map _)
  issued duty member := sound.issued duty (List.mem_of_mem_filter member)
  idle duty member := sound.idle duty (List.mem_of_mem_filter member)
  waits duty member := sound.waits duty (List.mem_of_mem_filter member)
  past := sound.past

end Ledger.Sound

/-! ## Visiting leaves -/

private theorem handOver_roster {occasion : Occasion} {host : Host}
    (current : host.generation = occasion.generation) (name : String) (work : Work) :
    (after (handOver occasion name work) host).roster = { host.roster with
      supervisor := (host.supervisor.add name occasion.generation occasion.owner work).1
      awake := host.agenda.awake ++ [host.supervisor.nextId] } := by
  have same : after (handOver occasion name work) host =
      after (spawn name occasion.generation occasion.owner work) host := by
    rw [handOver, after_bind]
    cases answer (spawn name occasion.generation occasion.owner work) host <;> rfl
  rw [same, spawn_roster current]

private theorem handOver_waits {occasion : Occasion} {host : Host}
    (seated : host.roster.Seated) (current : host.generation = occasion.generation)
    (name : String) (delay : Duration) (actions : List Action) :
    Duty.Waits occasion ⟨host.supervisor.nextId, resumeTime host.clock delay, actions⟩
      (after (handOver occasion name (.delayed delay actions occasion.payload)) host).roster := by
  rw [handOver_roster current]
  intro task tracked same
  rcases List.mem_append.mp tracked with old | new
  · have below := seated.tracked task (List.mem_of_mem_filter old)
    exact absurd same (Nat.ne_of_lt below)
  rw [List.mem_singleton.mp new]
  refine ⟨current ▸ rfl, rfl, delay, rfl, .fresh rfl ?_ ?_⟩
  · have absent : host.supervisor.nextId ∉ host.agenda.awake := fun placed =>
      Nat.lt_irrefl _ (seated.placed _ (List.mem_append_left _ placed))
    simp [List.count_eq_zero_of_not_mem absent]
  · have absent : ∀ entry ∈ host.agenda.asleep, entry.2 ≠ host.supervisor.nextId := by
      rintro entry member same
      have placed := seated.placed entry.2
        (List.mem_append_right _ (List.mem_map_of_mem (f := Prod.snd) member))
      exact Nat.lt_irrefl _ (same ▸ placed)
    simpa [Roster.dues, roster, List.filter_eq_nil_iff] using absent

section Visiting

variable {publish : Publisher} {occasion : Occasion}
  (served : ∀ {start inside turn} (event : Event),
    RunKeeps (Acting .outside start inside turn) (publish event))
  {inside : List GateId} {turn : Option TaskId}
include served

private theorem visit_acts (leaf : Action) (host : Host) :
    Acting .outside ⟨inside, turn, host⟩ inside turn (after (visit publish occasion leaf) host) :=
  visit_keeps (execute_acts served occasion leaf {}) host .refl

private theorem visit_clock (leaf : Action) (host : Host) :
    (after (visit publish occasion leaf) host).clock = host.clock := by
  have path : Acting .outside ⟨[], none, host⟩ [] none
      (after (visit publish occasion leaf) host) := visit_acts served leaf host
  have untouched : host.roster.Untouched (fun _ => False) _ :=
    (path.untouched id nofun nofun nofun).1
  exact untouched.clock

private theorem account_sound {ledger : Ledger} {host : Host}
    (sound : ledger.Sound occasion ⟨inside, turn, host⟩) {leaf : Action} (prompt : leaf.Prompt) :
    (ledger.enter host leaf).Sound occasion
      ⟨inside, turn, after (visit publish occasion leaf) host⟩ := by
  have path : Acting .outside ⟨inside, turn, host⟩ inside turn
      (after (visit publish occasion leaf) host) := visit_acts served leaf host
  have later := sound.acts path id fun _ _ => id
  cases prompt with
  | call name commands =>
      refine { later with past := fun call member => ?_ }
      rcases List.mem_append.mp member with before | now
      · exact later.past call before
      · rw [List.mem_singleton.mp now]
        exact Nat.le_of_eq (visit_clock served _ host).symm
  | after delay actions =>
      have waits := handOver_waits sound.seated.roster sound.generation
        (Action.after delay actions).name delay actions
      constructor
      case seated => exact later.seated
      case generation => exact later.generation
      case distinct =>
        rw [Ledger.enter, List.map_append, List.nodup_append]
        refine ⟨sound.distinct, by simp, ?_⟩
        intro id old other new
        obtain ⟨duty, member, rfl⟩ := List.mem_map.mp old
        rw [List.mem_singleton.mp new]
        exact Nat.ne_of_lt (sound.issued duty member)
      case past => exact later.past
      all_goals
        intro duty member
        rcases List.mem_append.mp member with old | new
      case issued.inl => exact later.issued duty old
      case issued.inr =>
        rw [List.mem_singleton.mp new, visit]
        have issued := congrArg (·.supervisor.nextId) (handOver_roster sound.generation
          (Action.after delay actions).name (.delayed delay actions occasion.payload))
        exact issued ▸ Nat.lt_succ_self _
      case idle.inl => exact later.idle duty old
      case idle.inr =>
        rw [List.mem_singleton.mp new]
        exact fun control => Nat.lt_irrefl _ (sound.seated.control _ control)
      case waits.inl => exact later.waits duty old
      case waits.inr =>
        rw [List.mem_singleton.mp new]
        exact waits

theorem recount_sound {leaves : List Action} (prompt : ∀ leaf ∈ leaves, leaf.Prompt)
    {ledger : Ledger} {host : Host} (sound : ledger.Sound occasion ⟨inside, turn, host⟩) :
    (answer (recount publish occasion ledger leaves) host).Sound occasion
        ⟨inside, turn, after (recount publish occasion ledger leaves) host⟩ ∧
      (answer (recount publish occasion ledger leaves) host).entries.Perm
        (ledger.entries ++ (Action.mentionsOf leaves).map (·.timed host.clock)) := by
  induction leaves generalizing ledger host with
  | nil => exact ⟨sound, by simp [recount, Action.mentionsOf]⟩
  | cons leaf rest previous =>
      have now : leaf.Prompt := prompt leaf List.mem_cons_self
      obtain ⟨later, told⟩ := previous
        (fun leaf member => prompt leaf (List.mem_cons_of_mem _ member))
        (account_sound served sound now)
      rw [visit_clock served] at told
      refine ⟨later, told.trans ?_⟩
      rw [Action.mentionsOf, List.map_append, ← List.append_assoc]
      exact (ledger.entries_enter host now).append_right _

/-- The leaves that are called at once are called in their order. -/
theorem recount_calls {leaves : List Action} (prompt : ∀ leaf ∈ leaves, leaf.Prompt)
    (ledger : Ledger) (host : Host) :
    (answer (recount publish occasion ledger leaves) host).calls = ledger.calls ++
      ((Action.mentionsOf leaves).filter (·.sleeps.isEmpty)).map (·.timed host.clock) := by
  induction leaves generalizing ledger host with
  | nil => simp [recount, Action.mentionsOf]
  | cons leaf rest previous =>
      have later := previous (fun leaf member => prompt leaf (List.mem_cons_of_mem _ member))
        (ledger.enter host leaf) (after (visit publish occasion leaf) host)
      rw [visit_clock served] at later
      refine later.trans ?_
      rw [Action.mentionsOf, List.filter_append, List.map_append, ← List.append_assoc]
      congr 1
      cases prompt leaf List.mem_cons_self with
      | call name commands => rfl
      | after delay actions =>
          have slept : ((Action.mentionsOf actions).map (Mention.after delay)).filter
              (·.sleeps.isEmpty) = [] := by
            rw [List.filter_eq_nil_iff]
            intro mention member
            obtain ⟨later, -, rfl⟩ := List.mem_map.mp member
            exact Bool.false_ne_true
          rw [Action.mentions, slept, List.map_nil, List.append_nil, Ledger.enter]

end Visiting

theorem after_recount (publish : Publisher) (occasion : Occasion) (ledger : Ledger)
    (leaves : List Action) (host : Host) :
    after (recount publish occasion ledger leaves) host =
      after (leaves.mapM (visit publish occasion)) host := by
  induction leaves generalizing ledger host with
  | nil => rfl
  | cons leaf rest previous =>
      rw [List.mapM_cons]
      simp only [after_bind, after_pure]
      exact previous (ledger.enter host leaf) _

/-! ## Turns of duties -/

/-- A task that is to run a list now. -/
structure Duty.Reached (occasion : Occasion) (duty : Duty) (host : Host) (task : Task) : Prop where
  tracked : host.supervisor.task? duty.id = some task
  named : task.id = duty.id
  generation : task.generation = occasion.generation
  owner : task.owner = occasion.owner
  begun : ∃ delay, task.work = .delayed delay duty.actions occasion.payload ∧
    (task.progress = .fresh ∧ delay.isZero ∨ ∃ rounds, task.progress = .waiting duty.due rounds)

/-- The task of a duty runs its list when it is due. -/
theorem runTask_reached {occasion : Occasion} {duty : Duty} {host : Host} {task : Task}
    (reached : duty.Reached occasion host task) (current : host.generation = occasion.generation)
    (prompt : ∀ leaf ∈ Action.leavesOf duty.actions, leaf.Prompt) (ledger : Ledger) :
    after (runTask duty.id) host = after (do
      mark (.resumed occasion.generation duty.id)
      let _ ← recount Host.publish occasion ledger (Action.leavesOf duty.actions)
      progress duty.id .ended) host := by
  obtain ⟨delay, work, begun⟩ := reached.begun
  let marked := after (mark (.resumed occasion.generation duty.id)) host
  have finished : after (finishDelayed task duty.actions occasion.payload) marked =
      after (progress duty.id .ended)
        (after (recount Host.publish occasion ledger (Action.leavesOf duty.actions)) marked) := by
    have same : Occasion.mk task.generation task.owner occasion.payload = occasion := by
      rw [reached.generation, reached.owner]
    have now : marked.generation = occasion.generation := current
    have visited := (ran_leaves publish_reaches now.symm .refl
      (fun leaf member => (prompt leaf member).gives) {}).2
    rw [← executeAll_eq] at visited
    rw [finishDelayed, after_get_bind, if_pos (now.trans reached.generation.symm),
      after_recount, ← reached.named]
    dsimp only
    rw [same, after_bind, after_attempt, answer_attempt, ran_bind_ok visited, ran_pure]
  rw [runTask, after_get_bind, reached.tracked]
  dsimp only
  rw [reached.generation]
  rcases begun with ⟨fresh, zero⟩ | ⟨rounds, waiting⟩
  · rw [fresh]
    simp only [after_bind]
    rw [beginTask, after_get_bind, work]
    simp only [if_pos zero]
    exact finished
  · rw [waiting]
    simp only [after_bind]
    rw [continueTask, work]
    exact finished

/-! ## Taking workers off the agenda -/

theorem awake_count (agenda : Agenda) (id : TaskId) :
    agenda.awake.count id = agenda.ready.count (.task id) := by
  rw [Agenda.awake]
  induction agenda.ready with
  | nil => rfl
  | cons worker rest previous =>
      cases worker with
      | task other => simp [Worker.task?, List.count_cons, previous]
      | _ => simpa [List.filterMap_cons, Worker.task?, List.count_cons] using previous

theorem pick_untouched {spared : TaskId → Prop} {worker : Worker} (host : Host)
    (apart : ∀ id, spared id → worker ≠ .task id) :
    host.roster.Untouched spared (after (pick worker) host).roster where
  clock := rfl
  generation := rfl
  tracked _ member _ := member
  awake id own := by
    simp only [roster, awake_count]
    exact List.count_erase_of_ne (apart id own).symm
  asleep _ _ := rfl

theorem Ledger.Sound.pick {occasion : Occasion} {ledger : Ledger} {inside : List GateId}
    {host : Host} (sound : ledger.Sound occasion ⟨inside, none, host⟩) {worker : Worker}
    (apart : ∀ duty ∈ ledger.duties, worker ≠ .task duty.id) :
    ledger.Sound occasion ⟨inside, none, after (pick worker) host⟩ := by
  refine sound.untouched (pick_untouched host ?_) ⟨Nat.le_refl _, Nat.le_refl _, Nat.le_refl _⟩
    ⟨⟨sound.seated.roster.tracked, fun id placed => ?_⟩, nofun⟩ nofun
  · rintro _ ⟨duty, member, rfl⟩
    exact apart duty member
  · refine sound.seated.roster.placed id ?_
    rcases List.mem_append.mp placed with awake | asleep
    · exact List.mem_append_left _ ((List.erase_sublist.filterMap _).subset awake)
    · exact List.mem_append_right _ asleep

/-! ## Turns of workers -/

section Turns

variable {occasion : Occasion} {ledger : Ledger} {inside : List GateId} {host : Host}

private theorem Duty.Waits.reached {duty : Duty} (waits : duty.Waits occasion host.roster)
    (now : duty.due = host.clock) {task : Task}
    (tracked : host.supervisor.task? duty.id = some task) : duty.Reached occasion host task := by
  obtain ⟨present, named⟩ := Supervisor.of_task? tracked
  obtain ⟨generation, owner, delay, work, placed⟩ := waits task present named
  refine ⟨tracked, named, generation, owner, delay, work, ?_⟩
  generalize task.progress = progress at placed
  cases placed with
  | fresh due =>
      refine .inl ⟨rfl, ?_⟩
      by_contra sleeps
      rw [resumeTime, if_neg sleeps] at due
      exact Nat.ne_of_gt (lt_wakeTime sleeps) (due.symm.trans now)
  | asleep rounds => exact .inr ⟨rounds, rfl⟩
  | woken rounds => exact .inr ⟨rounds, rfl⟩

private theorem work_reached {duty : Duty} {task : Task}
    (resting : (ledger.without duty.id).Sound occasion ⟨inside, none, host⟩)
    (reached : duty.Reached occasion host task)
    (prompt : ∀ leaf ∈ Action.leavesOf duty.actions, leaf.Prompt) (budget : Nat)
    (due : ledger.due? host (.task duty.id) = some duty) :
    let work := ledger.work occasion budget (.task duty.id)
    after work host = after (runTask duty.id) host ∧
      (answer work host).Sound occasion ⟨inside, none, after (runTask duty.id) host⟩ ∧
      (answer work host).entries.Perm ((ledger.without duty.id).entries ++
        (Action.mentionsOf duty.actions).map (·.timed host.clock)) := by
  have ran := runTask_reached reached resting.generation prompt (ledger.without duty.id)
  simp only [Ledger.work, after_get_bind, answer_get_bind, due]
  refine ⟨ran.symm, ?_⟩
  rw [ran]
  simp only [answer_bind, answer_pure, after_bind]
  let licence : Licence := { Licence.outside with task := (· = duty.id) }
  have resumed : Acting licence ⟨inside, none, host⟩ inside (some duty.id)
      (after (mark (.resumed occasion.generation duty.id)) host) := by
    have tracked : task ∈ host.supervisor.tasks := List.mem_of_find?_eq_some reached.tracked
    have given : Act licence ⟨inside, none, host⟩ ⟨inside, some task.id, host⟩ :=
      .resume rfl task tracked reached.named
    rw [reached.named] at given
    exact (Relation.ReflTransGen.single given).tail (.beside rfl)
  have begun := resting.acts resumed id fun other member same =>
    absurd same (by simpa using List.of_mem_filter member)
  obtain ⟨entered, told⟩ := recount_sound (fun event => publish_acts _ event) prompt begun
  have ended (visited : Host) : Acting .outside ⟨inside, some duty.id, visited⟩ inside none
      (after (progress duty.id .ended) visited) :=
    (Relation.ReflTransGen.single (.progress rfl .ended)).tail .pause
  refine ⟨entered.acts (ended _) id fun _ _ => id, ?_⟩
  rw [← Action.mentionsOf_leavesOf]
  exact told

private theorem mem_of_due {worker : Worker} {duty : Duty}
    (found : ledger.due? host worker = some duty) :
    duty ∈ ledger.duties ∧ worker = .task duty.id ∧ duty.due = host.clock ∧
      ∃ task, host.supervisor.task? duty.id = some task := by
  refine ⟨List.mem_of_find?_eq_some found, ?_⟩
  have due := List.find?_some found
  rw [decide_eq_true_eq, Option.isSome_iff_exists] at due
  exact due

/-- A ledger is right if it is right without some duties, and about them as well. -/
private theorem Ledger.Sound.restore {moment : Moment} {id : TaskId}
    (resting : (ledger.without id).Sound occasion moment)
    (distinct : (ledger.duties.map (·.id)).Nodup)
    (own : ∀ duty ∈ ledger.duties, duty.id = id → duty.id < moment.host.supervisor.nextId ∧
      moment.turn ≠ some duty.id ∧ duty.Waits occasion moment.host.roster) :
    ledger.Sound occasion moment := by
  have other {duty : Duty} (member : duty ∈ ledger.duties) (apart : duty.id ≠ id) :
      duty ∈ (ledger.without id).duties :=
    List.mem_filter.mpr ⟨member, by simpa using apart⟩
  refine ⟨resting.seated, resting.generation, distinct, ?_, ?_, ?_, resting.past⟩
  all_goals
    intro duty member
    by_cases same : duty.id = id
  · exact (own duty member same).1
  · exact resting.issued duty (other member same)
  · exact (own duty member same).2.1
  · exact resting.idle duty (other member same)
  · exact (own duty member same).2.2
  · exact resting.waits duty (other member same)

theorem mem_progress {id : TaskId} {point : Progress} {host : Host} {task : Task}
    (tracked : task ∈ (after (progress id point) host).supervisor.tasks) (same : task.id = id) :
    ∃ old ∈ host.supervisor.tasks, old.id = id ∧ task = { old with progress := point } := by
  obtain ⟨old, present, rfl⟩ := List.mem_map.mp tracked
  have named : old.id = id := by
    split at same
    · case isTrue named => exact named
    · exact same
  exact ⟨old, present, named, if_pos named⟩

private theorem Duty.Waits.sleep {duty : Duty} {roster : Roster}
    (waits : duty.Waits occasion roster)
    (supervisor : host.supervisor = roster.supervisor) (early : host.clock < duty.due)
    (awake : host.roster.awake.count duty.id = 0) (asleep : host.roster.dues duty.id = []) :
    duty.Waits occasion (after (sleepTask duty.id duty.due 0) host).roster := by
  rw [sleepTask, after_bind]
  intro task tracked same
  obtain ⟨old, present, named, rfl⟩ := mem_progress tracked same
  obtain ⟨generation, owner, delay, work, -⟩ := waits old (supervisor ▸ present) named
  refine ⟨generation, owner, delay, work, .asleep 0 early awake ?_⟩
  have none : (after (progress duty.id (.waiting duty.due 0)) host).roster.dues duty.id = [] :=
    asleep
  rw [sleepUntil_dues, none, List.nil_append]

private theorem Duty.Waits.runTask {duty : Duty} (waits : duty.Waits occasion host.roster)
    (ready : .task duty.id ∈ host.agenda.ready)
    (undue : ∀ task, host.supervisor.task? duty.id = some task → duty.due ≠ host.clock) :
    duty.Waits occasion
      (after (runTask duty.id) (after (Host.pick (.task duty.id)) host)).roster := by
  have supervisor : (after (Host.pick (.task duty.id)) host).supervisor = host.supervisor := rfl
  rw [Host.runTask, after_get_bind, supervisor]
  cases tracked : host.supervisor.task? duty.id with
  | none =>
      intro task present same
      exact absurd same (by simpa using List.find?_eq_none.mp tracked task present)
  | some task =>
      have undue := undue task tracked
      obtain ⟨present, named⟩ := Supervisor.of_task? tracked
      obtain ⟨generation, owner, delay, work, placed⟩ := waits task present named
      dsimp only
      generalize found : task.progress = progress at placed
      cases placed with
      | fresh due awake asleep =>
          have sleeps : ¬delay.isZero := by
            intro zero
            refine undue ?_
            rw [due, resumeTime, if_pos zero]
            rfl
          rw [resumeTime, if_neg sleeps] at due
          simp only [after_bind]
          rw [beginTask, after_get_bind, work]
          simp only [if_neg sleeps, named]
          have same : wakeTime host.clock delay = duty.due := due.symm
          change duty.Waits occasion
            (after (sleepTask duty.id (wakeTime host.clock delay) 0) _).roster
          rw [same]
          refine waits.sleep rfl (due ▸ lt_wakeTime sleeps) ?_ asleep
          have once := (awake_count host.agenda duty.id).symm.trans awake
          change (Agenda.awake _).count duty.id = 0
          rw [awake_count]
          change (host.agenda.ready.erase (.task duty.id)).count (.task duty.id) = 0
          rw [List.count_erase_self, once]
      | asleep rounds early awake =>
          have present := List.count_pos_iff.mpr ready
          rw [← awake_count] at present
          exact absurd awake (Nat.ne_of_gt present)
      | woken rounds now => exact absurd now.symm undue

/-- A task that is given control while no list of its own is due leaves the ledger right. -/
private theorem runTask_sound (sound : ledger.Sound occasion ⟨inside, none, host⟩) {id : TaskId}
    (ready : .task id ∈ host.agenda.ready)
    (undue : ledger.due? (after (Host.pick (.task id)) host) (.task id) = none) :
    ledger.Sound occasion
      ⟨inside, none, after (runTask id) (after (Host.pick (.task id)) host)⟩ := by
  have resting := (sound.without id).pick fun duty member same =>
    absurd (Worker.task.inj same).symm (by simpa using List.of_mem_filter member)
  let licence : Licence := { Licence.outside with task := (· = id) }
  have path : Acting licence ⟨inside, none, after (Host.pick (.task id)) host⟩ inside none
      (after (runTask id) (after (Host.pick (.task id)) host)) := by
    have licensed : licence.task id := rfl
    exact runTask_acts licensed _ .refl
  have later := resting.acts path nofun fun duty member same =>
    absurd same (by simpa using List.of_mem_filter member)
  refine later.restore sound.distinct ?_
  rintro duty member rfl
  refine ⟨Nat.lt_of_lt_of_le (sound.issued duty member) path.onward.issued, nofun, ?_⟩
  refine (sound.waits duty member).runTask ready fun task tracked now => ?_
  refine List.find?_eq_none.mp undue duty member (decide_eq_true ⟨rfl, now, ?_⟩)
  exact Option.isSome_iff_exists.mpr ⟨task, tracked⟩

end Turns

/-! ## Turns of other workers -/

/-- Nothing happened to tasks and managers, and no time has passed. -/
structure Aside (start host : Host) : Prop where
  services : host.services = start.services
  clock : host.clock = start.clock
  awake : host.agenda.awake = start.agenda.awake
  asleep : host.agenda.asleep = start.agenda.asleep

theorem Aside.acts {licence : Licence} {start host : Host} (aside : Aside start host)
    (loops : licence.loops) (inside : List GateId) (turn : Option TaskId) :
    Acting licence ⟨inside, turn, start⟩ inside turn host :=
  .single (.loops loops aside.services aside.clock aside.awake aside.asleep)

/-- A worker that is no task begins the next generation, or it is nothing to tasks and managers. -/
theorem overtakes_recurring (start : Host) :
    Recurring fun host => start.generation < host.generation ∨ Aside start host := by
  have advanced {host next : Host} (reached : start.generation ≤ host.generation)
      (path : Acting .everything ⟨[], none, after advanceGeneration host⟩ [] none next) :
      start.generation < next.generation :=
    Nat.lt_of_lt_of_le (Nat.lt_succ_of_le reached) path.onward.generation
  have reached {host : Host} (holds : start.generation < host.generation ∨ Aside start host) :
      start.generation ≤ host.generation :=
    holds.elim Nat.le_of_lt fun aside =>
      Nat.le_of_eq (congrArg Services.generation aside.services).symm
  constructor
  case toLooping =>
    refine ⟨fun host next parts clock awake asleep holds => ?_⟩
    rcases holds with later | aside
    · exact .inl (Nat.lt_of_lt_of_eq later (congrArg (·.core.generation) parts).symm)
    · exact .inr ⟨(services_of_parts parts).trans aside.services, clock.trans aside.clock,
        awake.trans aside.awake, asleep.trans aside.asleep⟩
  case runCycle =>
    intro budget host holds
    have cycled : after (runCycle budget) host = host ∨
        Acting .everything ⟨[], none, after advanceGeneration host⟩ [] none
          (after (runCycle budget) host) :=
      runCycle_advances trivial trivial (fun _ => trivial) budget host
    rcases cycled with same | later
    · rw [same]
      exact holds
    · exact .inl (advanced (reached holds) later)
  case shutDown =>
    intro budget host holds
    have retired : Acting .outside ⟨[], none, host⟩ [] none _ :=
      (acting_looping trivial).changeLoops ReloadLoops.retire host .refl
    refine .inl (advanced (Nat.le_trans (reached holds) retired.onward.generation) ?_)
    exact shutDown_advances trivial trivial (fun _ => trivial) budget host

/-! ## Turns of workers -/

section Working

variable {occasion : Occasion} {ledger : Ledger} {inside : List GateId} {host : Host}

/-- A worker that is given control leaves the ledger right and complete, unless it begins the
next generation. What is entered is what the worker does. -/
theorem work_sound (sound : ledger.Sound occasion ⟨inside, none, host⟩)
    (calls : ∀ duty ∈ ledger.duties, Action.Calls duty.actions) (budget : Nat) {worker : Worker}
    (ready : worker ∈ host.agenda.ready) :
    let taken := after (pick worker) host
    let work := ledger.work occasion budget worker
    after work taken = after (runWorker budget worker) taken ∧
      (occasion.generation < (after (runWorker budget worker) taken).generation ∨
        (answer work taken).Sound occasion
            ⟨inside, none, after (runWorker budget worker) taken⟩ ∧
          (answer work taken).entries.Perm ledger.entries) := by
  dsimp only
  cases due : ledger.due? (after (pick worker) host) worker with
  | some duty =>
      obtain ⟨member, rfl, now, task, tracked⟩ := mem_of_due due
      have resting := (sound.without duty.id).pick fun other present same =>
        absurd (Worker.task.inj same).symm (by simpa using List.of_mem_filter present)
      have reached : duty.Reached occasion (after (pick (.task duty.id)) host) task := by
        obtain ⟨_, named, generation, owner, begun⟩ := (sound.waits duty member).reached now tracked
        exact ⟨tracked, named, generation, owner, begun⟩
      obtain ⟨same, later, told⟩ :=
        work_reached resting reached (calls duty member).prompt budget due
      refine ⟨same, .inr ⟨later, told.trans ?_⟩⟩
      rw [← now]
      exact (Ledger.entries_without sound.distinct member).symm
  | none =>
      simp only [Ledger.work, after_get_bind, answer_get_bind, due]
      refine ⟨rfl, ?_⟩
      cases kind : worker.task? with
      | some id =>
          have task : worker = .task id := by
            cases worker <;> cases kind
            rfl
          subst task
          exact .inr ⟨runTask_sound sound ready due, .refl _⟩
      | none =>
          have apart : ∀ duty ∈ ledger.duties, worker ≠ .task duty.id := by
            intro duty member same
            rw [same] at kind
            cases kind
          have turned := (overtakes_recurring (after (pick worker) host)).runWorker budget
            kind (after (pick worker) host) (.inr ⟨rfl, rfl, rfl, rfl⟩)
          rw [← sound.generation]
          refine turned.imp id fun aside => ⟨?_, .refl _⟩
          have outside : Licence.outside.loops := trivial
          exact (sound.pick apart).acts (aside.acts outside inside none) id fun _ _ => id

end Working

/-! ## The passing of time -/

/-- The times that a task waits for, read off the agenda. -/
private theorem dues_eq (host : Host) (id : TaskId) : host.roster.dues id =
    (host.agenda.sleeping.filter (·.2 = .task id)).map (·.1) := by
  rw [Roster.dues, roster, Agenda.asleep]
  induction host.agenda.sleeping with
  | nil => rfl
  | cons entry rest previous =>
      obtain ⟨due, worker⟩ := entry
      cases worker with
      | task other => by_cases same : other = id <;> simpa [Worker.task?, same] using previous
      | _ => simpa [Worker.task?] using previous

private theorem passTo_awake (time : Nat) (id : TaskId) {host : Host}
    (idle : host.agenda.ready = []) :
    (after (passTo time) host).roster.awake.count id =
      (host.agenda.sleeping.filter (·.2 = .task id)).countP (·.1 ≤ time) := by
  rw [roster, awake_count, List.countP_filter]
  simp only [passTo, after_modify, idle, List.partition_eq_filter_filter, List.nil_append]
  rw [List.count, List.countP_map, List.countP_filter]
  refine List.countP_congr fun entry _ => ?_
  simp [and_comm]

private theorem passTo_dues (time : Nat) (id : TaskId) (host : Host) :
    (after (passTo time) host).roster.dues id =
      ((host.agenda.sleeping.filter (·.2 = .task id)).filter (time < ·.1)).map (·.1) := by
  rw [dues_eq]
  simp only [passTo, after_modify, List.partition_eq_filter_filter, List.filter_filter]
  congr 1
  refine List.filter_congr fun entry _ => ?_
  grind

/-- Time that passes no further than to the next sleeper wakes a task that is due then, and leaves
the others asleep. -/
theorem passTo_sleeper {host : Host} (idle : host.agenda.ready = []) {time : Nat}
    (early : ∀ entry ∈ host.agenda.sleeping, time ≤ entry.1) {id : TaskId} {due : Nat}
    (later : host.clock < due) (only : host.roster.dues id = [due]) :
    let next := (after (passTo time) host).roster
    (next.clock = due ∧ next.awake.count id = 1 ∧ next.dues id = []) ∨
      next.clock < due ∧ next.awake.count id = 0 ∧ next.dues id = [due] := by
  dsimp only
  rw [dues_eq, List.map_eq_singleton_iff] at only
  obtain ⟨entry, only, rfl⟩ := only
  have present : entry ∈ host.agenda.sleeping.filter (·.2 = .task id) :=
    only ▸ List.mem_singleton_self entry
  have ahead : time ≤ entry.1 := early entry (List.mem_of_mem_filter present)
  rw [passTo_awake time id idle, passTo_dues, only]
  rcases Nat.eq_or_lt_of_le ahead with now | early
  · refine .inl ⟨(Nat.max_eq_right (now ▸ Nat.le_of_lt later)).trans now, ?_, ?_⟩
    · simp [now]
    · simp [now]
  · refine .inr ⟨Nat.max_lt.mpr ⟨later, early⟩, ?_, ?_⟩
    · simp [early]
    · simp [early]

/-- Time that passes no further than to the next sleeper wakes the tasks that are due. -/
theorem passTo_sound {occasion : Occasion} {ledger : Ledger} {moment : Moment}
    (sound : ledger.Sound occasion moment) (idle : moment.host.agenda.ready = []) {time : Nat}
    (early : ∀ entry ∈ moment.host.agenda.sleeping, time ≤ entry.1) :
    ledger.Sound occasion (moment.next (passTo time)) := by
  have path : Acting .everything ⟨moment.inside, none, moment.host⟩ moment.inside none
      (after (passTo time) moment.host) := passTo_acts trivial time moment.host .refl
  constructor
  case seated =>
    have seated := path.seated ⟨sound.seated.roster, nofun⟩
    exact ⟨seated.roster, sound.seated.control⟩
  case generation => exact sound.generation
  case distinct => exact sound.distinct
  case issued => exact sound.issued
  case idle => exact sound.idle
  case past => exact fun call member => Nat.le_trans (sound.past call member) path.onward.clock
  case waits =>
    intro duty member task tracked same
    obtain ⟨generation, owner, delay, work, placed⟩ := sound.waits duty member task tracked same
    refine ⟨generation, owner, delay, work, ?_⟩
    have none : moment.host.roster.awake.count duty.id = 0 := by
      rw [roster, awake_count, idle, List.count_nil]
    generalize task.progress = progress at placed
    cases placed with
    | fresh due count => exact absurd (none.symm.trans count) (by decide)
    | woken rounds now count => exact absurd (none.symm.trans count) (by decide)
    | asleep rounds later count only =>
        rcases passTo_sleeper idle early later only with
          ⟨now, awake, asleep⟩ | ⟨early, awake, asleep⟩
        · exact .woken rounds now awake asleep
        · exact .asleep rounds early awake asleep

end HomeRules.Host
