import HomeRules.Proofs.Host.Duties
import HomeRules.Proofs.Host.Timekeeping

/-!
# Ticks

A task that runs a timer waits for a time, dispatches a tick through the gate of its manager, and
waits for the time one period later. Whatever else is done to a host leaves it alone.
-/

set_option autoImplicit false

namespace HomeRules

theorem Gate.enter?_isSome {gate : Gate} : gate.enter?.isSome = gate.isOpen := by
  cases phase : gate.phase <;> simp [enter?, isOpen, phase]

theorem Gate.enter?_eq_none {gate : Gate} (shut : gate.isOpen = false) : gate.enter? = none := by
  rwa [← Option.isNone_iff_eq_none, ← Option.isSome_eq_false_iff, enter?_isSome]

namespace Host

/-! ## Ticks that are dispatched -/

/-- A tick: when it was dispatched, by which task, for which subscriptions, where to, the number
it carries, and whether its dispatch panicked. -/
structure Tick where
  time : Nat
  task : TaskId
  subscribers : List Nat
  delivery : Delivery
  sequence : Nat
  panicked : Bool

/-- What is told of a tick: when it came, its number, and where it went. -/
def Tick.told (tick : Tick) : Nat × Nat × Delivery :=
  (tick.time, tick.sequence, tick.delivery)

/-- A task that is to dispatch a tick, and what it knows. -/
structure Alarm where
  task : TaskId
  delivery : Delivery
  period : Duration
  due : Nat
  rounds : Nat

/-- The numbers of the live subscriptions to intervals that a task runs for. -/
def servedBy (host : Host) (id : TaskId) : List Nat :=
  match host.registry.manager? .time with
  | none => []
  | some manager => (manager.subscriptions.filter (·.feed.task? = some id)).map (·.id)

/-- The tick that a worker is to dispatch now. -/
def alarm? (host : Host) (worker : Worker) : Option Alarm := do
  let id ← worker.task?
  let task ← host.supervisor.task? id
  match task.work, task.progress with
  | .timer gate schema kind period, .waiting due rounds =>
    if (host.gate gate).isOpen then
      some {
        task := id
        delivery := { gate, generation := task.generation, schema, kind }
        period, due, rounds }
    else none
  | _, _ => none

/-- What a task does that dispatched a tick. -/
def continueAlarm (alarm : Alarm) : Option Failure → Step Unit
  | some _ => progress alarm.task .crashed
  | none => sleepTask alarm.task (wakeTime alarm.due alarm.period) (alarm.rounds + 1)

/-- Dispatches a tick, and waits for the one after it. -/
def ring (alarm : Alarm) : Step Tick := do
  let host ← get
  mark (.resumed alarm.delivery.generation alarm.task)
  let failure? ← attempt (dispatchInside publish alarm.delivery (.tick (alarm.rounds + 1)))
  continueAlarm alarm failure?
  return {
    time := host.clock
    task := alarm.task
    subscribers := host.servedBy alarm.task
    delivery := alarm.delivery
    sequence := alarm.rounds + 1
    panicked := failure?.isSome }

/-- Gives a worker control, and notes the tick that it dispatches. -/
def attend (budget : Nat) (worker : Worker) : Step (List Tick) := do
  match (← get).alarm? worker with
  | some alarm => do
    let tick ← ring alarm
    return [tick]
  | none => do
    runWorker budget worker
    return []

section Alarm

variable {host : Host} {worker : Worker} {alarm : Alarm}

theorem alarm?_eq_some (rings : host.alarm? worker = some alarm) :
    worker = .task alarm.task ∧ ∃ task, host.supervisor.task? alarm.task = some task ∧
      task.generation = alarm.delivery.generation ∧
      task.work = .timer alarm.delivery.gate alarm.delivery.schema alarm.delivery.kind
        alarm.period ∧
      task.progress = .waiting alarm.due alarm.rounds ∧
      (host.gate alarm.delivery.gate).isOpen = true := by
  simp only [alarm?, Option.bind_eq_bind, Option.bind_eq_some_iff] at rings
  obtain ⟨id, worked, task, tracked, rings⟩ := rings
  have named : worker = .task id := by
    cases worker <;> cases worked
    rfl
  split at rings
  · case h_1 work progress =>
      split at rings
      · case isTrue opens =>
          cases rings
          exact ⟨named, task, tracked, rfl, work, progress, opens⟩
      · cases rings
  · cases rings

theorem after_attend (budget : Nat) (worker : Worker) (host : Host) :
    after (attend budget worker) host = after (runWorker budget worker) host := by
  rw [attend, after_get_bind]
  cases rings : host.alarm? worker with
  | none => rfl
  | some alarm =>
      obtain ⟨rfl, task, tracked, generation, work, progress, opens⟩ := alarm?_eq_some rings
      have named : task.id = alarm.task := (Supervisor.of_task? tracked).2
      obtain ⟨id, ⟨gate, _, schema, kind⟩, period, due, rounds⟩ := alarm
      dsimp only at *
      subst generation named
      obtain ⟨entered, admitted⟩ := Option.isSome_iff_exists.mp (Gate.enter?_isSome.trans opens)
      have entering : (after (mark (.resumed task.generation task.id)) host).gate gate =
        host.gate gate := rfl
      rw [runWorker, runTask, after_get_bind, tracked]
      dsimp only
      rw [progress]
      dsimp only
      rw [after_bind, continueTask, work, after_bind, after_pure, ring, after_get_bind, after_bind,
        after_bind, after_bind, after_pure]
      dsimp only
      rw [tick, after_get_bind, entering, admitted]
      dsimp only
      rw [after_bind]
      cases answer (attempt (dispatchInside publish _ _)) _ <;> rfl

/-- The task of a timer shows nothing on a turn without a tick. -/
theorem attend_quiet {id : TaskId} {task : Task} {gate : GateId} {schema : EventSchema}
    {kind : EventKind} {period : Duration} (tracked : host.supervisor.task? id = some task)
    (timed : task.work = .timer gate schema kind period)
    (quiet : host.alarm? (.task id) = none) (budget : Nat) :
    (after (attend budget (.task id)) host).journal = host.journal ∧
      (after (attend budget (.task id)) host).world = host.world := by
  rw [after_attend, runWorker, runTask, after_get_bind, tracked]
  dsimp only
  cases point : task.progress with
  | fresh =>
      rw [after_bind, beginTask, after_get_bind, timed]
      dsimp only
      split <;> exact ⟨rfl, rfl⟩
  | waiting due rounds =>
      have shut : (host.gate gate).isOpen = false := by
        simpa [alarm?, Worker.task?, tracked, timed, point] using quiet
      have refused : ((after (mark (.resumed task.generation id)) host).gate gate).enter? = none :=
        Gate.enter?_eq_none shut
      rw [after_bind, continueTask, timed]
      dsimp only
      rw [tick, after_get_bind, refused]
      exact ⟨rfl, rfl⟩
  | _ => exact ⟨rfl, rfl⟩

end Alarm

/-! ## Subscriptions that are served -/

theorem servedBy_eq {host : Host} {manager : Manager}
    (found : host.registry.manager? .time = some manager) (distinct : manager.timers.Nodup)
    {subscription : Subscription} (member : subscription ∈ manager.subscriptions) {id : TaskId}
    (running : subscription.feed.task? = some id) : host.servedBy id = [subscription.id] := by
  rw [servedBy, found]
  dsimp only
  rw [filter_timer distinct member running, List.map_singleton]

/-- A task that is to dispatch a tick runs for just one live subscription. -/
theorem alarm_sole {inside : List GateId} {turn : Option TaskId} {host : Host}
    {worker : Worker} {alarm : Alarm} (sound : Moment.Sound ⟨inside, turn, host⟩)
    (clockwork : host.Clockwork) (rings : host.alarm? worker = some alarm) :
    ∃ number, host.servedBy alarm.task = [number] := by
  obtain ⟨-, task, tracked, generation, work, -, -⟩ := alarm?_eq_some rings
  obtain ⟨running, named⟩ := Supervisor.of_task? tracked
  have ticks : (alarm.task, alarm.delivery.gate) ∈ host.supervisor.ticking :=
    Supervisor.mem_ticking.mpr ⟨task, running, named, by rw [work]; rfl⟩
  obtain ⟨manager, present, -, timed⟩ := sound.held _ _ ticks
  obtain ⟨subscription, member, running⟩ := Manager.mem_timers.mp timed
  have found := manager?_eq clockwork.wired present
  by_cases time : manager.kind = .time
  · rw [time] at found
    exact ⟨_, servedBy_eq found (clockwork.regular manager found).distinct member running⟩
  · rw [untimed clockwork.wired time found member] at running
    cases running


/-! ## Times -/

/-- When a timer is due for the n-th time that began at a time. -/
def dueTime (start : Nat) (period : Duration) : Nat → Nat
  | 0 => start
  | n + 1 => wakeTime (dueTime start period n) period

/-- As far as the clock can tell, a timer is due once in every period. -/
theorem dueTime_eq {start now count rounds : Nat} (positive : 0 < count)
    (tellable : isTellable now (.ofMilliseconds count))
    (past : dueTime start (.ofMilliseconds count) rounds ≤ now) :
    ∀ round ≤ rounds + 1,
      dueTime start (.ofMilliseconds count) round = start + round * count := by
  have next : dueTime start (.ofMilliseconds count) (rounds + 1) =
      dueTime start (.ofMilliseconds count) rounds + count :=
    wakeTime_eq (isTellable_mono past tellable)
  induction rounds with
  | zero =>
      intro round within
      rcases Nat.le_succ_iff.mp within with first | rfl
      · rw [Nat.le_zero.mp first, Nat.zero_mul]
        rfl
      · rw [next, Nat.one_mul]
        rfl
  | succ rounds previous =>
      have sleeps := mt Duration.isZero_ofMilliseconds.mp (Nat.ne_of_gt positive)
      have before : dueTime start (.ofMilliseconds count) rounds ≤ now :=
        Nat.le_trans (Nat.le_of_lt (lt_wakeTime sleeps)) past
      have earlier := previous before (wakeTime_eq (isTellable_mono before tellable))
      intro round within
      rcases Nat.le_succ_iff.mp within with old | rfl
      · exact earlier round old
      · rw [next, earlier (rounds + 1) (Nat.le_refl _), Nat.succ_mul (rounds + 1), Nat.add_assoc]

/-! ## Timers that run -/

/-- A timer that was started at a time, with its task. -/
structure Beat where
  timer : Timer
  task : TaskId
  start : Nat

namespace Beat

variable {beat : Beat} {rounds : Nat}

def due (beat : Beat) (rounds : Nat) : Nat :=
  dueTime beat.start beat.timer.period rounds

/-- Where the task stands that has ticked so many times. -/
inductive Placed (beat : Beat) (roster : Roster) : Nat → Progress → Prop where
  | fresh (now : roster.clock = beat.start) (awake : roster.awake.count beat.task = 1)
      (asleep : roster.dues beat.task = []) : Placed beat roster 0 .fresh
  | asleep {rounds : Nat} (early : roster.clock < beat.due (rounds + 1))
      (awake : roster.awake.count beat.task = 0)
      (asleep : roster.dues beat.task = [beat.due (rounds + 1)]) :
      Placed beat roster rounds (.waiting (beat.due (rounds + 1)) rounds)
  | woken {rounds : Nat} (now : roster.clock = beat.due (rounds + 1))
      (awake : roster.awake.count beat.task = 1) (asleep : roster.dues beat.task = []) :
      Placed beat roster rounds (.waiting (beat.due (rounds + 1)) rounds)
  | stopped {rounds : Nat} {progress : Progress} (stopped : progress.isOver) :
      Placed beat roster rounds progress

/-- The task is the one that the timer was started with, as far as it has come. -/
def Own (beat : Beat) (task : Task) : Prop :=
  ∃ progress, task = { beat.timer.task beat.task with progress }

/-- The task, if it is tracked, stands where it should after so many ticks. -/
def Waits (beat : Beat) (rounds : Nat) (roster : Roster) : Prop :=
  ∀ task ∈ roster.supervisor.tasks, task.id = beat.task →
    beat.Own task ∧ beat.Placed roster rounds task.progress

theorem Own.advance {task : Task} (own : beat.Own task) (progress : Progress) :
    beat.Own { task with progress } := by
  obtain ⟨before, rfl⟩ := own
  exact ⟨progress, rfl⟩

theorem Waits.untouched {spared : TaskId → Prop} {roster next : Roster}
    (waits : beat.Waits rounds roster) (untouched : roster.Untouched spared next)
    (own : spared beat.task) : beat.Waits rounds next := by
  intro task tracked same
  obtain ⟨timed, placed⟩ := waits task (untouched.tracked task tracked (same ▸ own)) same
  refine ⟨timed, ?_⟩
  have awake := untouched.awake beat.task own
  have asleep := untouched.asleep beat.task own
  generalize task.progress = progress at placed
  cases placed with
  | fresh now count none =>
      exact .fresh (untouched.clock.trans now) (awake.trans count) (asleep.trans none)
  | asleep early count only =>
      exact .asleep (untouched.clock ▸ early) (awake.trans count) (asleep.trans only)
  | woken now count none =>
      exact .woken (untouched.clock.trans now) (awake.trans count) (asleep.trans none)
  | stopped stopped => exact .stopped stopped

/-- Time that passes no further than to the next sleeper wakes the timers that are due. -/
theorem Waits.pass {host : Host} (waits : beat.Waits rounds host.roster)
    (idle : host.agenda.ready = []) {time : Nat}
    (early : ∀ entry ∈ host.agenda.sleeping, time ≤ entry.1) :
    beat.Waits rounds (after (passTo time) host).roster := by
  intro task tracked same
  obtain ⟨timed, placed⟩ := waits task tracked same
  refine ⟨timed, ?_⟩
  have none : host.roster.awake.count beat.task = 0 := by
    rw [roster, awake_count, idle, List.count_nil]
  generalize task.progress = progress at placed
  cases placed with
  | fresh now count => exact absurd (none.symm.trans count) (by decide)
  | woken now count => exact absurd (none.symm.trans count) (by decide)
  | stopped stopped => exact .stopped stopped
  | asleep later count only =>
      rcases passTo_sleeper idle early later only with
        ⟨now, awake, asleep⟩ | ⟨early, awake, asleep⟩
      · exact .woken now awake asleep
      · exact .asleep early awake asleep

/-! ### Going on -/

theorem Waits.sleep {host : Host}
    (own : ∀ task ∈ host.supervisor.tasks, task.id = beat.task → beat.Own task)
    (early : host.clock < beat.due (rounds + 1)) (awake : host.roster.awake.count beat.task = 0)
    (asleep : host.roster.dues beat.task = []) :
    beat.Waits rounds (after (sleepTask beat.task (beat.due (rounds + 1)) rounds) host).roster := by
  rw [sleepTask, after_bind]
  intro task tracked same
  obtain ⟨old, present, named, rfl⟩ := mem_progress tracked same
  refine ⟨(own old present named).advance _, .asleep early awake ?_⟩
  have none : (after (progress beat.task (.waiting (beat.due (rounds + 1)) rounds))
    host).roster.dues beat.task = [] := asleep
  rw [sleepUntil_dues, none, List.nil_append]

theorem Waits.finish {host : Host}
    (own : ∀ task ∈ host.supervisor.tasks, task.id = beat.task → beat.Own task) {point : Progress}
    (stopped : point.isOver) : beat.Waits rounds (after (progress beat.task point) host).roster := by
  intro task tracked same
  obtain ⟨old, present, named, rfl⟩ := mem_progress tracked same
  exact ⟨(own old present named).advance _, .stopped stopped⟩

/-- The tick that the timer dispatches next. -/
def tick (beat : Beat) (host : Host) (rounds : Nat) (panicked : Bool) : Tick where
  time := host.clock
  task := beat.task
  subscribers := host.servedBy beat.task
  delivery := beat.timer.delivery
  sequence := rounds + 1
  panicked

/-- The alarm of a timer that is due. -/
def alarm (beat : Beat) (rounds : Nat) : Alarm where
  task := beat.task
  delivery := beat.timer.delivery
  period := beat.timer.period
  due := beat.due (rounds + 1)
  rounds

/-- The host when its task was given control. -/
def resumed (beat : Beat) (host : Host) : Host :=
  after (mark (.resumed beat.timer.generation beat.task)) (after (pick (.task beat.task)) host)

def serve (beat : Beat) (rounds : Nat) : Step (Option Failure) :=
  attempt (dispatchInside publish beat.timer.delivery (.tick (rounds + 1)))

/-- No place on the agenda is left to the task. -/
structure Called (beat : Beat) (host : Host) : Prop where
  awake : (beat.resumed host).roster.awake.count beat.task = 0
  asleep : (beat.resumed host).roster.dues beat.task = []

/-- All that a turn of the task can be. -/
inductive Turn (beat : Beat) (rounds : Nat) (host : Host) : List Tick → Host → Prop where
  | rests (stopped : ∀ task ∈ host.supervisor.tasks, task.id = beat.task →
      task.progress.isOver = true) :
      Turn beat rounds host [] (after (pick (.task beat.task)) host)
  | begins (called : beat.Called host) (first : rounds = 0) (now : host.clock = beat.start) :
      Turn beat rounds host [] (after (sleepTask beat.task (beat.due (rounds + 1)) rounds)
        (beat.resumed host))
  | refuses (untellable : isTellable host.clock beat.timer.period = false) :
      Turn beat rounds host [] (after (progress beat.task .crashed) (beat.resumed host))
  | ends (shut : (host.gate beat.timer.gate).isOpen = false) :
      Turn beat rounds host [] (after (progress beat.task .ended) (beat.resumed host))
  | rings (called : beat.Called host) (now : host.clock = beat.due (rounds + 1)) :
      Turn beat rounds host
        [beat.tick host rounds (answer (beat.serve rounds) (beat.resumed host)).isSome]
        (after (continueAlarm (beat.alarm rounds) (answer (beat.serve rounds) (beat.resumed host)))
          (after (beat.serve rounds) (beat.resumed host)))

section Turns

variable {host : Host}

/-- A task that is given control has just begun, or it is due, or it is over. -/
private theorem Waits.called (waits : beat.Waits rounds host.roster)
    (ready : .task beat.task ∈ host.agenda.ready) {task : Task}
    (tracked : task ∈ host.supervisor.tasks) (same : task.id = beat.task) :
    task.progress.isOver = true ∨ beat.Called host ∧
      (task.progress = .fresh ∧ rounds = 0 ∧ host.clock = beat.start ∨
        task.progress = .waiting (beat.due (rounds + 1)) rounds ∧
          host.clock = beat.due (rounds + 1)) := by
  have picked (awake : host.roster.awake.count beat.task = 1) :
      (beat.resumed host).roster.awake.count beat.task = 0 := by
    have once := (awake_count host.agenda beat.task).symm.trans awake
    change (Agenda.awake _).count beat.task = 0
    rw [awake_count]
    change (host.agenda.ready.erase (.task beat.task)).count (.task beat.task) = 0
    rw [List.count_erase_self, once]
  obtain ⟨-, placed⟩ := waits task tracked same
  generalize task.progress = progress at placed
  cases placed with
  | fresh now awake asleep => exact .inr ⟨⟨picked awake, asleep⟩, .inl ⟨rfl, rfl, now⟩⟩
  | woken now awake asleep => exact .inr ⟨⟨picked awake, asleep⟩, .inr ⟨rfl, now⟩⟩
  | asleep early awake =>
      have present := List.count_pos_iff.mpr ready
      rw [← awake_count] at present
      exact absurd awake (Nat.ne_of_gt present)
  | stopped stopped => exact .inl stopped

/-- A timer that rings is due. -/
private theorem Waits.alarm_eq (waits : beat.Waits rounds host.roster)
    (ready : .task beat.task ∈ host.agenda.ready) {alarm : Alarm}
    (rings : (after (pick (.task beat.task)) host).alarm? (.task beat.task) = some alarm) :
    alarm = beat.alarm rounds ∧ beat.Called host ∧ host.clock = beat.due (rounds + 1) := by
  obtain ⟨named, task, tracked, generation, work, progress, -⟩ := alarm?_eq_some rings
  have named : beat.task = alarm.task := Worker.task.inj named
  obtain ⟨present, called⟩ := Supervisor.of_task? tracked
  have same : task.id = beat.task := called.trans named.symm
  obtain ⟨⟨_, own⟩, -⟩ := waits task present same
  rw [own] at work generation
  rcases waits.called ready present same with stopped | ⟨called, ⟨fresh, -⟩ | ⟨due, now⟩⟩
  · rw [progress] at stopped
    cases stopped
  · cases progress.symm.trans fresh
  · refine ⟨?_, called, now⟩
    obtain ⟨time, count⟩ := Progress.waiting.inj (progress.symm.trans due)
    obtain ⟨gate, schema, kind, period⟩ := Work.timer.inj work
    obtain ⟨_, ⟨_, _, _, _⟩, _, _, _⟩ := alarm
    dsimp only at *
    subst named generation time count gate schema kind period
    rfl

/-- A timer that does not ring begins, or it ends, or it was over. -/
private theorem Waits.quiet (waits : beat.Waits rounds host.roster)
    (numbered : host.supervisor.Numbered) (ready : .task beat.task ∈ host.agenda.ready)
    (quiet : (after (pick (.task beat.task)) host).alarm? (.task beat.task) = none) :
    beat.Turn rounds host [] (after (runTask beat.task) (after (pick (.task beat.task)) host)) := by
  have supervisor : (after (pick (.task beat.task)) host).supervisor = host.supervisor := rfl
  rw [runTask, after_get_bind, supervisor]
  cases found : host.supervisor.task? beat.task with
  | none =>
      refine .rests fun task present same => ?_
      exact absurd same (by simpa using List.find?_eq_none.mp found task present)
  | some task =>
      obtain ⟨tracked, named⟩ := Supervisor.of_task? found
      obtain ⟨_, timed⟩ := (waits task tracked named).1
      have generation : task.generation = beat.timer.generation := by
        rw [timed]
        rfl
      have work : task.work = .timer beat.timer.gate beat.timer.schema beat.timer.kind
          beat.timer.period := by
        rw [timed]
        rfl
      dsimp only
      rcases waits.called ready tracked named with
        stopped | ⟨called, ⟨fresh, rfl, now⟩ | ⟨due, now⟩⟩
      · have rests : beat.Turn rounds host [] (after (pick (.task beat.task)) host) := by
          refine .rests fun other present same => ?_
          rw [List.inj_on_of_nodup_map numbered.distinct present tracked
            (same.trans named.symm)]
          exact stopped
        generalize task.progress = progress at stopped
        cases progress with
        | ended => exact rests
        | crashed => exact rests
        | _ => cases stopped
      · rw [fresh]
        dsimp only
        rw [after_bind, generation, beginTask, after_get_bind, work, named]
        change beat.Turn 0 host [] (after (if isTellable host.clock beat.timer.period then
          sleepTask beat.task (wakeTime host.clock beat.timer.period) 0
          else progress beat.task .crashed) (beat.resumed host))
        split
        · rw [now]
          exact .begins called rfl now
        · case isFalse untellable => exact .refuses (by simpa using untellable)
      · have shut : (host.gate beat.timer.gate).isOpen = false := by
          have rest : ((after (pick (.task beat.task)) host).gate beat.timer.gate).isOpen =
              false := by
            simpa [alarm?, Worker.task?, supervisor, found, work, due] using quiet
          exact rest
        have refused : ((beat.resumed host).gate beat.timer.gate).enter? = none :=
          Gate.enter?_eq_none shut
        rw [due]
        dsimp only
        rw [after_bind, generation, continueTask, work]
        change beat.Turn rounds host [] (after (Host.tick task _ _ _ _) (beat.resumed host))
        rw [Host.tick, after_get_bind, refused, named]
        exact .ends shut

/-- The task of a timer that has its place does what a timer does. -/
theorem Waits.turn (waits : beat.Waits rounds host.roster)
    (numbered : host.supervisor.Numbered) (ready : .task beat.task ∈ host.agenda.ready)
    (budget : Nat) :
    let taken := after (pick (.task beat.task)) host
    beat.Turn rounds host (answer (attend budget (.task beat.task)) taken)
      (after (attend budget (.task beat.task)) taken) := by
  dsimp only
  rw [attend, after_get_bind, answer_get_bind]
  cases rings : (after (pick (.task beat.task)) host).alarm? (.task beat.task) with
  | some alarm =>
      obtain ⟨rfl, called, now⟩ := waits.alarm_eq ready rings
      exact .rings called now
  | none => exact waits.quiet numbered ready rings

/-- A dispatch leaves the task of the timer alone. -/
private theorem served_untouched (beat : Beat) (rounds : Nat)
    (below : beat.task < host.supervisor.nextId) :
    (beat.resumed host).roster.Untouched (· = beat.task)
      (after (beat.serve rounds) (beat.resumed host)).roster := by
  have path : Acting .outside ⟨[], none, beat.resumed host⟩ [] none
      (after (beat.serve rounds) (beat.resumed host)) :=
    (dispatchInside_acts publish_acts _ _).attempt _ .refl
  refine (path.untouched id (fun _ _ => id) nofun ?_).1
  rintro _ rfl
  exact below

/-- What a turn of the task comes to: nothing, or the next tick. -/
inductive Turned (beat : Beat) (rounds : Nat) (host next : Host) : List Tick → Prop where
  | rests (waits : beat.Waits rounds next.roster) : Turned beat rounds host next []
  | ticks (now : host.clock = beat.due (rounds + 1)) (panicked : Bool)
      (waits : beat.Waits (rounds + 1) next.roster) :
      Turned beat rounds host next [beat.tick host rounds panicked]

theorem Turn.turned {ticks : List Tick} {next : Host} (turn : beat.Turn rounds host ticks next)
    (waits : beat.Waits rounds host.roster) (below : beat.task < host.supervisor.nextId)
    (sleeps : ¬beat.timer.period.isZero) : beat.Turned rounds host next ticks := by
  have own : ∀ task ∈ (beat.resumed host).supervisor.tasks, task.id = beat.task →
      beat.Own task := fun task tracked same => (waits task tracked same).1
  cases turn with
  | rests stopped =>
      exact .rests fun task tracked same =>
        ⟨own task tracked same, .stopped (stopped task tracked same)⟩
  | begins called first now =>
      subst first
      refine .rests (Waits.sleep own ?_ called.awake called.asleep)
      have clock : (beat.resumed host).clock = beat.start := now
      rw [clock]
      exact lt_wakeTime sleeps
  | refuses untellable => exact .rests (Waits.finish own rfl)
  | ends shut => exact .rests (Waits.finish own rfl)
  | rings called now =>
      have untouched := served_untouched beat rounds below
      have kept : ∀ task ∈ (after (beat.serve rounds) (beat.resumed host)).supervisor.tasks,
          task.id = beat.task → beat.Own task :=
        fun task tracked same => own task (untouched.tracked task tracked same) same
      have clock : (after (beat.serve rounds) (beat.resumed host)).clock = host.clock :=
        untouched.clock
      cases answer (beat.serve rounds) (beat.resumed host) with
      | some failure => exact .ticks now true (Waits.finish kept rfl)
      | none =>
          refine .ticks now false (Waits.sleep kept ?_ ?_ ?_)
          · rw [clock, now]
            exact lt_wakeTime sleeps
          · exact (untouched.awake _ rfl).trans called.awake
          · exact (untouched.asleep _ rfl).trans called.asleep

/-- As long as no tick panics, the timer goes on. -/
theorem Turn.going {ticks : List Tick} {next : Host} (turn : beat.Turn rounds host ticks next)
    (waits : beat.Waits rounds host.roster) (going : Going (· = beat.task) host)
    (current : host.generation = beat.timer.generation)
    (tellable : isTellable host.clock beat.timer.period)
    (calm : ∀ tick ∈ ticks, tick.panicked = false) : Going (· = beat.task) next := by
  have resumed : Going (· = beat.task) (beat.resumed host) := going.of_services rfl
  cases turn with
  | rests stopped => exact going.of_services rfl
  | begins called first now =>
      have waiting : Going (· = beat.task)
          (after (progress beat.task (.waiting (beat.due (rounds + 1)) rounds))
            (beat.resumed host)) := resumed.progress fun _ => rfl
      exact waiting.of_services rfl
  | refuses untellable =>
      rw [untellable] at tellable
      cases tellable
  | ends shut =>
      -- The gate of a live timer of the current generation is open.
      have act : Act .everything ⟨[], some beat.task, beat.resumed host⟩
        ⟨[], some beat.task, after (progress beat.task .ended) (beat.resumed host)⟩ :=
          .progress rfl .ended
      refine ⟨act.clockwork resumed.clockwork, ?_⟩
      rintro timer _ rfl ⟨manager, found, gate, aged, member⟩
      obtain ⟨_, -, tracked⟩ := going.tracked timer _ rfl ⟨manager, found, gate, aged, member⟩
      obtain ⟨⟨_, same⟩, -⟩ := waits _ tracked rfl
      have generation : timer.generation = beat.timer.generation := congrArg Task.generation same
      have placed : timer.gate = beat.timer.gate := (Work.timer.inj (congrArg Task.work same)).1
      have delivers := (going.clockwork.regular manager found).delivers
        (aged.trans (generation.trans current.symm)) _ member _ _ _ rfl
      rw [gate, placed, shut] at delivers
      cases delivers.mp rfl
  | rings called now =>
      have served : Going (· = beat.task) (after (beat.serve rounds) (beat.resumed host)) :=
        (going_attending.dispatchInside going_attending.publish _ _).attempt _ resumed
      have calm := calm _ (List.mem_singleton_self _)
      cases failed : answer (beat.serve rounds) (beat.resumed host) with
      | some failure =>
          rw [failed] at calm
          cases calm
      | none =>
          have waiting : Going (· = beat.task)
              (after (progress beat.task (.waiting (beat.due (rounds + 1 + 1)) (rounds + 1)))
                (after (beat.serve rounds) (beat.resumed host))) := served.progress fun _ => rfl
          exact waiting.of_services rfl

end Turns

end Beat

end Host

end HomeRules
