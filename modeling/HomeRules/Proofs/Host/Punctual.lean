import HomeRules.Proofs.Host.Watching

/-!
# Timers tick on schedule

A timer that is started ticks once at the end of each of its periods, as long as its subscription
is live and its generation lasts, whatever else is done to the host, and no number of resumes
starts it again.
-/

set_option autoImplicit false

namespace HomeRules.Host

/-! ## One timer -/

namespace Beat

/-- The first ticks that a timer owes. -/
def owed (beat : Beat) (rounds : Nat) : List (Nat × Nat × Delivery) :=
  (List.range rounds).map fun round => (beat.due (round + 1), round + 1, beat.timer.delivery)

/-- The timer ticked when it was due, and it goes on unless a tick of it panicked, or no clock
can tell the end of its period. -/
structure Ticked (beat : Beat) (rounds : Nat) (watch : Watch) : Prop where
  told : (watch.ticks.filter (·.task = beat.task)).map (·.told) = beat.owed rounds
  past : beat.due rounds ≤ watch.host.clock
  waits : beat.Waits rounds watch.host.roster
  going : isTellable watch.host.clock beat.timer.period →
    (∀ tick ∈ watch.ticks, tick.task = beat.task → tick.panicked = false) →
      Going (· = beat.task) watch.host

/-- The timer is kept with its task, and has ticked on schedule. -/
structure Kept (beat : Beat) (watch : Watch) : Prop where
  current : watch.host.generation = beat.timer.generation
  issued : beat.task < watch.host.supervisor.nextId
  steady : Steady beat.timer beat.task watch.host
  own : beat.timer.Live watch.host (some beat.task) → ∀ tick ∈ watch.ticks,
    (beat.timer.number ∈ tick.subscribers ↔ tick.task = beat.task)
  ticked : ∃ rounds, beat.Ticked rounds watch

variable {beat : Beat} {watch : Watch} {next : Host}

/-- What happens beside the task leaves the timer on schedule. -/
theorem Kept.beside (kept : beat.Kept watch) {since : List Tick}
    (untouched : watch.host.roster.Untouched (· = beat.task) next.roster)
    (issued : watch.host.supervisor.nextId ≤ next.supervisor.nextId)
    (steady : Steady beat.timer beat.task next)
    (live : beat.timer.Live next (some beat.task) →
      beat.timer.Live watch.host (some beat.task))
    (going : Going (· = beat.task) watch.host → Going (· = beat.task) next)
    (others : ∀ tick ∈ since, tick.task ≠ beat.task ∧
      (beat.timer.Live next (some beat.task) → beat.timer.number ∉ tick.subscribers)) :
    beat.Kept ⟨watch.ticks ++ since, next⟩ := by
  refine ⟨untouched.generation.trans kept.current, Nat.lt_of_lt_of_le kept.issued issued, steady,
    fun now tick member => ?_, ?_⟩
  · rcases List.mem_append.mp member with old | new
    · exact kept.own (live now) tick old
    · obtain ⟨other, apart⟩ := others tick new
      exact iff_of_false (apart now) other
  · obtain ⟨rounds, ticked⟩ := kept.ticked
    have clock : next.clock = watch.host.clock := untouched.clock
    refine ⟨rounds, ?_, ?_, ticked.waits.untouched untouched rfl, ?_⟩
    · have none : since.filter (·.task = beat.task) = [] := by
        rw [List.filter_eq_nil_iff]
        exact fun tick member => by simpa using (others tick member).1
      rw [List.filter_append, none, List.append_nil]
      exact ticked.told
    · rw [clock]
      exact ticked.past
    · rw [clock]
      intro tellable calm
      exact going (ticked.going tellable fun tick member =>
        calm tick (List.mem_append_left _ member))

/-- A path on which the task has no control leaves the timer on schedule. -/
theorem Kept.acts {licence : Licence} (kept : beat.Kept watch) (clockwork : watch.host.Clockwork)
    (path : Acting licence ⟨[], none, watch.host⟩ [] none next) (still : ¬licence.cycles)
    (idle : ¬licence.task beat.task)
    (going : Going (· = beat.task) watch.host → Going (· = beat.task) next) {since : List Tick}
    (others : ∀ tick ∈ since, tick.task ≠ beat.task ∧
      (beat.timer.Live next (some beat.task) → beat.timer.number ∉ tick.subscribers)) :
    beat.Kept ⟨watch.ticks ++ since, next⟩ := by
  have untouched : watch.host.roster.Untouched (· = beat.task) next.roster := by
    refine (path.untouched still ?_ nofun ?_).1
    · rintro _ rfl
      exact idle
    · rintro _ rfl
      exact kept.issued
  refine kept.beside untouched path.onward.issued (path.steady clockwork kept.steady)
    (fun live => ?_) going others
  exact (path.runs clockwork live).resolve_right (Nat.not_le_of_lt kept.issued)

theorem Kept.aside (kept : beat.Kept watch) (clockwork : watch.host.Clockwork)
    (aside : Aside watch.host next) : beat.Kept ⟨watch.ticks, next⟩ := by
  have loops : Licence.outside.loops := trivial
  have kept := kept.acts clockwork (aside.acts loops [] none) id id
    (·.of_services aside.services) (List.forall_mem_nil _)
  rwa [List.append_nil] at kept

theorem Kept.operate (kept : beat.Kept watch) (clockwork : watch.host.Clockwork)
    {operation : Operation} (gentle : operation.gentle) :
    beat.Kept ⟨watch.ticks, after (Host.operate operation) watch.host⟩ := by
  have path : Acting .outside ⟨[], none, watch.host⟩ [] none
      (after (Host.operate operation) watch.host) :=
    operate_aside gentle.aside (.inr trivial) watch.host .refl
  have kept := kept.acts clockwork path id id (going_operate gentle watch.host)
    (List.forall_mem_nil _)
  rwa [List.append_nil] at kept

theorem Kept.pass (kept : beat.Kept watch) (idle : watch.host.agenda.ready = []) {time : Nat}
    (early : ∀ entry ∈ watch.host.agenda.sleeping, time ≤ entry.1) :
    beat.Kept ⟨watch.ticks, after (passTo time) watch.host⟩ := by
  have later : watch.host.clock ≤ (after (passTo time) watch.host).clock := Nat.le_max_left _ _
  obtain ⟨rounds, ticked⟩ := kept.ticked
  refine ⟨kept.current, kept.issued, kept.steady.of_services rfl, kept.own, rounds, ticked.told,
    Nat.le_trans ticked.past later, ticked.waits.pass idle early, fun tellable calm => ?_⟩
  exact (ticked.going (isTellable_mono later tellable) calm).of_services rfl

/-- Another worker is picked. -/
theorem Kept.pick (kept : beat.Kept watch) {worker : Worker} (apart : worker ≠ .task beat.task) :
    beat.Kept ⟨watch.ticks, after (Host.pick worker) watch.host⟩ := by
  have untouched : watch.host.roster.Untouched (· = beat.task)
      (after (Host.pick worker) watch.host).roster := by
    refine pick_untouched watch.host ?_
    rintro _ rfl
    exact apart
  have kept := kept.beside untouched (Nat.le_refl _) (kept.steady.of_services rfl) id
    (·.of_services rfl) (List.forall_mem_nil _)
  rwa [List.append_nil] at kept

section Turned

variable {rounds : Nat} {host : Host} {since : List Tick}

theorem Turned.task_eq (turned : beat.Turned rounds host next since) :
    ∀ tick ∈ since, tick.task = beat.task := by
  intro tick noted
  cases turned with
  | rests waits => cases noted
  | ticks due panicked waits =>
      rw [List.mem_singleton.mp noted]
      rfl

theorem Turned.served (turned : beat.Turned rounds host next since) (clockwork : host.Clockwork)
    (live : beat.timer.Live host (some beat.task)) :
    ∀ tick ∈ since, beat.timer.number ∈ tick.subscribers := by
  intro tick noted
  cases turned with
  | rests waits => cases noted
  | ticks due panicked waits =>
      rw [List.mem_singleton.mp noted]
      obtain ⟨manager, found, -, -, member⟩ := live
      have served : host.servedBy beat.task = [beat.timer.number] :=
        servedBy_eq found (clockwork.regular manager found).distinct member rfl
      change beat.timer.number ∈ host.servedBy beat.task
      rw [served]
      exact List.mem_singleton_self _

end Turned

theorem Ticked.turn {rounds : Nat} {since : List Tick} (ticked : beat.Ticked rounds watch)
    (turned : beat.Turned rounds watch.host next since) (clock : next.clock = watch.host.clock)
    (going : isTellable next.clock beat.timer.period →
      (∀ tick ∈ watch.ticks ++ since, tick.task = beat.task → tick.panicked = false) →
        Going (· = beat.task) next) :
    ∃ rounds, beat.Ticked rounds ⟨watch.ticks ++ since, next⟩ := by
  cases turned with
  | rests waits =>
      rw [List.append_nil] at going ⊢
      exact ⟨rounds, ticked.told, clock ▸ ticked.past, waits, going⟩
  | ticks due panicked waits =>
      refine ⟨rounds + 1, ?_, Nat.le_of_eq (due.symm.trans clock.symm), waits, going⟩
      have own : [beat.tick watch.host rounds panicked].filter (·.task = beat.task) =
          [beat.tick watch.host rounds panicked] := by
        simp [Beat.tick]
      rw [List.filter_append, List.map_append, ticked.told, own, owed, owed, List.range_succ,
        List.map_append, List.map_singleton, List.map_singleton, ← due]
      rfl

/-- The turn of its own task leaves the timer on schedule. -/
theorem Kept.turn (kept : beat.Kept watch) (settled : watch.host.Settled)
    (ready : .task beat.task ∈ watch.host.agenda.ready)
    (sleeps : ¬beat.timer.period.isZero) (budget : Nat) :
    let taken := after (Host.pick (.task beat.task)) watch.host
    beat.Kept ⟨watch.ticks ++ answer (attend budget (.task beat.task)) taken,
      after (attend budget (.task beat.task)) taken⟩ := by
  dsimp only
  set taken := after (Host.pick (.task beat.task)) watch.host
  have cycles : Licence.managed.cycles := trivial
  have path : Acting .managed ⟨[], none, watch.host⟩ [] none
      (after (attend budget (.task beat.task)) taken) :=
    (pick_acts cycles (.task beat.task) watch.host).trans (attend_acts budget _ taken)
  have untouched : taken.roster.Untouched (fun _ => False)
      (after (attend budget (.task beat.task)) taken).roster := by
    let licence : Licence := { Licence.outside with task := (· = beat.task) }
    have licensed : licence.task beat.task := rfl
    have turn : Acting licence ⟨[], none, taken⟩ [] none
        (after (attend budget (.task beat.task)) taken) := by
      rw [after_attend]
      exact runTask_acts licensed taken .refl
    exact (turn.untouched id nofun nofun nofun).1
  obtain ⟨rounds, ticked⟩ := kept.ticked
  have turn := ticked.waits.turn settled.numbered ready budget
  dsimp only at turn
  generalize after (attend budget (.task beat.task)) taken = next at turn path untouched ⊢
  generalize answer (attend budget (.task beat.task)) _ = since at turn ⊢
  have clock : next.clock = watch.host.clock := untouched.clock
  have generation : next.generation = watch.host.generation := untouched.generation
  have live (now : beat.timer.Live next (some beat.task)) :
      beat.timer.Live watch.host (some beat.task) :=
    (path.runs settled.clockwork now).resolve_right (Nat.not_le_of_lt kept.issued)
  have turned := turn.turned ticked.waits kept.issued sleeps
  refine ⟨generation.trans kept.current, Nat.lt_of_lt_of_le kept.issued path.onward.issued,
    path.steady settled.clockwork kept.steady, fun now tick member => ?_,
    ticked.turn turned clock fun tellable calm => ?_⟩
  · rcases List.mem_append.mp member with old | new
    · exact kept.own (live now) tick old
    · exact iff_of_true (turned.served settled.clockwork (live now) tick new)
        (turned.task_eq tick new)
  · rw [clock] at tellable
    have before := ticked.going tellable fun tick member =>
      calm tick (List.mem_append_left _ member)
    refine turn.going ticked.waits before kept.current tellable fun tick member => ?_
    exact calm tick (List.mem_append_right _ member) (turned.task_eq tick member)

/-- The turn of another task leaves the timer on schedule. -/
theorem Kept.other (kept : beat.Kept watch) (clockwork : watch.host.Clockwork) {id : TaskId}
    (apart : id ≠ beat.task) (budget : Nat) :
    beat.Kept ⟨watch.ticks ++ answer (attend budget (.task id)) watch.host,
      after (attend budget (.task id)) watch.host⟩ := by
  let licence : Licence := { Licence.outside with task := (· = id) }
  have licensed : licence.task id := rfl
  have path : Acting licence ⟨[], none, watch.host⟩ [] none
      (after (attend budget (.task id)) watch.host) := by
    rw [after_attend]
    exact runTask_acts licensed watch.host .refl
  have going : Going (· = beat.task) watch.host →
      Going (· = beat.task) (after (attend budget (.task id)) watch.host) := by
    have minding : Minding (Going (· = beat.task)) fun id => ¬id = beat.task := going_minding
    rw [after_attend]
    exact minding.runTask apart watch.host
  refine kept.acts clockwork path nofun (Ne.symm apart) going fun tick noted => ?_
  obtain ⟨alarm, rings, task, subscribers, -⟩ := mem_attend noted
  obtain rfl := Worker.task.inj (alarm?_eq_some rings).1
  refine ⟨fun same => apart (task.symm.trans same), fun now served => ?_⟩
  -- The number of the timer is on its own subscription, which has another task.
  obtain ⟨manager, found, gate, -, -⟩ :=
    (path.runs clockwork now).resolve_right (Nat.not_le_of_lt kept.issued)
  rw [subscribers, Host.servedBy, found] at served
  obtain ⟨subscription, member, number⟩ := List.mem_map.mp served
  have running := List.of_mem_filter member
  rw [(kept.steady.only manager found gate).2 _ (List.mem_of_mem_filter member) number] at running
  exact apart (Option.some.inj (of_decide_eq_true running)).symm

theorem Kept.step {next : Watch} (kept : beat.Kept watch) (settled : watch.host.Settled)
    (sleeps : ¬beat.timer.period.isZero) (step : Watch.Next watch next) :
    beat.timer.generation < next.host.generation ∨ beat.Kept next := by
  cases step with
  | operate gentle => exact .inr (kept.operate settled.clockwork gentle)
  | pass idle time early => exact .inr (kept.pass idle early)
  | aside aside => exact .inr (kept.aside settled.clockwork aside)
  | @work budget worker ready =>
      by_cases own : worker = .task beat.task
      · subst own
        exact .inr (kept.turn settled ready sleeps budget)
      have cycles : Licence.managed.cycles := trivial
      have taken := settled.acts id (pick_acts cycles worker watch.host)
      have picked := kept.pick own
      cases kind : worker.task? with
      | some id =>
          obtain rfl : worker = .task id := by
            cases worker <;> cases kind
            rfl
          exact .inr (picked.other taken.clockwork (fun same => own (congrArg _ same)) budget)
      | none =>
          have turned := (overtakes_recurring (after (Host.pick worker) watch.host)).runWorker
            budget kind _ (.inr ⟨rfl, rfl, rfl, rfl⟩)
          rw [← kept.current]
          refine turned.imp (fun later => by rwa [after_attend]) fun aside => ?_
          have loops : Licence.outside.loops := trivial
          rw [← after_attend] at aside
          refine picked.acts taken.clockwork (aside.acts loops [] none) id id
            (·.of_services aside.services) fun tick noted => ?_
          obtain ⟨alarm, rings, -⟩ := mem_attend noted
          rw [(alarm?_eq_some rings).1] at kind
          cases kind

/-- A timer that an operation starts is on schedule from then on. -/
theorem starts {start : Host} (settled : start.Settled) {operation : Operation}
    (gentle : operation.gentle) {timer : Timer} {task : TaskId}
    (current : timer.generation = start.generation)
    (unstarted : ∀ earlier, ¬timer.Live start (some earlier))
    (started : timer.Live (after (Host.operate operation) start) (some task)) :
    Beat.Kept ⟨timer, task, start.clock⟩ ⟨[], after (Host.operate operation) start⟩ := by
  have path : Acting .outside ⟨[], none, start⟩ [] none
      (after (Host.operate operation) start) :=
    operate_aside gentle.aside (.inr trivial) start .refl
  have managed : Acting .managed ⟨[], none, start⟩ [] none
      (after (Host.operate operation) start) :=
    operate_aside gentle.aside (.inl gentle.plain) start .refl
  have going : Going (start.supervisor.nextId ≤ ·) (after (Host.operate operation) start) := by
    refine going_operate gentle start ⟨settled.clockwork, fun other id fresh live => ?_⟩
    exact absurd (settled.clockwork.issued live) (Nat.not_lt_of_le fresh)
  have fresh : start.supervisor.nextId ≤ task :=
    (path.runs settled.clockwork started).resolve_left (unstarted task)
  have begins := path.begins rfl id (fun _ => id) settled.seated
  have settled := settled.acts id managed
  have untouched : start.roster.Untouched (fun _ => False)
      (after (Host.operate operation) start).roster := (path.untouched id nofun nofun nofun).1
  generalize after (Host.operate operation) start = begun at *
  have generation : begun.generation = timer.generation :=
    untouched.generation.trans current.symm
  have clockwork := settled.clockwork
  refine ⟨generation, clockwork.issued started, clockwork.steady started generation.symm,
    fun _ => List.forall_mem_nil _, 0, rfl, Nat.le_of_eq untouched.clock.symm, ?_, ?_⟩
  · intro own tracked named
    obtain ⟨progress, -, spawned⟩ := going.tracked timer task fresh started
    have same : own = { timer.task task with progress } :=
      List.inj_on_of_nodup_map settled.numbered.distinct tracked spawned named
    obtain ⟨new, awake, asleep⟩ := begins own tracked (named.symm ▸ fresh)
    rw [named] at awake asleep
    rw [new]
    exact ⟨⟨progress, same⟩, .fresh untouched.clock awake asleep⟩
  · rintro - -
    exact ⟨going.clockwork, fun other _ same again =>
      going.tracked other _ (same.symm ▸ fresh) again⟩

/-- A timer on schedule stays so for as long as its generation lasts. -/
theorem Kept.along {start : Watch} (kept : beat.Kept start) (settled : start.host.Settled)
    (sleeps : ¬beat.timer.period.isZero) (path : Watch.Reaches start watch) :
    beat.timer.generation < watch.host.generation ∨ beat.Kept watch := by
  induction path with
  | refl => exact .inr kept
  | tail path step previous =>
      rcases previous with past | kept
      · exact .inl (Nat.lt_of_lt_of_le past step.path.onward.generation)
      · exact kept.step (Watch.Reaches.settled path settled) sleeps step

end Beat

/-! ## The schedule -/

/-- The ticks for the live subscription with a number. -/
def Watch.ticksFor (watch : Watch) (number : Nat) : List Tick :=
  watch.ticks.filter (number ∈ ·.subscribers)

/-- A timer with a period of whole milliseconds ticked at the end of each of so many periods. Unless
a tick panicked, these are all whose end is past, and, where nothing can go on, all whose end has
come. -/
structure Watch.OnSchedule (watch : Watch) (timer : Timer) (start count rounds : Nat) :
    Prop where
  told : (watch.ticksFor timer.number).map (·.told) = (List.range rounds).map fun round =>
    (start + (round + 1) * count, round + 1, timer.delivery)
  past : start + rounds * count ≤ watch.host.clock
  ahead : (∀ tick ∈ watch.ticksFor timer.number, tick.panicked = false) →
    watch.host.clock ≤ start + (rounds + 1) * count
  complete : (∀ tick ∈ watch.ticksFor timer.number, tick.panicked = false) →
    watch.host.agenda.ready = [] → watch.host.clock < start + (rounds + 1) * count

namespace Beat

variable {beat : Beat} {watch : Watch}

/-- A timer that goes on waits for its next tick, or is about to begin or to tick. -/
theorem Waits.ahead {rounds : Nat} {host : Host} (waits : beat.Waits rounds host.roster)
    (sleeps : ¬beat.timer.period.isZero) (going : Going (· = beat.task) host)
    (live : beat.timer.Live host (some beat.task)) :
    host.clock ≤ beat.due (rounds + 1) ∧
      (host.agenda.ready = [] → host.clock < beat.due (rounds + 1)) := by
  obtain ⟨progress, goes, tracked⟩ := going.tracked _ _ rfl live
  obtain ⟨-, placed⟩ := waits _ tracked rfl
  dsimp only at placed
  have busy (awake : host.roster.awake.count beat.task = 1) : host.agenda.ready ≠ [] := by
    intro idle
    rw [roster, awake_count, idle] at awake
    cases awake
  cases placed with
  | fresh now awake =>
      refine ⟨?_, fun idle => absurd idle (busy awake)⟩
      have clock : host.clock = beat.start := now
      rw [clock]
      exact Nat.le_of_lt (lt_wakeTime sleeps)
  | asleep early => exact ⟨Nat.le_of_lt early, fun _ => early⟩
  | woken now awake => exact ⟨Nat.le_of_eq now, fun idle => absurd idle (busy awake)⟩
  | stopped stopped =>
      rw [goes] at stopped
      cases stopped

theorem Kept.onSchedule (kept : beat.Kept watch) {count : Nat} (positive : 0 < count)
    (whole : beat.timer.period = .ofMilliseconds count)
    (tellable : isTellable watch.host.clock beat.timer.period)
    (live : beat.timer.Live watch.host (some beat.task)) :
    ∃ rounds, watch.OnSchedule beat.timer beat.start count rounds := by
  obtain ⟨rounds, ticked⟩ := kept.ticked
  have own : watch.ticksFor beat.timer.number = watch.ticks.filter (·.task = beat.task) :=
    List.filter_congr fun tick member => decide_eq_decide.mpr (kept.own live tick member)
  have due : ∀ round ≤ rounds + 1, beat.due round = beat.start + round * count := by
    have past := ticked.past
    rw [Beat.due, whole] at past
    rw [whole] at tellable
    simpa only [Beat.due, whole] using dueTime_eq positive tellable past
  have sleeps : ¬beat.timer.period.isZero := by
    rw [whole]
    exact mt Duration.isZero_ofMilliseconds.mp (Nat.ne_of_gt positive)
  have ahead (calm : ∀ tick ∈ watch.ticksFor beat.timer.number, tick.panicked = false) :=
    ticked.waits.ahead sleeps (ticked.going tellable fun tick member same =>
      calm tick (own ▸ List.mem_filter.mpr ⟨member, decide_eq_true same⟩)) live
  rw [due (rounds + 1) (Nat.le_refl _)] at ahead
  refine ⟨rounds, ?_, ?_, fun calm => (ahead calm).1, fun calm => (ahead calm).2⟩
  · rw [own, ticked.told, owed, List.map_inj_left]
    intro round member
    rw [due (round + 1) (Nat.le_succ_of_le (List.mem_range.mp member))]
  · rw [← due rounds (Nat.le_succ _)]
    exact ticked.past

end Beat

/-- A new host that was asked for its manager of intervals. -/
def waiting : Host :=
  after (operate (.askManager .time 0)) (create {} "" {} {} [])

/-- The first timer of that manager. -/
def firstTimer (period : Duration) (actions : List Action) : Timer where
  gate := 0
  generation := 0
  number := 0
  period
  schema.entries :=
    [{ kind := .interval period, body := .unconditional actions, mode := .parallel }]

/-- The host with the timer, while its manager waits. -/
def subscribed (timer : Timer) : Host :=
  after (operate (.subscribe .time timer.kind timer.schema)) waiting

/-- The host with the timer, once its manager delivers. -/
def delivering (timer : Timer) : Host :=
  after (operate (.resumeManager .time)) (subscribed timer)

end HomeRules.Host
