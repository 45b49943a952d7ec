import HomeRules.Proofs.Host.Clockwork
import HomeRules.Proofs.Host.Roster

/-!
# Timers keep their tasks

At every moment a timer of the current generation has a task just if its manager delivers, and
no two timers have the same task. What is done to a host ends the task of no timer that stays,
and no timer ever gets another one.
-/

set_option autoImplicit false

namespace HomeRules.Host

/-! ## The manager at every moment -/

/-- A manager is of no later generation than the host, each of its timers has a task of its own,
and they have tasks just if it delivers. -/
structure Regular (host : Host) (manager : Manager) : Prop where
  current : manager.generation ≤ host.generation
  distinct : manager.timers.Nodup
  issued : ∀ id ∈ manager.timers, id < host.supervisor.nextId
  delivers : host.Delivers manager

/-- The managers are wired up, and the timers are in order. -/
structure Clockwork (host : Host) : Prop where
  wired : host.wiring.Sound
  regular : ∀ manager, host.registry.manager? .time = some manager → host.Regular manager

section Clockwork

variable {host next : Host} {timer : Timer} {id : TaskId}

theorem Tended.clockwork (tended : Tended host next) (clockwork : host.Clockwork)
    (issued : host.supervisor.nextId ≤ next.supervisor.nextId)
    (generation : host.generation ≤ next.generation) (wired : next.wiring.Sound) :
    next.Clockwork := by
  refine ⟨wired, fun manager found => ?_⟩
  cases tended with
  | still same gated =>
      have present := same.symm.trans found
      have regular := clockwork.regular manager present
      refine ⟨Nat.le_trans regular.current generation, regular.distinct,
        fun id timed => Nat.lt_of_lt_of_le (regular.issued id timed) issued, ?_⟩
      intro current subscription member period schema task fed
      rw [gated manager present]
      have current := Nat.le_antisymm regular.current (current ▸ generation)
      exact regular.delivers current subscription member period schema task fed
  | gone none => cases none.symm.trans found
  | created made placed current empty =>
      cases made.symm.trans found
      have untimed : manager.timers = [] := by rw [Manager.timers, empty, List.filterMap_nil]
      refine ⟨Nat.le_trans (Nat.le_of_eq current) generation, ?_, ?_, ?_⟩
      · rw [untimed]
        exact List.nodup_nil
      · rw [untimed]
        exact List.forall_mem_nil _
      · intro _ subscription member
        rw [empty] at member
        cases member
  | changed present replaced gate aged numbers made delivers distinct =>
      cases replaced.symm.trans found
      have regular := clockwork.regular _ present
      refine ⟨Nat.le_trans (Nat.le_trans (Nat.le_of_eq aged) regular.current) generation,
        distinct regular.distinct regular.issued, fun id timed => ?_, delivers regular.delivers⟩
      obtain ⟨subscription, member, running⟩ := Manager.mem_timers.mp timed
      rcases made subscription member with old | new
      · refine Nat.lt_of_lt_of_le (regular.issued id ?_) issued
        exact Manager.mem_timers.mpr ⟨subscription, old, running⟩
      · cases new with
        | waits number untimed => cases untimed.symm.trans running
        | starts begun number =>
            obtain ⟨_, fed, -, below⟩ := begun.task?
            cases fed.symm.trans running
            exact below

theorem Act.clockwork {licence : Licence} {moment next : Moment} (act : Act licence moment next)
    (clockwork : moment.host.Clockwork) : next.host.Clockwork :=
  (act.tended clockwork.wired).clockwork clockwork act.onward.issued act.onward.generation
    (act.passage.sound clockwork.wired)

theorem Clockwork.of_services (clockwork : host.Clockwork)
    (same : next.services = host.services) : next.Clockwork :=
  (Tended.of_services same).clockwork clockwork
    (Nat.le_of_eq (congrArg (·.supervisor.nextId) same).symm)
    (Nat.le_of_eq (congrArg Services.generation same).symm)
    (wiring_of_services same ▸ clockwork.wired)

theorem create_clockwork (config : ScriptingConfig) (dataDirectory : String) (tree : FileTree)
    (vocabulary : Vocabulary) (shelf : ScriptShelf) :
    (create config dataDirectory tree vocabulary shelf).Clockwork :=
  ⟨.empty, nofun⟩

/-! ## Timers that run -/

/-- A timer that runs afterwards ran before, or its task was spawned. -/
theorem Tended.runs (tended : Tended host next) (running : timer.Live next (some id)) :
    timer.Live host (some id) ∨ host.supervisor.nextId ≤ id ∧
      timer.task id ∈ next.supervisor.tasks := by
  obtain ⟨manager, found, gate, generation, member⟩ := running
  cases tended with
  | still same gated => exact .inl ⟨manager, same.symm.trans found, gate, generation, member⟩
  | gone none => cases none.symm.trans found
  | created made placed current empty =>
      cases made.symm.trans found
      rw [empty] at member
      cases member
  | changed present replaced same aged numbers made delivers distinct =>
      cases replaced.symm.trans found
      rcases made _ member with old | new
      · exact .inl ⟨_, present, same.symm.trans gate, aged.symm.trans generation, old⟩
      · cases new with
        | waits number untimed => cases untimed
        | starts begun number =>
            obtain ⟨_, _, _, fed, fresh, -, tracked⟩ := begun
            cases fed
            rw [← aged, generation, ← same, gate] at tracked
            exact .inr ⟨fresh, tracked⟩

theorem Clockwork.issued (clockwork : host.Clockwork) (live : timer.Live host (some id)) :
    id < host.supervisor.nextId := by
  obtain ⟨manager, found, -, -, member⟩ := live
  exact (clockwork.regular manager found).issued id (Manager.mem_timers.mpr ⟨_, member, rfl⟩)

/-- A timer of the current generation runs just if its manager delivers. -/
theorem Clockwork.runs (clockwork : host.Clockwork) {task : Option TaskId}
    (live : timer.Live host task) (current : timer.generation = host.generation) :
    task.isSome ↔ (host.gate timer.gate).isOpen := by
  obtain ⟨manager, found, gate, generation, member⟩ := live
  rw [← gate]
  exact (clockwork.regular manager found).delivers (generation.trans current) _ member _ _ _ rfl

/-- A task runs one timer. -/
theorem Clockwork.apart (clockwork : host.Clockwork) {other : Timer}
    (live : timer.Live host (some id)) (again : other.Live host (some id)) : timer = other := by
  obtain ⟨manager, found, gate, generation, member⟩ := live
  obtain ⟨_, same, place, age, present⟩ := again
  cases found.symm.trans same
  have unique := timer_unique (clockwork.regular manager found).distinct member present rfl rfl
  obtain ⟨_, _, number, period, schema⟩ := timer
  obtain ⟨_, _, _, _, _⟩ := other
  cases gate
  cases generation
  cases place
  cases age
  cases unique
  rfl

end Clockwork

/-- A timer that was started has the number and the task it has as long as its manager is there. -/
structure Steady (timer : Timer) (id : TaskId) (host : Host) : Prop where
  started : (host.gate timer.gate).phase ≠ .pending
  only : ∀ manager, host.registry.manager? .time = some manager → manager.gate = timer.gate →
    timer.number < manager.nextId ∧ ∀ subscription ∈ manager.subscriptions,
      subscription.id = timer.number → subscription = timer.subscription (some id)

section Steady

variable {host next : Host} {timer : Timer} {id : TaskId}

theorem Clockwork.steady (clockwork : host.Clockwork) (live : timer.Live host (some id))
    (current : timer.generation = host.generation) : Steady timer id host := by
  refine ⟨Gate.unpending_of_isOpen ((clockwork.runs live current).mp rfl), ?_⟩
  obtain ⟨manager, found, gate, -, member⟩ := live
  intro other present _
  cases found.symm.trans present
  have managed := clockwork.wired.managers manager.bare
    (List.mem_map_of_mem (List.mem_of_find?_eq_some found))
  refine ⟨managed.bounded _ (List.mem_map_of_mem member), fun subscription listed number => ?_⟩
  exact List.inj_on_of_nodup_map (distinct_subscriptions clockwork.wired found) listed member
    number

theorem Steady.live (steady : Steady timer id host) (listed : timer.Listed host) :
    timer.Live host (some id) := by
  obtain ⟨manager, found, gate, generation, numbered⟩ := listed
  obtain ⟨subscription, member, number⟩ := List.mem_map.mp numbered
  rw [(steady.only manager found gate).2 subscription member number] at member
  exact ⟨manager, found, gate, generation, member⟩

theorem Tended.steady (tended : Tended host next) (steady : Steady timer id host)
    (started : (next.gate timer.gate).phase ≠ .pending) : Steady timer id next := by
  refine ⟨started, fun manager found gate => ?_⟩
  cases tended with
  | still same gated => exact steady.only manager (same.symm.trans found) gate
  | gone none => cases none.symm.trans found
  | created made placed current empty =>
      cases made.symm.trans found
      have unmade : ¬timer.gate < host.gates.length := Nat.not_lt_of_le (gate ▸ placed)
      have pending := host.wiring.gate_of_not_lt unmade
      exact absurd (congrArg Gate.phase pending) steady.started
  | changed present replaced same aged numbers made delivers distinct =>
      cases replaced.symm.trans found
      obtain ⟨known, only⟩ := steady.only _ present (same.symm.trans gate)
      refine ⟨Nat.lt_of_lt_of_le known numbers, fun subscription member number => ?_⟩
      have taken {other : Nat} (next : subscription.id = other) : timer.number = other :=
        number.symm.trans next
      rcases made subscription member with old | new
      · exact only subscription old number
      · cases new with
        | waits next untimed => exact absurd (taken next) (Nat.ne_of_lt known)
        | starts begun number =>
            rcases number with next | ⟨old, member, same, waits⟩
            · exact absurd (taken next) (Nat.ne_of_lt known)
            · rw [only old member (same.trans (taken rfl).symm)] at waits
              cases waits

theorem Act.steady {licence : Licence} {moment next : Moment} (act : Act licence moment next)
    (sound : moment.host.wiring.Sound) (steady : Steady timer id moment.host) :
    Steady timer id next.host :=
  (act.tended sound).steady steady ((act.passage.gate timer.gate).unpending steady.started)

theorem Steady.of_services (steady : Steady timer id host)
    (same : next.services = host.services) : Steady timer id next := by
  refine (Tended.of_services same).steady steady ?_
  have gates : next.gates = host.gates := congrArg Services.gates same
  rw [Host.gate, gates]
  exact steady.started

end Steady

/-! ## Tasks that go on -/

/-- The timers are in order, and those with certain tasks run. -/
structure Going (spared : TaskId → Prop) (host : Host) : Prop where
  clockwork : host.Clockwork
  tracked : ∀ timer id, spared id → Timer.Live timer host (some id) →
    ∃ progress, progress.isOver = false ∧ { timer.task id with progress } ∈ host.supervisor.tasks

section Going

variable {spared : TaskId → Prop}

theorem Going.of_services {host next : Host} (going : Going spared host)
    (same : next.services = host.services) : Going spared next := by
  have registry : next.registry = host.registry := congrArg Services.registry same
  have supervisor : next.supervisor = host.supervisor := congrArg Services.supervisor same
  refine ⟨going.clockwork.of_services same, fun timer id own live => ?_⟩
  rw [supervisor]
  obtain ⟨manager, found, live⟩ := live
  exact going.tracked timer id own ⟨manager, registry ▸ found, live⟩

/-- A task that does not end goes on. -/
theorem Going.progress {host : Host} (going : Going spared host) {id : TaskId} {point : Progress}
    (unfinished : spared id → point.isOver = false) :
    Going spared (after (progress id point) host) := by
  have act : Act .everything ⟨[], some id, host⟩
    ⟨[], some id, after (Host.progress id point) host⟩ := .progress rfl point
  refine ⟨act.clockwork going.clockwork, fun timer other own live => ?_⟩
  obtain ⟨manager, found, live⟩ := live
  obtain ⟨before, going, tracked⟩ := going.tracked timer other own ⟨manager, found, live⟩
  by_cases same : other = id
  · exact ⟨point, unfinished (same ▸ own), List.mem_map.mpr ⟨_, tracked, if_pos same⟩⟩
  · exact ⟨before, going, List.mem_map.mpr ⟨_, tracked, if_neg same⟩⟩

private theorem Going.act {licence : Licence} {moment next : Moment}
    (going : Going spared moment.host) (act : Act licence moment next)
    (spares : Maintains moment.host next.host) : Going spared next.host := by
  refine ⟨act.clockwork going.clockwork, fun timer id own live => ?_⟩
  rcases (act.tended going.clockwork.wired).runs live with before | ⟨-, spawned⟩
  · obtain ⟨progress, unfinished, tracked⟩ := going.tracked timer id own before
    obtain ⟨manager, found, -, -, member⟩ := live
    have timed := Manager.mem_timers.mpr ⟨_, member, rfl⟩
    exact ⟨progress, unfinished, spares manager found _ tracked timed rfl unfinished⟩
  · exact ⟨.fresh, rfl, spawned⟩

private theorem Going.quiet {licence : Licence} {moment next : Moment}
    (going : Going spared moment.host) (act : Act licence moment next)
    (same : next.host.supervisor = moment.host.supervisor) : Going spared next.host :=
  going.act act (.of_grows (same ▸ .refl _))

private theorem Going.keeps {α : Type} {step : Step α}
    (act : ∀ host, Act .everything ⟨[], none, host⟩ ⟨[], none, after step host⟩)
    (spares : ∀ host, host.Clockwork → Maintains host (after step host)) :
    Keeps (Going spared) step :=
  fun host going => going.act (act host) (spares host going.clockwork)

theorem going_attending : Attending (Going spared) := by
  have resumed (kind : ManagerKind) : Keeps (Going spared) (resumeManager kind) :=
    .keeps (fun _ => .resumeManager kind) fun host clockwork =>
      .of_grows (resumeManager_tended clockwork.wired kind).2
  constructor
  case toStriking =>
    constructor
    case unsubscribe =>
      intro kind id
      refine .keeps (fun _ => .unsubscribe kind id) fun host clockwork => ?_
      exact (unsubscribe_tended clockwork.wired kind id).2 fun manager found =>
        (clockwork.regular manager found).distinct
    case records =>
      intro host registrations going
      have act : Act .everything ⟨[], none, host⟩ _ :=
        .keepRecords registrations host.registry.resumed
      exact going.quiet act rfl
  case beside =>
    intro _ _ _ _ going
    exact going.of_services rfl
  case mark =>
    intro _ _ _ going
    exact going.of_services rfl
  case request =>
    intro host going
    exact going.of_services (services_of_parts (changeLoops_parts ReloadLoops.request host))
  case spawn =>
    intro name generation owner work
    refine .keeps (fun _ => .spawn name generation owner work (.inr trivial)) fun host _ =>
      .of_grows ?_
    by_cases current : host.generation = generation
    · rw [(spawn_current host name owner work current).2.1]
      exact Supervisor.grows_add ..
    · rw [(spawn_refused host name owner work current).2]
      exact .refl _
  case cancelOwner =>
    intro owner
    refine .keeps (fun _ => .cancelOwner owner) fun host _ => ?_
    intro manager found task tracked timed unowned going
    exact List.mem_filter.mpr ⟨tracked, by simp [unowned]⟩
  case enter =>
    intro host gate entered admitted going
    have act : Act .everything ⟨[], none, host⟩ _ := .enter admitted
    exact going.quiet act rfl
  case leave =>
    intro gate host going
    have act : Act .everything ⟨[gate], none, host⟩ _ := .leave rfl
    exact going.quiet act rfl
  case needManager =>
    intro kind generation
    refine .keeps (fun _ => .needManager kind generation) fun host clockwork => ?_
    exact .of_grows (needManager_tended clockwork.wired kind generation).2
  case subscribe =>
    intro manager kind schema _
    refine .keeps (fun _ => .subscribe manager kind schema) fun host clockwork => ?_
    exact .of_grows (subscribe_tended clockwork.wired manager kind schema).2
  case resumeManager => exact resumed
  case resumeRegistry =>
    intro generation host going
    rw [resumeRegistry, after_get_bind]
    split
    · have act : Act .everything ⟨[], none, host⟩ _ :=
        .keepRecords host.registry.registrations true
      exact Keeps.forM resumed _ _ (going.quiet act rfl)
    · exact going
  case stopManager =>
    intro kind
    refine .keeps (fun _ => .stopManager kind) fun host clockwork => ?_
    exact (stopManager_tended clockwork.wired kind).2 fun manager found =>
      (clockwork.regular manager found).distinct
  case clear =>
    intro host unsubscribed going
    have act : Act .everything ⟨[], none, host⟩ _ := .clear unsubscribed
    exact going.quiet act rfl

/-- The turns of other tasks leave the timers alone. -/
theorem going_minding : Minding (Going spared) fun id => ¬spared id where
  toAttending := going_attending
  agenda _ _ going := going.of_services rfl
  resume _ _ _ going := going.of_services rfl
  progress _ _ other _ going := going.progress fun own => absurd own other

theorem going_operate {operation : Operation} (gentle : operation.gentle) :
    Keeps (Going spared) (operate operation) := by
  have written (host : Host) (tree : FileTree) (going : Going spared host) :
      Going spared { host with tree } := going.of_services rfl
  cases operation with
  | subscribe manager kind schema =>
      refine .keeps (fun _ => .subscribe manager kind schema) fun host clockwork => ?_
      exact .of_grows (subscribe_tended clockwork.wired manager kind schema).2
  | _ => exact going_attending.operate gentle trivial written

end Going

/-! ## Tasks that were spawned since -/

theorem Roster.Shift.moves {licence : Licence} {turn : Option TaskId} {roster next : Roster}
    (shift : Roster.Shift licence turn roster next) :
    roster.supervisor.Moves next.supervisor := by
  cases shift with
  | spawn name generation owner work => exact .add name generation owner work
  | drop keep => exact .drop keep
  | progress control point => exact .advance _ point
  | sleep control due => exact .rest
  | advance licensed => exact .rest
  | schedule licensed same later fewer => exact same.2 ▸ .rest

theorem Act.numbered {licence : Licence} {moment next : Moment} (act : Act licence moment next)
    (numbered : moment.host.supervisor.Numbered) : next.host.supervisor.Numbered := by
  have along {roster : Roster}
      (shifts : Roster.Shifts licence moment.turn moment.host.roster roster) :
      roster.supervisor.Numbered := by
    induction shifts with
    | refl => exact numbered
    | tail _ shift previous => exact shift.moves.numbered previous
  exact along act.shifts

/-- Every task with a later number is about to begin. -/
def Roster.Begins (since : TaskId) (roster : Roster) : Prop :=
  ∀ task ∈ roster.supervisor.tasks, since ≤ task.id →
    task.progress = .fresh ∧ roster.awake.count task.id = 1 ∧ roster.dues task.id = []

section Since

variable {licence : Licence} {start : Moment} {inside : List GateId} {turn : Option TaskId}
  {host : Host}

/-- A timer that runs did so before, or its task was spawned since. -/
theorem Acting.runs (path : Acting licence start inside turn host)
    (clockwork : start.host.Clockwork) {timer : Timer} {id : TaskId}
    (running : timer.Live host (some id)) :
    timer.Live start.host (some id) ∨ start.host.supervisor.nextId ≤ id := by
  let fact (moment : Moment) : Prop := moment.host.Clockwork ∧
    start.host.supervisor.nextId ≤ moment.host.supervisor.nextId ∧
    (timer.Live moment.host (some id) →
      timer.Live start.host (some id) ∨ start.host.supervisor.nextId ≤ id)
  have holds : fact ⟨inside, turn, host⟩ := by
    refine Acting.keeps fact (fun moment next act holds => ?_) path
      ⟨clockwork, Nat.le_refl _, .inl⟩
    obtain ⟨clockwork, issued, before⟩ := holds
    refine ⟨act.clockwork clockwork, Nat.le_trans issued act.onward.issued, fun live => ?_⟩
    rcases (act.tended clockwork.wired).runs live with old | ⟨fresh, -⟩
    · exact before old
    · exact .inr (Nat.le_trans issued fresh)
  exact holds.2.2 running

private theorem Roster.Shift.begins {roster next : Roster} {since : TaskId}
    (shift : Roster.Shift licence none roster next) (still : ¬licence.cycles)
    (seated : roster.Seated) (begins : roster.Begins since) : next.Begins since := by
  cases shift with
  | spawn name generation owner work =>
      intro task member later
      have below (id : TaskId) (placed : id ∈ roster.placed) : id ≠ roster.supervisor.nextId :=
        Nat.ne_of_lt (seated.placed id placed)
      rcases List.mem_append.mp member with old | new
      · have old := List.mem_of_mem_filter old
        obtain ⟨fresh, awake, asleep⟩ := begins task old later
        have apart := Nat.ne_of_lt (seated.tracked task old)
        refine ⟨fresh, ?_, asleep⟩
        rw [List.count_append, awake, List.count_singleton, if_neg (by simpa using Ne.symm apart)]
      · rw [List.mem_singleton.mp new]
        refine ⟨rfl, ?_, ?_⟩
        · have none : roster.supervisor.nextId ∉ roster.awake := fun placed =>
            below _ (List.mem_append_left _ placed) rfl
          simp [List.count_eq_zero_of_not_mem none]
        · have none : ∀ entry ∈ roster.asleep, entry.2 ≠ roster.supervisor.nextId :=
            fun entry placed => below _ (List.mem_append_right _ (List.mem_map_of_mem placed))
          simpa [Roster.dues, List.filter_eq_nil_iff] using none
  | drop keep => exact fun task member => begins task (List.mem_of_mem_filter member)
  | progress control point => cases control
  | sleep control due => cases control
  | advance licensed => exact absurd licensed still
  | schedule licensed => exact absurd licensed still

private theorem Roster.Shifts.begins {roster next : Roster} {since : TaskId}
    (shifts : Roster.Shifts licence none roster next) (still : ¬licence.cycles)
    (seated : roster.Seated) (begins : roster.Begins since) : next.Begins since := by
  induction shifts with
  | refl => exact begins
  | tail before shift previous =>
      exact shift.begins still (Shifts.seated before nofun seated) previous

/-- Between the turns of tasks, nothing is done to one that was spawned. -/
theorem Acting.begins (path : Acting licence start inside turn host) (idle : start.turn = none)
    (still : ¬licence.cycles) (alone : ∀ id, ¬licence.task id) (seated : start.Seated) :
    host.roster.Begins start.host.supervisor.nextId := by
  let fact (moment : Moment) : Prop := moment.turn = none ∧ moment.Seated ∧
    moment.host.roster.Begins start.host.supervisor.nextId
  have holds : fact ⟨inside, turn, host⟩ := by
    refine Acting.keeps fact (fun moment next act holds => ?_) path ⟨idle, seated, ?_⟩
    · obtain ⟨idle, seated, begins⟩ := holds
      have shifts := act.shifts
      rw [idle] at shifts
      refine ⟨?_, act.seated seated, shifts.begins still seated.roster begins⟩
      rcases act.control with same | given
      · exact same.trans idle
      · cases control : next.turn with
        | none => rfl
        | some id => exact absurd (given id control).1 (alone id)
    · exact fun task tracked since =>
        absurd (seated.roster.tracked task tracked) (Nat.not_lt_of_le since)
  exact holds.2.2

end Since

end HomeRules.Host
