import HomeRules.Host.Lines
import HomeRules.Proofs.Host.Tracking

/-!
# Acts

What a host does, in steps that are small enough to see the dispatches under way, the task
that has control, and the time. Serving events and running tasks takes a host along a path of
acts, and every host on the way is on the path too. A fact that acts keep is therefore not even
broken in the middle of a dispatch.
-/

set_option autoImplicit false

namespace HomeRules

/-- The gate through which work dispatches ticks. -/
def Work.gate? : Work → Option GateId
  | .timer gate _ _ _ => some gate
  | _ => none

namespace Host

/-! ## Moments and acts -/

/-- The parts of a host that managers and tasks live in. -/
structure Services where
  generation : Generation
  bus : Bus Delivery
  gates : List Gate
  supervisor : Supervisor
  registry : Registry

def services (host : Host) : Services where
  generation := host.generation
  bus := host.bus
  gates := host.gates
  supervisor := host.supervisor
  registry := host.registry

theorem services_of_parts {host next : Host} (same : next.parts = host.parts) :
    next.services = host.services := by
  simp only [parts, core, Parts.mk.injEq, Core.mk.injEq] at same
  obtain ⟨⟨-, generation, supervisor, -⟩, bus, gates, registry⟩ := same
  simp only [services, generation, supervisor, bus, gates, registry]

/-- The parts of a host that acts are about. -/
structure Works where
  services : Services
  clock : Nat
  agenda : Agenda
  loops : ReloadLoops
  runner : Runner

def works (host : Host) : Works where
  services := host.services
  clock := host.clock
  agenda := host.agenda
  loops := host.loops
  runner := host.runner

/-- A host, the gates of the dispatches under way, the innermost first, and the task that
has control. -/
structure Moment where
  inside : List GateId
  turn : Option TaskId
  host : Host

def Moment.next {α : Type} (moment : Moment) (step : Step α) : Moment :=
  { moment with host := after step moment.host }

/-- What may happen: which tasks are given control, whether timers are spawned by others than
managers, whether the loops, the watcher and the runner move, and whether load cycles run and
time passes. -/
structure Licence where
  task : TaskId → Prop
  timers : Prop
  loops : Prop
  cycles : Prop

inductive Act (licence : Licence) (moment : Moment) : Moment → Prop where
  | beside {next : Host} (same : next.works = moment.host.works) :
      Act licence moment { moment with host := next }
  | request : Act licence moment (moment.next requestReload)
  | spawn (name : String) (generation : Generation) (owner : Option String) (work : Work)
      (plain : work.gate? = none ∨ licence.timers) :
      Act licence moment (moment.next (Host.spawn name generation owner work))
  | cancelTask (id : TaskId) : Act licence moment (moment.next (Host.cancelTask id))
  | cancelOwner (owner : String) : Act licence moment (moment.next (Host.cancelOwner owner))
  | dropTasks : Act licence moment { moment with
      host := { moment.host with supervisor := moment.host.supervisor.cancelAll.1 } }
  | resume (idle : moment.turn = none) (task : Task)
      (tracked : task ∈ moment.host.supervisor.tasks) (licensed : licence.task task.id) :
      Act licence moment { moment with turn := some task.id }
  | progress {id : TaskId} (turn : moment.turn = some id) (point : Progress) :
      Act licence moment (moment.next (Host.progress id point))
  | sleep {id : TaskId} (turn : moment.turn = some id) (due : Nat) :
      Act licence moment (moment.next (sleepUntil due (.task id)))
  | pause : Act licence moment { moment with turn := none }
  | enter {gate : GateId} {entered : Gate}
      (admitted : (moment.host.gate gate).enter? = some entered) :
      Act licence moment { moment with
        inside := gate :: moment.inside
        host := after (changeGate gate fun _ => entered) moment.host }
  | leave {gate : GateId} {others : List GateId} (inside : moment.inside = gate :: others) :
      Act licence moment { moment with
        inside := others, host := after (changeGate gate Gate.leave) moment.host }
  | resumeManager (kind : ManagerKind) : Act licence moment (moment.next (Host.resumeManager kind))
  | needManager (kind : ManagerKind) (generation : Generation) :
      Act licence moment (moment.next (Host.needManager kind generation))
  | subscribe (manager : ManagerKind) (kind : EventKind) (schema : EventSchema) :
      Act licence moment (moment.next (Host.subscribe manager kind schema))
  | unsubscribe (kind : ManagerKind) (id : Nat) :
      Act licence moment (moment.next (Host.unsubscribe kind id))
  | stopManager (kind : ManagerKind) : Act licence moment (moment.next (Host.stopManager kind))
  | keepRecords (registrations : List Registration) (resumed : Bool) :
      Act licence moment { moment with
        host := { moment.host with
          registry := { moment.host.registry with registrations, resumed } } }
  | clear (unsubscribed : moment.host.wiring.Unsubscribed) :
      Act licence moment (moment.next clearRegistry)
  | advance (licensed : licence.cycles) : Act licence moment (moment.next advanceGeneration)
  | loops {next : Host} (licensed : licence.loops)
      (same : next.services = moment.host.services) (still : next.clock = moment.host.clock)
      (awake : next.agenda.awake = moment.host.agenda.awake)
      (asleep : next.agenda.asleep = moment.host.agenda.asleep) :
      Act licence moment { moment with host := next }
  | schedule {next : Host} (licensed : licence.cycles)
      (same : next.services = moment.host.services) (later : moment.host.clock ≤ next.clock)
      (fewer : next.agenda.tasks ⊆ moment.host.agenda.tasks) :
      Act licence moment { moment with host := next }

/-- A path of acts leads from one moment to another. -/
abbrev Acting (licence : Licence) (start : Moment) (inside : List GateId)
    (turn : Option TaskId) (host : Host) : Prop :=
  Relation.ReflTransGen (Act licence) start ⟨inside, turn, host⟩

/-- What each act keeps is kept by every path of acts. -/
theorem Acting.keeps {licence : Licence} (fact : Moment → Prop)
    (kept : ∀ moment next, Act licence moment next → fact moment → fact next)
    {start moment : Moment} (path : Relation.ReflTransGen (Act licence) start moment)
    (holds : fact start) : fact moment := by
  induction path with
  | refl => exact holds
  | tail _ act previous => exact kept _ _ act previous

section Serving

variable {licence : Licence} {start : Moment} {inside : List GateId} {turn : Option TaskId}

private theorem Keeps.ofAct {α : Type} {step : Step α}
    (act : ∀ host, Act licence ⟨inside, turn, host⟩ ⟨inside, turn, after step host⟩) :
    Keeps (Acting licence start inside turn) step :=
  fun host path => path.tail (act host)

theorem Keeps.ofBeside {α : Type} {step : Step α}
    (same : ∀ host, (after step host).works = host.works) :
    Keeps (Acting licence start inside turn) step :=
  .ofAct fun host => .beside (same host)

theorem note_acts (text : Note) : Keeps (Acting licence start inside turn) (note text) :=
  .ofBeside fun _ => rfl

theorem changeWorld_acts (change : World → World) :
    Keeps (Acting licence start inside turn) (changeWorld change) :=
  .ofBeside fun _ => rfl

theorem requestReload_acts : Keeps (Acting licence start inside turn) requestReload :=
  .ofAct fun _ => .request

/-! ## Tasks -/

theorem spawn_acts (name : String) (generation : Generation) (owner : Option String)
    {work : Work} (plain : work.gate? = none ∨ licence.timers) :
    Keeps (Acting licence start inside turn) (spawn name generation owner work) :=
  .ofAct fun _ => .spawn name generation owner work plain

theorem cancelTask_acts (id : TaskId) :
    Keeps (Acting licence start inside turn) (cancelTask id) :=
  .ofAct fun _ => .cancelTask id

theorem cancelAll_acts (grace : Duration) :
    Keeps (Acting licence start inside turn) (cancelAll grace) := by
  refine .bind (.ofAct fun _ => .dropTasks) fun tasks => .bind (.forM (fun task => ?_) tasks)
    fun _ => .pure _
  unfold warnOfTask
  split
  · exact note_acts _
  · exact .option_forM (fun _ => note_acts _) _

/-! ## Managers -/

theorem manager_acts (kind : ManagerKind) (generation : Generation) :
    Keeps (Acting licence start inside turn) (manager kind generation) := by
  refine .bind (.ofAct fun _ => .needManager kind generation) fun needed => ?_
  cases needed with
  | error error => exact .pure _
  | ok _ =>
      apply Keeps.read
      intro host
      cases host.registry.manager? kind with
      | none => exact .pure _
      | some manager => exact .pure _

theorem acting_booking : Booking (Acting licence start inside turn) where
  unsubscribe kind id := .ofAct fun _ => .unsubscribe kind id
  records host _ path := path.tail (.keepRecords _ host.registry.resumed)
  needManager kind generation := .ofAct fun _ => .needManager kind generation
  subscribe manager kind schema := .ofAct fun _ => .subscribe manager kind schema

theorem resumeRegistry_acts (generation : Generation) :
    Keeps (Acting licence start inside turn) (resumeRegistry generation) := by
  refine .get fun host path => ?_
  split
  · have resumed := path.tail (Act.keepRecords host.registry.registrations true)
    exact Keeps.forM (fun kind => .ofAct fun _ => .resumeManager kind) _ _ resumed
  · exact path

theorem stopRegistry_acts : Keeps (Acting licence start inside turn) stopRegistry :=
  .read fun _ => .bind (.mapM (fun kind => .ofAct fun _ => .stopManager kind) _) fun _ => .pure _

/-! ## Actions -/

theorem perform_acts {publish : Publisher}
    (served : ∀ event, RunKeeps (Acting licence start inside turn) (publish event))
    (name : String) (payload : Payload) (command : Command) :
    RunKeeps (Acting licence start inside turn) (perform publish name payload command) := by
  cases command with
  | publish event => exact .bind (served event) fun _ => .lift (note_acts _)
  | requestReload => exact .lift requestReload_acts
  | stopManagers => exact .bind (.lift stopRegistry_acts) fun _ => .lift (note_acts _)
  | fail failure => exact .throw failure
  | setFlag flag value => exact .lift (changeWorld_acts _)
  | setState entity state => exact .lift (changeWorld_acts _)
  | _ => exact .lift (note_acts _)

theorem defer_acts (occasion : Occasion) (name : String) {work : Work}
    (plain : work.gate? = none) (outcome : Outcome) :
    Keeps (Acting licence start inside turn) (defer occasion name work outcome) := by
  refine .bind (spawn_acts _ _ _ (.inl plain)) fun handle? => ?_
  cases handle? with
  | none => exact .pure _
  | some handle => exact .pure _

mutual

theorem execute_acts {publish : Publisher}
    (served : ∀ event, RunKeeps (Acting licence start inside turn) (publish event))
    (occasion : Occasion) (action : Action) (outcome : Outcome) :
    RunKeeps (Acting licence start inside turn) (execute publish occasion action outcome) := by
  cases action with
  | call name commands =>
      refine .bind (.lift (.ofBeside fun _ => rfl)) fun _ =>
        .bind (.lift (RunKeeps.forM (perform_acts served name _) commands).attempt)
          fun failure? => ?_
      cases failure? with
      | none => exact .pure _
      | some failure => exact .bind (.lift (note_acts _)) fun _ => .pure _
  | task name source =>
      refine .bind (.lift (.ofBeside fun _ => rfl)) fun _ => ?_
      cases source with
      | job job => exact .lift (defer_acts _ _ rfl _)
      | panics message => exact .throw _
  | group name members => exact executeAll_acts served occasion members outcome
  | after delay actions => exact .lift (defer_acts _ _ rfl _)

theorem executeAll_acts {publish : Publisher}
    (served : ∀ event, RunKeeps (Acting licence start inside turn) (publish event))
    (occasion : Occasion) (actions : List Action) (outcome : Outcome) :
    RunKeeps (Acting licence start inside turn) (executeAll publish occasion actions outcome) := by
  cases actions with
  | nil => exact .pure _
  | cons action rest =>
      exact .bind (execute_acts served occasion action outcome) fun outcome =>
        executeAll_acts served occasion rest outcome

end

/-! ## Entries -/

theorem announce_acts (generation : Generation) (reached : Reached) :
    Keeps (Acting licence start inside turn) (announce generation reached) := by
  refine .bind (.ofBeside fun _ => rfl) fun _ =>
    .bind (.forM (fun _ => note_acts _) _) fun _ => ?_
  split
  · exact note_acts _
  · exact .pure _

theorem restartOwner_acts (owner : Option String) :
    Keeps (Acting licence start inside turn) (restartOwner owner) := by
  cases owner with
  | none => exact .pure _
  | some owner => exact .ofAct fun _ => .cancelOwner owner

theorem runEntry_acts {publish : Publisher}
    (served : ∀ event, RunKeeps (Acting licence start inside turn) (publish event))
    (occasion : Occasion) (restart : Bool) (body : ConditionSchema) :
    RunKeeps (Acting licence start inside turn) (runEntry publish occasion restart body) := by
  apply RunKeeps.get
  intro host path
  dsimp only
  split
  · exact path
  · refine RunKeeps.bind (.forM (fun item => .lift (announce_acts _ item)) _) (fun _ => ?_)
      host path
    split
    · exact .bind (.lift (restartOwner_acts _)) fun _ => executeAll_acts served _ _ _
    · exact .bind (.pure _) fun _ => executeAll_acts served _ _ _

theorem dispatch_acts {publish : Publisher}
    (served : ∀ event, RunKeeps (Acting licence start inside turn) (publish event))
    (generation : Generation) (schema : EventSchema) (kind : EventKind) (payload : Payload) :
    RunKeeps (Acting licence start inside turn)
      (dispatch publish generation schema kind payload) := by
  unfold dispatch
  split
  · exact .pure _
  · exact runEntry_acts served _ _ _

/-! ## Events -/

theorem dispatchInside_acts {publish : Publisher}
    (served : ∀ inside event, RunKeeps (Acting licence start inside turn) (publish event))
    (delivery : Delivery) (payload : Payload) :
    RunKeeps (Acting licence start inside turn) (dispatchInside publish delivery payload) := by
  intro host path
  change Acting licence start inside turn
    (ran (dispatchInside publish delivery payload) host).2
  cases admitted : (host.gate delivery.gate).enter? with
  | none =>
      rw [ran_dispatchInside_refused admitted]
      exact path
  | some entered =>
      have entering : Acting licence start (delivery.gate :: inside) turn
          (after (changeGate delivery.gate fun _ => entered) host) :=
        path.tail (.enter admitted)
      have dispatched := dispatch_acts (served _) delivery.generation delivery.schema
        delivery.kind payload _ entering
      rw [ran_dispatchInside_admitted admitted]
      exact dispatched.tail (.leave rfl)

theorem publishWithin_acts (depth : Nat) (inside : List GateId) (event : Event) :
    RunKeeps (Acting licence start inside turn) (publishWithin depth event) := by
  induction depth generalizing inside event with
  | zero => exact .throw _
  | succ depth nested =>
      apply RunKeeps.get
      intro host path
      have delivered : RunKeeps (Acting licence start inside turn)
          (deliver (publishWithin depth) (host.bus.listenersTo event.kind) event.payload) := by
        unfold deliver
        refine .forM (fun listener => ?_) _
        exact dispatchInside_acts nested listener.target event.payload
      exact RunKeeps.bind delivered (fun _ => .pure _) host path

theorem publish_acts (inside : List GateId) (event : Event) :
    RunKeeps (Acting licence start inside turn) (Host.publish event) :=
  publishWithin_acts nestingLimit inside event

theorem receive_acts (line : String) :
    RunKeeps (Acting licence start inside turn) (receive line) := by
  unfold receive
  split
  · exact .pure _
  · exact .pure _
  · exact .bind (.lift (changeWorld_acts _)) fun _ =>
      .bind (publish_acts inside _) fun _ => .pure _

/-! ## Running tasks -/

variable {id : TaskId}

theorem progress_acts (point : Progress) :
    Keeps (Acting licence start inside (some id)) (progress id point) :=
  .ofAct fun _ => .progress rfl point

theorem sleepTask_acts (due rounds : Nat) :
    Keeps (Acting licence start inside (some id)) (sleepTask id due rounds) :=
  .bind (progress_acts _) fun _ => .ofAct fun _ => .sleep rfl due

theorem finishDelayed_acts (task : Task) (actions : List Action) (payload : Payload) :
    Keeps (Acting licence start inside (some task.id)) (finishDelayed task actions payload) := by
  apply Keeps.read
  intro host
  dsimp only
  split
  · have executed (occasion : Occasion) : Keeps (Acting licence start inside (some task.id))
        (attempt do
          let _ ← executeAll Host.publish occasion actions {}
          return ()) :=
      (RunKeeps.bind (executeAll_acts (publish_acts inside) _ _ _) fun _ => .pure _).attempt
    refine .bind (executed _) fun failure? => ?_
    cases failure? with
    | none => exact progress_acts _
    | some failure => exact progress_acts _
  · exact progress_acts _

theorem finishJob_acts (task : Task) (job : Job) :
    Keeps (Acting licence start inside (some task.id)) (finishJob task job) := by
  refine .bind (.option_forM (fun _ => note_acts _) _) fun _ => ?_
  cases job.ending with
  | completed => exact progress_acts _
  | failed chain => exact .bind (note_acts _) fun _ => progress_acts _
  | panicked message => exact progress_acts _
  | never => exact progress_acts _

theorem tick_acts (task : Task) (delivery : Delivery) (period : Duration) (due rounds : Nat) :
    Keeps (Acting licence start inside (some task.id))
      (tick task delivery period due rounds) := by
  apply Keeps.read
  intro host
  cases (host.gate delivery.gate).enter? with
  | none => exact progress_acts _
  | some entered =>
      refine .bind (dispatchInside_acts publish_acts _ _).attempt fun failure? => ?_
      cases failure? with
      | none => exact sleepTask_acts _ _
      | some failure => exact progress_acts _

theorem beginTask_acts (task : Task) :
    Keeps (Acting licence start inside (some task.id)) (beginTask task) := by
  apply Keeps.read
  intro host
  cases task.work with
  | delayed delay actions payload =>
      dsimp only
      split
      · exact finishDelayed_acts task actions payload
      · exact sleepTask_acts _ _
  | job job payload =>
      refine .bind (.option_forM (fun _ => note_acts _) _) fun _ => ?_
      split
      · exact finishJob_acts task job
      · exact sleepTask_acts _ _
  | timer gate schema kind period =>
      dsimp only
      split
      · exact sleepTask_acts _ _
      · exact progress_acts _

theorem continueTask_acts (task : Task) (due rounds : Nat) :
    Keeps (Acting licence start inside (some task.id)) (continueTask task due rounds) := by
  unfold continueTask
  split
  · exact finishDelayed_acts _ _ _
  · exact finishJob_acts _ _
  · exact tick_acts _ _ _ _ _

/-- A tracked task is given control, does its steps, and gives control back. -/
theorem runTask_acts (licensed : licence.task id) :
    Keeps (Acting licence start inside none) (runTask id) := by
  apply Keeps.get
  intro host path
  cases found : host.supervisor.task? id with
  | none => exact path
  | some task =>
      obtain ⟨tracked, rfl⟩ := Supervisor.of_task? found
      have marked : Acting licence start inside (some task.id)
          (after (mark (.resumed task.generation task.id)) host) :=
        (path.tail (.resume rfl task tracked licensed)).tail (.beside rfl)
      dsimp only
      split
      · exact (beginTask_acts task _ marked).tail .pause
      · exact (continueTask_acts task _ _ _ marked).tail .pause
      · exact path

end Serving

end Host

end HomeRules
