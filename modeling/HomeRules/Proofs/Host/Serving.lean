import HomeRules.Host.Lines
import HomeRules.Proofs.Host.Looping

/-!
# Serving events

Everything a host does between two load cycles is a path of the changes that serve
events: it publishes, dispatches, runs actions, manages subscriptions, and gives
control to tasks. None of these steps moves the counter of generations, so what a
dispatch starts belongs to the generation that was current when the path began.
-/

set_option autoImplicit false

namespace HomeRules

theorem Supervisor.of_task? {supervisor : Supervisor} {id : TaskId} {task : Task}
    (found : supervisor.task? id = some task) : task ∈ supervisor.tasks ∧ task.id = id :=
  of_find?_key found

namespace Host

/-- A step that is one change extends every path. -/
theorem Keeps.ofChange {cycling : Bool} {start : Host} {α : Type} {step : Step α}
    (change : ∀ host, Change cycling host (after step host)) :
    Keeps (Reaches cycling start) step :=
  fun host path => path.tail (change host)

theorem Keeps.ofQuiet {cycling : Bool} {start : Host} {α : Type} {step : Step α}
    (same : ∀ host, (after step host).parts = host.parts) :
    Keeps (Reaches cycling start) step :=
  .ofChange fun host => .quiet (same host)

section Reaching

variable {cycling : Bool} {start : Host}

/-! ## The journal and the loops -/

theorem note_reaches (text : Note) : Keeps (Reaches cycling start) (note text) :=
  .ofQuiet fun _ => rfl

theorem warn_reaches (text : String) : Keeps (Reaches cycling start) (warn text) :=
  note_reaches _

theorem reaches_looping : Looping (Reaches cycling start) where
  still _ _ parts _ _ _ path := path.tail (.quiet parts)

theorem requestReload_reaches : Keeps (Reaches cycling start) requestReload :=
  reaches_looping.changeLoops _

theorem changeWorld_reaches (change : World → World) :
    Keeps (Reaches cycling start) (changeWorld change) :=
  .ofQuiet fun _ => rfl

/-! ## Tasks -/

theorem spawn_reaches (name : String) (generation : Generation) (owner : Option String)
    (work : Work) : Keeps (Reaches cycling start) (spawn name generation owner work) :=
  .ofChange fun _ => .spawn name generation owner work

theorem cancelTask_reaches (id : TaskId) : Keeps (Reaches cycling start) (cancelTask id) :=
  .ofChange fun _ => .cancelTask id

theorem cancelOwner_reaches (owner : String) :
    Keeps (Reaches cycling start) (cancelOwner owner) :=
  .ofChange fun _ => .cancelOwner owner

theorem warnOfTask_reaches (grace : Duration) (task : Task) :
    Keeps (Reaches cycling start) (warnOfTask grace task) := by
  unfold warnOfTask
  split
  · exact warn_reaches _
  · exact .option_forM (fun _ => warn_reaches _) _

theorem cancelAll_reaches (grace : Duration) :
    Keeps (Reaches cycling start) (cancelAll grace) :=
  .bind (.ofChange fun _ => .dropTasks) fun _ =>
    .bind (.forM (warnOfTask_reaches grace) _) fun _ => .pure _

/-! ## Managers -/

theorem changeGate_reaches (id : GateId) (change : Gate → Gate) :
    Keeps (Reaches cycling start) (changeGate id change) :=
  .ofChange fun _ => .gate id change

theorem manager_reaches (kind : ManagerKind) (generation : Generation) :
    Keeps (Reaches cycling start) (manager kind generation) := by
  refine .bind (.ofChange fun _ => .needManager kind generation) fun needed => ?_
  cases needed with
  | error error => exact .pure _
  | ok _ =>
      refine .get fun host path => ?_
      cases host.registry.manager? kind with
      | none => exact path
      | some manager => exact path

theorem reaches_striking : Striking (Reaches cycling start) where
  unsubscribe _ _ := .ofChange fun _ => .unsubscribe _ _
  records host _ path := path.tail (.keepRecords _ host.registry.resumed)

theorem resumeRegistry_reaches (generation : Generation) :
    Keeps (Reaches cycling start) (resumeRegistry generation) := by
  refine .get fun host path => ?_
  split
  · have resumed := path.tail (Change.keepRecords host.registry.registrations true)
    exact Keeps.forM (fun kind => .ofChange fun _ => .resumeManager kind) _ _ resumed
  · exact path

theorem stopRegistry_reaches : Keeps (Reaches cycling start) stopRegistry :=
  .get fun host path =>
    Keeps.bind (.mapM (fun kind => .ofChange fun _ => .stopManager kind) _) (fun _ => .pure _)
      host path

end Reaching

/-! ## Actions -/

section Serving

variable {start : Host} {publish : Publisher} {occasion : Occasion}

theorem attempt_reaches {run : Run Unit} (served : RunKeeps (Reaches false start) run) :
    Keeps (Reaches false start) (attempt run) := by
  refine .bind served fun result => ?_
  cases result with
  | ok _ => exact .pure _
  | error failure => exact .pure _

theorem perform_reaches (served : ∀ event, RunKeeps (Reaches false start) (publish event))
    (name : String) (payload : Payload) (command : Command) :
    RunKeeps (Reaches false start) (perform publish name payload command) := by
  cases command with
  | report => exact .lift (note_reaches _)
  | display => exact .lift (note_reaches _)
  | inform text => exact .lift (note_reaches _)
  | describe => exact .lift (note_reaches _)
  | setFlag flag value => exact .lift (changeWorld_reaches _)
  | setState entity state => exact .lift (changeWorld_reaches _)
  | publish event => exact .bind (served event) fun _ => .lift (note_reaches _)
  | requestReload => exact .lift requestReload_reaches
  | stopManagers => exact .bind (.lift stopRegistry_reaches) fun _ => .lift (note_reaches _)
  | fail failure => exact .throw failure

theorem defer_reaches (name : String) (work : Work) (outcome : Outcome) :
    Keeps (Reaches false start) (defer occasion name work outcome) := by
  refine .bind (spawn_reaches _ _ _ _) fun handle? => ?_
  cases handle? with
  | none => exact .pure _
  | some handle => exact .pure _

/-- What belongs to the generation of a path may be started on it. -/
theorem mark_reaches {deed : Deed} (current : deed.started? = some start.generation) :
    Keeps (Reaches false start) (mark deed) :=
  fun _ path => path.tail (.start deed (current.trans (congrArg some path.generation_eq.symm)))

mutual

theorem execute_reaches (served : ∀ event, RunKeeps (Reaches false start) (publish event))
    (current : occasion.generation = start.generation) (action : Action) (outcome : Outcome) :
    RunKeeps (Reaches false start) (execute publish occasion action outcome) := by
  cases action with
  | call name commands =>
      refine .bind (.lift (mark_reaches (congrArg some current))) fun _ =>
        .bind (.lift (attempt_reaches (.forM (perform_reaches served name _) _))) fun failure? => ?_
      cases failure? with
      | none => exact .pure _
      | some failure => exact .bind (.lift (warn_reaches _)) fun _ => .pure _
  | task name source =>
      refine .bind (.lift (mark_reaches (congrArg some current))) fun _ => ?_
      cases source with
      | job job => exact .lift (defer_reaches _ _ _)
      | panics message => exact .throw _
  | group name members => exact executeAll_reaches served current members outcome
  | after delay actions => exact .lift (defer_reaches _ _ _)

theorem executeAll_reaches (served : ∀ event, RunKeeps (Reaches false start) (publish event))
    (current : occasion.generation = start.generation) (actions : List Action)
    (outcome : Outcome) :
    RunKeeps (Reaches false start) (executeAll publish occasion actions outcome) := by
  cases actions with
  | nil => exact .pure _
  | cons action rest =>
      exact .bind (execute_reaches served current action outcome) fun outcome =>
        executeAll_reaches served current rest outcome

end

/-! ## Entries -/

theorem announce_reaches {generation : Generation} (current : generation = start.generation)
    (reached : Reached) : Keeps (Reaches false start) (announce generation reached) := by
  refine .bind (mark_reaches (congrArg some current)) fun _ =>
    .bind (.forM (fun _ => note_reaches _) _) fun _ => ?_
  split
  · exact warn_reaches _
  · exact .pure _

theorem restartOwner_reaches (owner : Option String) :
    Keeps (Reaches false start) (restartOwner owner) := by
  cases owner with
  | none => exact .pure _
  | some owner => exact cancelOwner_reaches owner

theorem runEntry_reaches (served : ∀ event, RunKeeps (Reaches false start) (publish event))
    (restart : Bool) (body : ConditionSchema) :
    RunKeeps (Reaches false start) (runEntry publish occasion restart body) := by
  refine .get fun host path => ?_
  dsimp only
  split
  case isTrue stale => exact path
  case isFalse live =>
    -- The occasion is of the generation in which the path began.
    have current : occasion.generation = start.generation :=
      (Decidable.not_not.mp live).symm.trans path.generation_eq
    refine RunKeeps.bind (.forM (fun item => .lift (announce_reaches current item)) _)
      (fun _ => ?_) host path
    split
    · exact .bind (.lift (restartOwner_reaches _)) fun _ => executeAll_reaches served current _ _
    · exact .bind (.pure _) fun _ => executeAll_reaches served current _ _

theorem dispatch_reaches (served : ∀ event, RunKeeps (Reaches false start) (publish event))
    (generation : Generation) (schema : EventSchema) (kind : EventKind) (payload : Payload) :
    RunKeeps (Reaches false start) (dispatch publish generation schema kind payload) := by
  unfold dispatch
  split
  · exact .pure _
  · exact runEntry_reaches served _ _

theorem evaluate_reaches (served : ∀ event, RunKeeps (Reaches false start) (publish event))
    (generation : Generation) (body : ConditionSchema) (payload : Payload) :
    RunKeeps (Reaches false start) (evaluate publish generation body payload) :=
  runEntry_reaches served _ _

/-! ## Events -/

/-- A gate that is not open turns a dispatch away. -/
theorem ran_dispatchInside_refused {delivery : Delivery} {host : Host}
    (refused : (host.gate delivery.gate).enter? = none) (payload : Payload) :
    ran (dispatchInside publish delivery payload) host = (.ok (), host) := by
  rw [dispatchInside, ran_get_bind, refused, ran_pure]

/-- A dispatch that is admitted leaves its gate whatever happens inside. -/
theorem ran_dispatchInside_admitted {delivery : Delivery} {host : Host} {entered : Gate}
    (admitted : (host.gate delivery.gate).enter? = some entered) (payload : Payload) :
    ran (dispatchInside publish delivery payload) host =
      Prod.map (Except.map fun _ => ()) (after (changeGate delivery.gate Gate.leave))
        (ran (dispatch publish delivery.generation delivery.schema delivery.kind payload)
          (after (changeGate delivery.gate fun _ => entered) host)) := by
  rw [dispatchInside, ran_get_bind, admitted]
  simp only [ran_lift_bind, after_attempt, answer_attempt]
  rw [ran_bind]
  generalize ran (dispatch publish delivery.generation delivery.schema delivery.kind payload)
    (after (changeGate delivery.gate fun _ => entered) host) = dispatched
  obtain ⟨result, next⟩ := dispatched
  cases result with
  | ok outcome => rfl
  | error failure => rfl

theorem dispatchInside_reaches (served : ∀ event, RunKeeps (Reaches false start) (publish event))
    (delivery : Delivery) (payload : Payload) :
    RunKeeps (Reaches false start) (dispatchInside publish delivery payload) := by
  refine .get fun host path => ?_
  cases (host.gate delivery.gate).enter? with
  | none => exact path
  | some entered =>
      refine RunKeeps.bind (.lift (changeGate_reaches _ _)) (fun _ => ?_) host path
      refine .bind (.lift (attempt_reaches ?_)) fun failure =>
        .bind (.lift (changeGate_reaches _ _)) fun _ => ?_
      · exact .bind (dispatch_reaches served _ _ _ _) fun _ => .pure _
      · cases failure with
        | none => exact .pure _
        | some failure => exact .throw _

theorem deliver_reaches (served : ∀ event, RunKeeps (Reaches false start) (publish event))
    (listeners : List (Listener Delivery)) (payload : Payload) :
    RunKeeps (Reaches false start) (deliver publish listeners payload) := by
  unfold deliver
  refine .forM (fun listener => ?_) listeners
  exact dispatchInside_reaches served listener.target payload

theorem publishWithin_reaches (depth : Nat) (event : Event) :
    RunKeeps (Reaches false start) (publishWithin depth event) := by
  induction depth generalizing event with
  | zero => exact .throw _
  | succ depth nested =>
      exact .get fun host path =>
        RunKeeps.bind (deliver_reaches nested _ _) (fun _ => .pure _) host path

theorem publish_reaches (event : Event) :
    RunKeeps (Reaches false start) (Host.publish event) :=
  publishWithin_reaches nestingLimit event

theorem receive_reaches (line : String) : RunKeeps (Reaches false start) (receive line) := by
  unfold receive
  split
  · exact .pure _
  · exact .pure _
  · exact .bind (.lift (changeWorld_reaches _)) fun _ =>
      .bind (publish_reaches _) fun _ => .pure _

/-! ## Running tasks -/

theorem progress_reaches (id : TaskId) (point : Progress) :
    Keeps (Reaches false start) (progress id point) :=
  .ofChange fun _ => .progress id point

theorem sleepTask_reaches (id : TaskId) (due rounds : Nat) :
    Keeps (Reaches false start) (sleepTask id due rounds) :=
  .bind (progress_reaches _ _) fun _ => .ofQuiet fun _ => rfl

theorem finishDelayed_reaches (task : Task) (actions : List Action) (payload : Payload) :
    Keeps (Reaches false start) (finishDelayed task actions payload) := by
  refine .get fun host path => ?_
  dsimp only
  split
  case isTrue live =>
    have current : task.generation = start.generation := live.symm.trans path.generation_eq
    refine Keeps.bind (attempt_reaches (.bind (executeAll_reaches publish_reaches current _ _)
      fun _ => .pure _)) (fun failure? => ?_) host path
    cases failure? with
    | none => exact progress_reaches _ _
    | some failure => exact progress_reaches _ _
  case isFalse => exact progress_reaches _ _ host path

theorem finishJob_reaches (task : Task) (job : Job) :
    Keeps (Reaches false start) (finishJob task job) := by
  refine .bind (.option_forM (fun _ => note_reaches _) _) fun _ => ?_
  cases job.ending with
  | completed => exact progress_reaches _ _
  | failed chain => exact .bind (warn_reaches _) fun _ => progress_reaches _ _
  | panicked message => exact progress_reaches _ _
  | never => exact progress_reaches _ _

theorem tick_reaches (task : Task) (delivery : Delivery) (period : Duration) (due rounds : Nat) :
    Keeps (Reaches false start) (tick task delivery period due rounds) := by
  refine .get fun host path => ?_
  cases (host.gate delivery.gate).enter? with
  | none => exact progress_reaches _ _ host path
  | some entered =>
      refine Keeps.bind (attempt_reaches (dispatchInside_reaches publish_reaches _ _))
        (fun failure? => ?_) host path
      cases failure? with
      | none => exact sleepTask_reaches _ _ _
      | some failure => exact progress_reaches _ _

theorem beginTask_reaches (task : Task) : Keeps (Reaches false start) (beginTask task) := by
  refine .get fun host path => ?_
  cases task.work with
  | delayed delay actions payload =>
      dsimp only
      split
      · exact finishDelayed_reaches task actions payload host path
      · exact sleepTask_reaches _ _ _ host path
  | job job payload =>
      refine Keeps.bind (.option_forM (fun _ => note_reaches _) _) (fun _ => ?_) host path
      split
      · exact finishJob_reaches task job
      · exact sleepTask_reaches _ _ _
  | timer gate schema kind period =>
      dsimp only
      split
      · exact sleepTask_reaches _ _ _ host path
      · exact progress_reaches _ _ host path

theorem continueTask_reaches (task : Task) (due rounds : Nat) :
    Keeps (Reaches false start) (continueTask task due rounds) := by
  unfold continueTask
  split
  · exact finishDelayed_reaches _ _ _
  · exact finishJob_reaches _ _
  · exact tick_reaches _ _ _ _ _

theorem runTask_reaches (id : TaskId) : Keeps (Reaches false start) (runTask id) := by
  refine .get fun host path => ?_
  cases found : host.supervisor.task? id with
  | none => exact path
  | some task =>
      obtain ⟨tracked, rfl⟩ := Supervisor.of_task? found
      have resumed := path.tail (Change.resume task tracked)
      dsimp only
      split
      · exact beginTask_reaches task _ resumed
      · exact continueTask_reaches task _ _ _ resumed
      · exact path

/-! ## Background work -/

theorem runReady_reaches (budget : Nat) : Keeps (Reaches false start) (runReady budget) := by
  have taken : Keeps (Reaches false start) takeBesideCycle := .ofQuiet fun _ => rfl
  exact runReady_keeps taken.leads runTask_reaches reaches_looping.continueLoop
    (fun _ _ path => path) budget

end Serving

end Host

end HomeRules
