import HomeRules.Host.Schedule
import HomeRules.Proofs.Host.Serving
import HomeRules.Proofs.Host.Wired

/-!
# Load cycles

Loading, reloading, shutting down and everything the schedule does are paths of
changes as well, once those of load cycles are allowed. Two of these changes ask for
more than that a step reaches them: when a cycle is done stopping no task is left,
and when it clears the registry no manager has a subscription.
-/

set_option autoImplicit false

namespace HomeRules.Host

/-- What serves events also does so inside a load cycle. -/
theorem Keeps.cycling {α : Type} {step : Step α}
    (served : ∀ start, Keeps (Reaches false start) step) {start : Host} :
    Keeps (Reaches true start) step :=
  fun host path => path.trans (served host host .refl).widen

section Cycling

variable {start : Host}

/-! ## Registering -/

theorem reaches_booking : Booking (Reaches true start) where
  toStriking := reaches_striking
  needManager kind generation := .ofChange fun _ => .needManager kind generation
  subscribe manager kind schema := .ofChange fun _ => .subscribe rfl manager kind schema

theorem register_reaches (script : String) (generation : Generation) (schema : EventSchema) :
    Keeps (Reaches true start) (register script generation schema) :=
  reaches_booking.register script generation schema

/-! ## Loading -/

theorem retract_reaches (context : LoadContext) :
    Keeps (Reaches true start) (retract context) :=
  reaches_striking.retract cancelTask_reaches context

theorem addSchema_reaches (draft : EventDraft) :
    ContextKeeps (Reaches true start) (addSchema draft) := by
  unfold addSchema
  split
  · exact .pure _
  · refine .bind .get fun context => .bind (.lift (register_reaches _ _ _)) fun result => ?_
    cases result with
    | error error => exact .pure _
    | ok handles => exact .bind (.set _) fun _ => .pure _

theorem addTask_reaches (name : String) (job : Job) :
    ContextKeeps (Reaches true start) (addTask name job) :=
  .bind .get fun _ => .bind (.lift (spawn_reaches _ _ _ _)) fun _ =>
    .bind (.set _) fun _ => .pure _

theorem withdraw_reaches : ContextKeeps (Reaches true start) withdraw :=
  .bind .get fun context => .bind (.lift (retract_reaches context)) fun _ => .set _

theorem requestOnce_reaches (name : String) (times : Nat) :
    Keeps (Reaches true start) (requestOnce name times) := by
  refine .get fun host path => ?_
  dsimp only
  split
  · exact Keeps.bind (note_reaches _) (fun _ => requestReload_reaches) _ (path.tail (.quiet rfl))
  · exact path

theorem known_reaches (draft : Except SchemaError EventDraft) :
    LoadKeeps (Reaches true start) (known draft) := by
  cases draft with
  | ok draft => exact .pure _
  | error error => exact .throw _

theorem loadStep_reaches (name : String) (step : LoadStep) :
    LoadKeeps (Reaches true start) (loadStep name step) := by
  cases step with
  | say text => exact .step (note_reaches _)
  | showSettings => exact .bind (.lift .get) fun _ => .step (note_reaches _)
  | showContext => exact .bind (.lift .get) fun _ => .step (note_reaches _)
  | register announced draft =>
      refine .bind (known_reaches draft) fun draft =>
        .bind (.lift (addSchema_reaches draft)) fun result => ?_
      cases result with
      | error error => exact .throw _
      | ok count =>
          dsimp only
          split
          · exact .step (note_reaches _)
          · exact .pure _
  | tryRegister draft =>
      exact .bind (known_reaches draft) fun draft =>
        .bind (.lift (addSchema_reaches draft)) fun _ => .step (note_reaches _)
  | spawn announced task job =>
      refine .bind (.lift (addTask_reaches task job)) fun spawned => ?_
      split
      · exact .step (note_reaches _)
      · exact .pure _
  | retract =>
      exact .bind (.lift withdraw_reaches) fun _ => .bind (.lift .get) fun _ =>
        .step (note_reaches _)
  | requestReload times => exact .step (requestOnce_reaches name times)
  | stopManagers => exact .bind (.step stopRegistry_reaches) fun _ => .step (note_reaches _)
  | askManager kind =>
      exact .bind (.lift .get) fun _ => .bind (.step (manager_reaches kind _)) fun _ =>
        .step (note_reaches _)
  | publish event =>
      refine .bind (.step (Keeps.cycling fun _ => publish_reaches event)) fun result => ?_
      cases result with
      | ok count => exact .step (note_reaches _)
      | error failure => exact .throw _
  | fail failure => exact .throw _

theorem loadNative_reaches (native : NativeScript) :
    LoadKeeps (Reaches true start) (loadNative native) :=
  .bind (.lift .get) fun _ => .adapt _ (.forM (loadStep_reaches native.name) _)

theorem loadRules_reaches (draft : EventDraft) :
    LoadKeeps (Reaches true start) (loadRules draft) := by
  unfold loadRules
  split
  · exact .pure _
  · refine .bind (.lift .get) fun _ => .bind (.lift (addSchema_reaches draft)) fun result => ?_
    split
    · exact .throw _
    · exact .throw _
    · exact .pure _

theorem loadSource_reaches (source : ScriptSource) :
    LoadKeeps (Reaches true start) (loadSource source) := by
  refine .bind (.step fun _ path => path) fun host => .bind (.except _) fun rules =>
    .bind (.lift (.modify _)) fun _ => .bind (loadRules_reaches _) fun _ => ?_
  split
  · exact .pure _
  · split
    · exact .throw _
    · exact .bind (loadNative_reaches _) fun _ => .pure _

theorem loadFile_reaches (generation : Generation) (path : String) :
    Keeps (Reaches true start) (loadFile generation path) := by
  refine .get fun host reached => ?_
  cases ScriptSource.read host.tree path with
  | error error => exact Keeps.bind (warn_reaches _) (fun _ => .pure _) _ reached
  | ok source =>
      refine Keeps.bind (loadSource_reaches source _) (fun loaded => ?_) _ reached
      dsimp only
      split
      · exact .pure _
      · exact .bind (retract_reaches loaded.2) fun _ => .bind (warn_reaches _) fun _ => .pure _

theorem loadAll_reaches (generation : Generation) :
    Keeps (Reaches true start) (loadAll generation) :=
  .get fun host path =>
    Keeps.bind (.mapM (loadFile_reaches generation) _) (fun _ => .pure _) host path

/-! ## Stopping and unloading -/

theorem enterPhase_reaches (phase : CyclePhase) :
    Keeps (Reaches true start) (enterPhase phase) :=
  .ofQuiet fun _ => rfl

/-- When all tasks were cancelled, none is left. -/
theorem cancelAll_tasks (grace : Duration) (host : Host) :
    (after (cancelAll grace) host).supervisor.tasks = [] := by
  have kept : Keeps (fun host => host.supervisor.tasks = []) (host.supervisor.tasks.forM
      (warnOfTask grace)) := by
    refine .forM (fun task => ?_) _
    unfold warnOfTask
    split
    · exact fun _ holds => holds
    · exact .option_forM (fun _ _ holds => holds) _
  exact kept { host with supervisor := host.supervisor.cancelAll.1 } rfl

/-- What a stopping cycle has done when it cancels the tasks. -/
theorem stop_reaches (budget : Nat) : Keeps (Reaches true start) (stop budget) := by
  refine .bind stopRegistry_reaches fun inFlight =>
    .bind (.cycling fun _ => runReady_reaches budget) fun _ => ?_
  refine .get fun host path => ?_
  have cancelled := cancelAll_reaches host.reloading.stopGrace host path
  have idle := cancelAll_tasks host.reloading.stopGrace host
  exact cancelled.tail (.halt rfl idle)

theorem stop_tasks (budget : Nat) (host : Host) :
    (after (stop budget) host).supervisor.tasks = [] :=
  cancelAll_tasks _ _

/-- After a stop no manager has a subscription. -/
theorem stop_unsubscribed (budget : Nat) (host : Host) :
    (after (stop budget) host).wiring.Unsubscribed := by
  have start : Reaches false (after stopRegistry host) (after stopRegistry host) := .refl
  have ready := runReady_reaches budget _ start
  exact (cancelAll_reaches _ _ ready).unsubscribed (stopRegistry_unsubscribed host)

theorem unloadStep_reaches (step : UnloadStep) :
    RunKeeps (Reaches false start) (unloadStep step) := by
  cases step with
  | say text => exact .lift (note_reaches _)
  | publish event => exact .bind (publish_reaches event) fun _ => .lift (note_reaches _)
  | askManager kind =>
      exact .get fun host path =>
        RunKeeps.bind (.lift (manager_reaches kind _)) (fun _ => .lift (note_reaches _)) host path
  | panic message => exact .throw _

theorem unloadScript_reaches (script : LoadedScript) :
    Keeps (Reaches false start) (unloadScript script) := by
  unfold unloadScript
  split
  · exact .pure _
  · refine .bind (attempt_reaches (.forM unloadStep_reaches _)) fun failure? => ?_
    split
    · exact warn_reaches _
    · exact .pure _

/-- What a path has led to once everything was stopped. -/
def Stopped (start host : Host) : Prop :=
  Reaches true start host ∧ host.wiring.Unsubscribed

theorem stop_leads (budget : Nat) :
    Leads (Reaches true start) (stop budget) fun _ => Stopped start :=
  fun host path => ⟨stop_reaches budget host path, stop_unsubscribed budget host⟩

/-- Unloading clears the registry, which asks for managers without subscriptions. -/
theorem unloadAll_leads : Leads (Stopped start) unloadAll fun _ => Reaches true start := by
  intro host stopped
  obtain ⟨path, unsubscribed⟩ := stopped
  have emptied : Reaches false host { host with arena := [] } := .single (.quiet rfl)
  have unloaded := Keeps.forM unloadScript_reaches host.arena _ emptied
  exact (path.trans unloaded.widen).tail (.clear rfl (unloaded.unsubscribed unsubscribed))

/-! ## Whole cycles -/

/-- What is reported of a cycle changes nothing of it. -/
theorem finishCycle_parts (report : CycleReport) (host : Host) :
    (after (finishCycle report) host).parts = host.parts := by
  have kept : Keeps (fun later => later.parts = host.parts) (finishCycle report) :=
    .bind (warnOf_keeps (fun _ _ same => same) report) fun _ =>
      .bind (fun _ same => same) fun _ _ same => same
  exact kept host rfl

theorem finishCycle_reaches (report : CycleReport) :
    Keeps (Reaches true start) (finishCycle report) :=
  .ofQuiet (finishCycle_parts report)

theorem advanceGeneration_reaches : Keeps (Reaches true start) advanceGeneration :=
  .ofChange fun _ => .advance rfl

theorem enterPhase_stopped (phase : CyclePhase) : Keeps (Stopped start) (enterPhase phase) :=
  fun host stopped => ⟨enterPhase_reaches phase host stopped.1, stopped.2⟩

theorem runCycle_reaches (budget : Nat) : Keeps (Reaches true start) (runCycle budget) := by
  refine .read fun host => ?_
  split
  · exact .pure _
  refine .bind advanceGeneration_reaches fun generation => .bind (enterPhase_reaches _) fun _ => ?_
  refine .ofLeads (.bind (stop_leads budget) fun timeouts =>
    .bind (enterPhase_stopped _).leads fun _ => .bind unloadAll_leads fun _ => Keeps.leads ?_)
  refine .bind (enterPhase_reaches _) fun _ => .bind (loadAll_reaches _) fun loaded =>
    .bind (.cycling fun _ => runReady_reaches budget) fun _ => ?_
  split
  · exact .pure _
  · exact .bind (.ofQuiet fun _ => rfl) fun _ => .bind (resumeRegistry_reaches _) fun _ =>
      .bind (finishCycle_reaches _) fun _ => .pure _

theorem shutDown_reaches (budget : Nat) : Keeps (Reaches true start) (shutDown budget) := by
  refine .bind (reaches_looping.changeLoops _) fun _ => .bind advanceGeneration_reaches fun _ =>
    .bind (enterPhase_reaches _) fun _ => ?_
  exact .ofLeads (.bind (stop_leads budget) fun timeouts =>
    .bind (enterPhase_stopped _).leads fun _ => .bind unloadAll_leads fun _ =>
    (enterPhase_reaches _).leads)

/-! ## The schedule -/

theorem reaches_recurring : Recurring (Reaches true start) where
  toLooping := reaches_looping
  runCycle := runCycle_reaches
  shutDown := shutDown_reaches

theorem runWorker_reaches (budget : Nat) (worker : Worker) :
    Keeps (Reaches true start) (runWorker budget worker) := by
  cases worker with
  | task id => exact .cycling fun _ => runTask_reaches id
  | _ => exact reaches_recurring.runWorker budget rfl

theorem reaches_scheduling : Scheduling (Reaches true start) fun _ => Reaches true start where
  take := by
    intro host path
    refine path.tail (.quiet ?_)
    rw [takeReady, after_modifyGet]
    split <;> rfl
  work := runWorker_reaches
  idle _ path := path
  pass _ _ path _ := path.tail (.quiet rfl)

end Cycling

end HomeRules.Host
