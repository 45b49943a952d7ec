import HomeRules.Proofs.Host.Acts
import HomeRules.Proofs.Host.Runs

/-!
# The acts of a run

Loading, load cycles, the schedule, and whatever else is done to a host from outside are paths
of acts as well.
-/

set_option autoImplicit false

namespace HomeRules.Host

section Loading

variable {licence : Licence} {start : Moment} {inside : List GateId} {turn : Option TaskId}

/-! ## Loading -/

theorem retract_acts (context : LoadContext) :
    Keeps (Acting licence start inside turn) (retract context) :=
  acting_booking.retract cancelTask_acts context

theorem addSchema_acts (draft : EventDraft) :
    ContextKeeps (Acting licence start inside turn) (addSchema draft) := by
  unfold addSchema
  split
  · exact .pure _
  · refine .bind .get fun context => .bind (.lift (acting_booking.register _ _ _)) fun result => ?_
    cases result with
    | error error => exact .pure _
    | ok handles => exact .bind (.set _) fun _ => .pure _

theorem addTask_acts (name : String) (job : Job) :
    ContextKeeps (Acting licence start inside turn) (addTask name job) :=
  .bind .get fun _ => .bind (.lift (spawn_acts _ _ _ (.inl rfl))) fun _ =>
    .bind (.set _) fun _ => .pure _

theorem requestOnce_acts (name : String) (times : Nat) :
    Keeps (Acting licence start inside turn) (requestOnce name times) := by
  apply Keeps.get
  intro host path
  dsimp only
  split
  · have counted : Acting licence start inside turn { host with
        requests := host.requests.insert name ((host.requests.get? name).getD 0 + 1) } :=
      path.tail (.beside rfl)
    exact Keeps.bind (note_acts _) (fun _ => requestReload_acts) _ counted
  · exact path

theorem loadStep_acts (name : String) (step : LoadStep) :
    LoadKeeps (Acting licence start inside turn) (loadStep name step) := by
  have known (draft : Except SchemaError EventDraft) :
      LoadKeeps (Acting licence start inside turn) (known draft) := by
    cases draft with
    | ok draft => exact .pure _
    | error error => exact .throw _
  cases step with
  | say text => exact .step (note_acts _)
  | showSettings => exact .bind (.lift .get) fun _ => .step (note_acts _)
  | showContext => exact .bind (.lift .get) fun _ => .step (note_acts _)
  | register announced draft =>
      refine .bind (known draft) fun draft =>
        .bind (.lift (addSchema_acts draft)) fun result => ?_
      cases result with
      | error error => exact .throw _
      | ok count =>
          dsimp only
          split
          · exact .step (note_acts _)
          · exact .pure _
  | tryRegister draft =>
      exact .bind (known draft) fun draft =>
        .bind (.lift (addSchema_acts draft)) fun _ => .step (note_acts _)
  | spawn announced task job =>
      refine .bind (.lift (addTask_acts task job)) fun spawned => ?_
      split
      · exact .step (note_acts _)
      · exact .pure _
  | retract =>
      have withdrawn : ContextKeeps (Acting licence start inside turn) withdraw :=
        .bind .get fun context => .bind (.lift (retract_acts context)) fun _ => .set _
      exact .bind (.lift withdrawn) fun _ => .bind (.lift .get) fun _ => .step (note_acts _)
  | requestReload times => exact .step (requestOnce_acts name times)
  | stopManagers => exact .bind (.step stopRegistry_acts) fun _ => .step (note_acts _)
  | askManager kind =>
      exact .bind (.lift .get) fun _ => .bind (.step (manager_acts kind _)) fun _ =>
        .step (note_acts _)
  | publish event =>
      refine .bind (.step (publish_acts inside event)) fun result => ?_
      cases result with
      | ok count => exact .step (note_acts _)
      | error failure => exact .throw _
  | fail failure => exact .throw _

theorem loadRules_acts (draft : EventDraft) :
    LoadKeeps (Acting licence start inside turn) (loadRules draft) := by
  unfold loadRules
  split
  · exact .pure _
  · refine .bind (.lift .get) fun _ => .bind (.lift (addSchema_acts draft)) fun result => ?_
    split
    · exact .throw _
    · exact .throw _
    · exact .pure _

theorem loadSource_acts (source : ScriptSource) :
    LoadKeeps (Acting licence start inside turn) (loadSource source) := by
  have native (native : NativeScript) :
      LoadKeeps (Acting licence start inside turn) (loadNative native) :=
    .bind (.lift .get) fun _ => .adapt _ (.forM (loadStep_acts native.name) _)
  refine .bind (.step fun _ path => path) fun host => .bind (.except _) fun rules =>
    .bind (.lift (.modify _)) fun _ => .bind (loadRules_acts _) fun _ => ?_
  split
  · exact .pure _
  · split
    · exact .throw _
    · exact .bind (native _) fun _ => .pure _

theorem loadAll_acts (generation : Generation) :
    Keeps (Acting licence start inside turn) (loadAll generation) := by
  refine .read fun host => .bind (.mapM (fun path => .read fun host => ?_) _) fun _ => .pure _
  cases ScriptSource.read host.tree path with
  | error error => exact .bind (note_acts _) fun _ => .pure _
  | ok source =>
      refine .bind (loadSource_acts source _) fun loaded => ?_
      dsimp only
      split
      · exact .pure _
      · exact .bind (retract_acts loaded.2) fun _ => .bind (note_acts _) fun _ => .pure _

/-! ## Unloading -/

theorem unloadScript_acts (script : LoadedScript) :
    Keeps (Acting licence start inside turn) (unloadScript script) := by
  have stepped (step : UnloadStep) :
      RunKeeps (Acting licence start inside turn) (unloadStep step) := by
    cases step with
    | say text => exact .lift (note_acts _)
    | publish event => exact .bind (publish_acts inside event) fun _ => .lift (note_acts _)
    | askManager kind =>
        exact .get fun host path =>
          RunKeeps.bind (.lift (manager_acts kind _)) (fun _ => .lift (note_acts _)) host path
    | panic message => exact .throw _
  unfold unloadScript
  split
  · exact .pure _
  · refine .bind (RunKeeps.forM stepped _).attempt fun failure? => ?_
    split
    · exact note_acts _
    · exact .pure _

/-- Unloading ends with a clear registry, which asks for managers without subscriptions. -/
theorem unloadAll_acts {host : Host} (path : Acting licence start inside turn host)
    (unsubscribed : host.wiring.Unsubscribed) :
    Acting licence start inside turn (after unloadAll host) := by
  have emptied : Acting licence start inside turn { host with arena := [] } :=
    path.tail (.beside rfl)
  have unloaded := Keeps.forM unloadScript_acts host.arena _ emptied
  have idle : Reaches false host { host with arena := [] } := .single (.quiet rfl)
  have released := (Keeps.forM unloadScript_reaches host.arena _ idle).unsubscribed unsubscribed
  exact unloaded.tail (.clear released)

theorem finishCycle_acts (report : CycleReport) :
    Keeps (Acting licence start inside turn) (finishCycle report) :=
  .bind (warnOf_keeps (fun _ => note_acts _) report) fun _ =>
    .bind (.ofBeside fun _ => rfl) fun _ => .ofBeside fun _ => rfl

end Loading

/-- What moves the loops, the watcher and the runner is an act, as far as it is licensed. -/
theorem acting_looping {licence : Licence} (loops : licence.loops) {start : Moment}
    {inside : List GateId} {turn : Option TaskId} : Looping (Acting licence start inside turn) where
  still _ _ parts clock awake asleep path :=
    path.tail (.loops loops (services_of_parts parts) clock awake asleep)

/-- Taking workers off the ready ones puts no task on the agenda. -/
theorem fewerTasks {agenda : Agenda} {ready : List Worker}
    (fewer : ready.Sublist agenda.ready) :
    ({ agenda with ready } : Agenda).tasks ⊆ agenda.tasks :=
  ((fewer.filterMap _).append (List.Sublist.refl _)).subset

section Cycling

variable {licence : Licence} (loops : licence.loops) (licensed : licence.cycles)
  (tasks : ∀ id, licence.task id) {start : Moment} {inside : List GateId}
include loops licensed tasks

/-! ## Background work -/

theorem runReady_acts (budget : Nat) :
    Keeps (Acting licence start inside none) (runReady budget) := by
  have taken : Keeps (Acting licence start inside none) takeBesideCycle := by
    intro host path
    refine path.tail (.schedule licensed rfl (Nat.le_refl _) ?_)
    apply fewerTasks
    cases host.agenda.ready.find? (runsBesideCycle host.loops) with
    | none => exact List.Sublist.refl _
    | some worker => exact List.erase_sublist
  exact runReady_keeps taken.leads (fun id => runTask_acts (tasks id))
    (acting_looping loops).continueLoop (fun _ _ path => path) budget

theorem stop_acts (budget : Nat) : Keeps (Acting licence start inside none) (stop budget) :=
  .bind stopRegistry_acts fun _ => .bind (runReady_acts loops licensed tasks budget) fun _ =>
    .read fun _ => .bind (cancelAll_acts _) fun _ =>
    .read fun _ => .bind (.ofBeside fun _ => rfl) fun _ => .pure _

/-! ## Cycles -/

/-- Stopping for good and unloading, whatever phases are published on the way. -/
private theorem retire_acts (budget : Nat) {β : Type} {rest : List StopTimeout → Step β}
    (next : ∀ timeouts, Keeps (Acting licence start inside none) (rest timeouts)) :
    Keeps (Acting licence start inside none) (do
      enterPhase .stopping
      let timeouts ← stop budget
      enterPhase .unloading
      unloadAll
      rest timeouts) := by
  intro host path
  have entered : Acting licence start inside none (after (enterPhase .stopping) host) :=
    path.tail (.beside rfl)
  have stopped := stop_acts loops licensed tasks budget _ entered
  have unsubscribed := stop_unsubscribed budget (after (enterPhase .stopping) host)
  refine next _ _ (unloadAll_acts ?_ unsubscribed)
  exact stopped.tail (.beside rfl)

/-- A cycle begins with the next generation, or it does not begin. -/
theorem runCycle_advances (budget : Nat) (host : Host) :
    after (runCycle budget) host = host ∨
      Acting licence ⟨inside, none, after advanceGeneration host⟩ inside none
        (after (runCycle budget) host) := by
  rw [runCycle, after_get_bind]
  split
  · exact .inl rfl
  refine .inr ?_
  rw [after_bind]
  refine retire_acts loops licensed tasks budget (fun timeouts => ?_) _ .refl
  refine .bind (.ofBeside fun _ => rfl) fun _ => .bind (loadAll_acts _) fun loaded =>
    .bind (runReady_acts loops licensed tasks budget) fun _ => ?_
  split
  · exact .pure _
  · exact .bind (.ofBeside fun _ => rfl) fun _ => .bind (resumeRegistry_acts _) fun _ =>
      .bind (finishCycle_acts _) fun _ => .pure _

/-- Shutting down begins with a generation to which nothing belongs. -/
theorem shutDown_advances (budget : Nat) (host : Host) :
    Acting licence
      ⟨inside, none, after advanceGeneration (after (changeLoops ReloadLoops.retire) host)⟩
      inside none (after (shutDown budget) host) := by
  rw [shutDown, after_bind, after_bind]
  exact retire_acts loops licensed tasks budget (fun _ => .ofBeside fun _ => rfl) _ .refl

end Cycling

section Scheduling

variable {licence : Licence} (loops : licence.loops) (licensed : licence.cycles)
  (tasks : ∀ id, licence.task id) {start : Moment} {inside : List GateId}
include loops licensed tasks

theorem acting_recurring : Recurring (Acting licence start inside none) where
  toLooping := acting_looping loops
  runCycle budget := by
    intro host path
    have cycled : _ ∨ Acting licence ⟨inside, none, after advanceGeneration host⟩ inside none _ :=
      runCycle_advances loops licensed tasks budget host
    rcases cycled with same | later
    · rw [same]
      exact path
    · exact (path.tail (.advance licensed)).trans later
  shutDown budget := by
    intro host path
    have retired := (acting_looping loops).changeLoops ReloadLoops.retire host path
    exact (retired.tail (.advance licensed)).trans
      (shutDown_advances loops licensed tasks budget host)

/-! ## The schedule -/

theorem runWorker_acts (budget : Nat) (worker : Worker) :
    Keeps (Acting licence start inside none) (runWorker budget worker) := by
  cases worker with
  | task id => exact runTask_acts (tasks id)
  | _ => exact (acting_recurring loops licensed tasks).runWorker budget rfl

omit loops tasks in
theorem takeReady_acts : Keeps (Acting licence start inside none) takeReady := by
  intro host path
  rw [takeReady, after_modifyGet]
  split
  · exact path
  · case h_2 worker rest taken =>
      refine path.tail (.schedule licensed rfl (Nat.le_refl _) ?_)
      apply fewerTasks
      rw [taken]
      exact List.sublist_cons_self _ _

omit loops tasks in
/-- Workers whose sleep is over keep their places on the agenda. -/
theorem passTo_acts (time : Nat) : Keeps (Acting licence start inside none) (passTo time) := by
  intro host path
  refine path.tail (.schedule licensed rfl (Nat.le_max_left _ _) ?_)
  intro id member
  simp only [Agenda.mem_tasks, passTo, after_modify, List.partition_eq_filter_filter,
    List.mem_append, List.mem_map, List.mem_filter] at member ⊢
  obtain ⟨worker, (ready | ⟨entry, present, rfl⟩), same⟩ | ⟨entry, present, same⟩ := member
  · exact .inl ⟨worker, ready, same⟩
  · exact .inr ⟨entry, present.1, same⟩
  · exact .inr ⟨entry, present.1, same⟩

theorem acting_scheduling : Scheduling (Acting licence start inside none)
    fun _ => Acting licence start inside none where
  take := takeReady_acts licensed
  work := runWorker_acts loops licensed tasks
  idle _ path := path
  pass time host path _ := passTo_acts licensed time host path

end Scheduling

/-! ## Operations -/

end HomeRules.Host

namespace HomeRules

/-- Whether an operation leaves the spawning of timers to the managers. -/
def Operation.plain : Operation → Prop
  | .spawn _ _ _ work => work.gate? = none
  | _ => True

/-- Whether an operation leaves the loops, the runner and the schedule alone. -/
def Operation.aside : Operation → Prop
  | .reload _ | .shutDown _ | .startLoop | .startRunner | .requestStop => False
  | .settle _ | .advance _ _ | .awaitRunner _ => False
  | _ => True

namespace Host

theorem operate_aside {licence : Licence} {start : Moment} {inside : List GateId}
    {operation : Operation} (aside : operation.aside)
    (plain : operation.plain ∨ licence.timers) :
    Keeps (Acting licence start inside none) (operate operation) := by
  cases operation with
  | changeWorld change => exact changeWorld_acts change
  | changeTree change => exact .ofBeside fun _ => rfl
  | publish event => exact publish_acts inside event
  | receive line => exact receive_acts line
  | deliver delivery payload => exact dispatchInside_acts publish_acts delivery payload
  | dispatch generation schema kind payload => exact dispatch_acts (publish_acts inside) _ _ _ _
  | evaluate generation body payload => exact runEntry_acts (publish_acts inside) _ _ _
  | spawn name generation owner work => exact spawn_acts name generation owner plain
  | cancelTask id => exact cancelTask_acts id
  | cancelOwner owner => exact fun host path => path.tail (.cancelOwner owner)
  | cancelAll grace => exact cancelAll_acts grace
  | askManager kind generation => exact manager_acts kind generation
  | register script generation schema => exact acting_booking.register script generation schema
  | unregister script handles => exact acting_booking.unregister script handles
  | resumeManagers generation => exact resumeRegistry_acts generation
  | stopManagers => exact stopRegistry_acts
  | clearManagers =>
      intro host path
      exact (stopRegistry_acts host path).tail (.clear (stopRegistry_unsubscribed host))
  | subscribe manager kind schema =>
      exact fun host path => path.tail (.subscribe manager kind schema)
  | unsubscribe manager id => exact fun host path => path.tail (.unsubscribe manager id)
  | resumeManager manager => exact fun host path => path.tail (.resumeManager manager)
  | stopManager manager => exact fun host path => path.tail (.stopManager manager)
  | requestReload => exact requestReload_acts
  | takeJournal => exact .ofBeside fun _ => rfl
  | _ => exact aside.elim

theorem operate_acts {licence : Licence} (loops : licence.loops) (licensed : licence.cycles)
    (tasks : ∀ id, licence.task id) {start : Moment} {inside : List GateId}
    {operation : Operation} (plain : operation.plain ∨ licence.timers) :
    Keeps (Acting licence start inside none) (operate operation) := by
  cases operation with
  | reload budget => exact (acting_recurring loops licensed tasks).reload budget
  | shutDown budget => exact (acting_recurring loops licensed tasks).shutDown budget
  | startLoop => exact (acting_looping loops).startLoop
  | startRunner => exact (acting_looping loops).startRunner
  | requestStop => exact (acting_looping loops).requestStop
  | settle budget => exact (acting_scheduling loops licensed tasks).settle budget
  | advance budget milliseconds =>
      exact .read fun _ => (acting_scheduling loops licensed tasks).advanceTo _ budget
  | awaitRunner budget => exact (acting_scheduling loops licensed tasks).awaitRunner budget
  | _ => exact operate_aside trivial plain

theorem run_acts {licence : Licence} (loops : licence.loops) (licensed : licence.cycles)
    (tasks : ∀ id, licence.task id) {start : Moment} {inside : List GateId}
    {operations : List Operation}
    (plain : ∀ operation ∈ operations, operation.plain ∨ licence.timers) :
    Keeps (Acting licence start inside none) (run operations) :=
  .forM_of_mem fun operation member => operate_acts loops licensed tasks (plain operation member)

/-- Anything that can happen. -/
def Licence.everything : Licence where
  task _ := True
  timers := True
  loops := True
  cycles := True

theorem run_everything (operations : List Operation) {start : Moment} {inside : List GateId} :
    Keeps (Acting .everything start inside none) (run operations) :=
  run_acts trivial trivial (fun _ => trivial) fun _ _ => .inr trivial

end Host

end HomeRules
