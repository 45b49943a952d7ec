import HomeRules.Proofs.Host.Attending

/-!
# Facts that are upheld

What a host does to serve events, to run tasks, and to load and unload scripts is put together
from a few changes. A fact that these changes uphold is upheld whatever is done to the host. Of
the managers, it may tell whether they were let deliver together; of the subscriptions, that they
are for events to which their schemas have an entry.
-/

set_option autoImplicit false

namespace HomeRules

namespace Host

structure Upholding (fact : Host → Prop) : Prop extends Striking fact where
  beside : ∀ host world journal requests, fact host → fact { host with world, journal, requests }
  mark : ∀ deed, deed.turn? = none → Keeps fact (mark deed)
  request : Keeps fact requestReload
  spawn : ∀ name generation owner work, Keeps fact (spawn name generation owner work)
  cancel : ∀ id, Keeps fact (cancelTask id)
  cancelOwner : ∀ owner, Keeps fact (cancelOwner owner)
  dropTasks : ∀ host, fact host → fact { host with supervisor := host.supervisor.cancelAll.1 }
  enter : ∀ (host : Host) (gate : GateId) (entered : Gate),
    (host.gate gate).enter? = some entered → fact host →
      fact (after (changeGate gate fun _ => entered) host)
  leave : ∀ gate, Keeps fact (changeGate gate Gate.leave)
  needManager : ∀ kind generation, Keeps fact (needManager kind generation)
  subscribe : ∀ manager {kind : EventKind} {schema : EventSchema}, kind ∈ schema.kinds →
    Keeps fact (subscribe manager kind schema)
  resumeManager : ∀ kind, Keeps fact (resumeManager kind)
  resumeRegistry : ∀ generation, Keeps fact (resumeRegistry generation)
  stopManager : ∀ kind, Keeps fact (stopManager kind)
  clear : ∀ host, host.wiring.Unsubscribed → fact host → fact (after clearRegistry host)

namespace Upholding

variable {fact : Host → Prop} (upholding : Upholding fact)
include upholding

theorem attending : Attending fact where
  toStriking := upholding.toStriking
  beside := upholding.beside
  mark := upholding.mark
  request := upholding.request
  spawn := upholding.spawn
  cancelOwner := upholding.cancelOwner
  enter := upholding.enter
  leave := upholding.leave
  needManager := upholding.needManager
  subscribe := upholding.subscribe
  resumeManager := upholding.resumeManager
  resumeRegistry := upholding.resumeRegistry
  stopManager := upholding.stopManager
  clear := upholding.clear

theorem cancelAll (grace : Duration) : Keeps fact (cancelAll grace) := by
  refine .bind upholding.dropTasks fun tasks => .bind (.forM (fun task => ?_) tasks)
    fun _ => .pure _
  unfold warnOfTask
  split
  · exact upholding.attending.note _
  · exact .option_forM (fun _ => upholding.attending.note _) _

/-! ## Loading and unloading -/

theorem retract (context : LoadContext) : Keeps fact (retract context) :=
  upholding.toStriking.retract upholding.cancel context

theorem addSchema (draft : EventDraft) : ContextKeeps fact (addSchema draft) := by
  unfold Host.addSchema
  split
  · exact .pure _
  · refine .bind .get fun context =>
      .bind (.lift (upholding.attending.register _ _ _)) fun result => ?_
    cases result with
    | error error => exact .pure _
    | ok handles => exact .bind (.set _) fun _ => .pure _

theorem addTask (name : String) (job : Job) : ContextKeeps fact (addTask name job) :=
  .bind .get fun _ => .bind (.lift (upholding.spawn _ _ _ _)) fun _ =>
    .bind (.set _) fun _ => .pure _

theorem requestOnce (name : String) (times : Nat) : Keeps fact (requestOnce name times) := by
  apply Keeps.get
  intro host holds
  dsimp only
  split
  · have counted := upholding.beside host host.world host.journal
      (host.requests.insert name ((host.requests.get? name).getD 0 + 1)) holds
    exact Keeps.bind (upholding.attending.note _) (fun _ => upholding.request) _ counted
  · exact holds

theorem loadStep (name : String) (step : LoadStep) : LoadKeeps fact (loadStep name step) := by
  have known (draft : Except SchemaError EventDraft) : LoadKeeps fact (known draft) := by
    cases draft with
    | ok draft => exact .pure _
    | error error => exact .throw _
  cases step with
  | say text => exact .step (upholding.attending.note _)
  | showSettings => exact .bind (.lift .get) fun _ => .step (upholding.attending.note _)
  | showContext => exact .bind (.lift .get) fun _ => .step (upholding.attending.note _)
  | register announced draft =>
      refine .bind (known draft) fun draft =>
        .bind (.lift (upholding.addSchema draft)) fun result => ?_
      cases result with
      | error error => exact .throw _
      | ok count =>
          dsimp only
          split
          · exact .step (upholding.attending.note _)
          · exact .pure _
  | tryRegister draft =>
      exact .bind (known draft) fun draft =>
        .bind (.lift (upholding.addSchema draft)) fun _ => .step (upholding.attending.note _)
  | spawn announced task job =>
      refine .bind (.lift (upholding.addTask task job)) fun spawned => ?_
      split
      · exact .step (upholding.attending.note _)
      · exact .pure _
  | retract =>
      have withdrawn : ContextKeeps fact withdraw :=
        .bind .get fun context => .bind (.lift (upholding.retract context)) fun _ => .set _
      exact .bind (.lift withdrawn) fun _ => .bind (.lift .get) fun _ =>
        .step (upholding.attending.note _)
  | requestReload times => exact .step (upholding.requestOnce name times)
  | stopManagers =>
      exact .bind (.step upholding.attending.stopRegistry) fun _ =>
        .step (upholding.attending.note _)
  | askManager kind =>
      exact .bind (.lift .get) fun _ => .bind (.step (upholding.attending.manager kind _)) fun _ =>
        .step (upholding.attending.note _)
  | publish event =>
      refine .bind (.step (upholding.attending.publish event)) fun result => ?_
      cases result with
      | ok count => exact .step (upholding.attending.note _)
      | error failure => exact .throw _
  | fail failure => exact .throw _

theorem loadSource (source : ScriptSource) : LoadKeeps fact (loadSource source) := by
  have ruled (draft : EventDraft) : LoadKeeps fact (loadRules draft) := by
    unfold loadRules
    split
    · exact .pure _
    · refine .bind (.lift .get) fun _ => .bind (.lift (upholding.addSchema draft)) fun result => ?_
      split
      · exact .throw _
      · exact .throw _
      · exact .pure _
  have native (native : NativeScript) : LoadKeeps fact (loadNative native) :=
    .bind (.lift .get) fun _ => .adapt _ (.forM (upholding.loadStep native.name) _)
  refine .bind (.step fun _ holds => holds) fun host => .bind (.except _) fun rules =>
    .bind (.lift (.modify _)) fun _ => .bind (ruled _) fun _ => ?_
  split
  · exact .pure _
  · split
    · exact .throw _
    · exact .bind (native _) fun _ => .pure _

theorem loadAll (generation : Generation) : Keeps fact (loadAll generation) := by
  refine .read fun host => .bind (.mapM (fun path => .read fun host => ?_) _) fun _ => .pure _
  cases ScriptSource.read host.tree path with
  | error error => exact .bind (upholding.attending.note _) fun _ => .pure _
  | ok source =>
      refine .bind (upholding.loadSource source _) fun loaded => ?_
      dsimp only
      split
      · exact .pure _
      · exact .bind (upholding.retract loaded.2) fun _ =>
          .bind (upholding.attending.note _) fun _ => .pure _

theorem unloadScript (script : LoadedScript) : Keeps fact (unloadScript script) := by
  have unloaded (step : UnloadStep) : RunKeeps fact (unloadStep step) := by
    cases step with
    | say text => exact .lift (upholding.attending.note _)
    | publish event =>
        exact .bind (upholding.attending.publish event) fun _ =>
          .lift (upholding.attending.note _)
    | askManager kind =>
        exact .get fun host holds => RunKeeps.bind (.lift (upholding.attending.manager kind _))
          (fun _ => .lift (upholding.attending.note _)) host holds
    | panic message => exact .throw _
  unfold Host.unloadScript
  split
  · exact .pure _
  · refine .bind (RunKeeps.forM unloaded _).attempt fun failure? => ?_
    split
    · exact upholding.attending.note _
    · exact .pure _

/-- What goes on while a cycle stops may be anything. -/
theorem stop (ready : ∀ budget, Keeps fact (runReady budget)) (budget : Nat) :
    Keeps fact (stop budget) :=
  .bind upholding.attending.stopRegistry fun _ => .bind (ready budget) fun _ => .read fun _ =>
    .bind (upholding.cancelAll _) fun _ => .read fun _ => .bind (upholding.mark _ rfl) fun _ =>
    .pure _

/-! ## Operations -/

/-- What is done to a host beside its loops and cycles. The files and the journal are nobody's
business here. -/
theorem operate {operation : Operation} (aside : operation.aside) (scripted : operation.Scripted)
    (written : ∀ host tree, fact host → fact { host with tree }) :
    Keeps fact (operate operation) := by
  cases operation with
  | spawn name generation owner work => exact upholding.spawn _ _ _ _
  | cancelTask id => exact upholding.cancel id
  | cancelAll grace => exact upholding.cancelAll grace
  | _ => exact upholding.attending.operate aside scripted written

end Upholding

/-! ## Tasks that have control -/

/-- A fact that is upheld, and that the turns of tasks uphold as well. -/
structure Tending (fact : Host → Prop) : Prop extends Upholding fact where
  agenda : ∀ host agenda, fact host → fact { host with agenda }
  resume : ∀ generation id, Keeps fact (Host.mark (.resumed generation id))
  progress : ∀ id point, Keeps fact (progress id point)

namespace Tending

variable {fact : Host → Prop} (tending : Tending fact)
include tending

theorem minding : Minding fact fun _ => True where
  toAttending := tending.attending
  agenda := tending.agenda
  resume := tending.resume
  progress id point _ := tending.progress id point

theorem runTask (id : TaskId) : Keeps fact (runTask id) :=
  tending.minding.runTask trivial

end Tending

/-! ## Facts that nothing fails -/

/-- A fact that is upheld, and that neither the turns of tasks and loops nor the passing of time
and of generations break. -/
structure Unfailing (fact : Host → Prop) : Prop extends Upholding fact where
  looping : Looping fact
  runTask : ∀ id, Keeps fact (runTask id)
  advanceGeneration : Keeps fact advanceGeneration
  pass : ∀ host clock agenda, fact host → fact { host with clock, agenda }
  written : ∀ host tree, fact host → fact { host with tree }

namespace Unfailing

variable {fact : Host → Prop} (unfailing : Unfailing fact)
include unfailing

theorem runReady (budget : Nat) : Keeps fact (runReady budget) := by
  have taken : Keeps fact takeBesideCycle :=
    fun host holds => unfailing.pass host host.clock _ holds
  exact runReady_keeps taken.leads unfailing.runTask unfailing.looping.continueLoop
    (fun _ _ holds => holds) budget

theorem enterPhase (phase : CyclePhase) : Keeps fact (enterPhase phase) :=
  unfailing.looping.ofStill fun _ => rfl

/-- Scripts that are unloaded subscribe to nothing. -/
theorem unloadAll {host : Host} (unsubscribed : host.wiring.Unsubscribed) (holds : fact host) :
    fact (after unloadAll host) := by
  have emptied : fact { host with arena := [] } :=
    unfailing.looping.still host _ rfl rfl rfl rfl holds
  have unloaded := Keeps.forM unfailing.unloadScript host.arena _ emptied
  have idle : Reaches false host { host with arena := [] } := .single (.quiet rfl)
  have released := (Keeps.forM unloadScript_reaches host.arena _ idle).unsubscribed unsubscribed
  exact unfailing.clear _ released unloaded

/-- Stopping and unloading, whatever phases are published on the way. -/
private theorem retire (budget : Nat) {β : Type} {rest : List StopTimeout → Step β}
    (next : ∀ timeouts, Keeps fact (rest timeouts)) :
    Keeps fact (do
      Host.enterPhase .stopping
      let timeouts ← Host.stop budget
      Host.enterPhase .unloading
      Host.unloadAll
      rest timeouts) := by
  intro host holds
  have entered := unfailing.enterPhase .stopping host holds
  have stopped := unfailing.stop unfailing.runReady budget _ entered
  have unsubscribed := stop_unsubscribed budget (after (Host.enterPhase .stopping) host)
  exact next _ _ (unfailing.unloadAll unsubscribed (unfailing.enterPhase .unloading _ stopped))

theorem finishCycle (report : CycleReport) : Keeps fact (finishCycle report) :=
  .bind (warnOf_keeps (fun _ => unfailing.attending.note _) report) fun _ =>
    .bind (unfailing.enterPhase _) fun _ => unfailing.looping.ofStill fun _ => rfl

theorem recurring : Recurring fact where
  toLooping := unfailing.looping
  runCycle budget := by
    refine .read fun host => ?_
    split
    · exact .pure _
    refine .bind unfailing.advanceGeneration fun generation =>
      unfailing.retire budget fun timeouts =>
      .bind (unfailing.enterPhase _) fun _ => .bind (unfailing.loadAll generation) fun loaded =>
      .bind (unfailing.runReady budget) fun _ => ?_
    split
    · exact .pure _
    · exact .bind (unfailing.looping.ofStill fun _ => rfl) fun _ =>
        .bind (unfailing.resumeRegistry generation) fun _ =>
        .bind (unfailing.finishCycle _) fun _ => .pure _
  shutDown budget := .bind (unfailing.looping.changeLoops _) fun _ =>
    .bind unfailing.advanceGeneration fun _ =>
    unfailing.retire budget fun _ => unfailing.enterPhase _

theorem scheduling : Scheduling fact fun _ => fact where
  take host holds := by
    have taken (agenda : Agenda) : fact { host with agenda } :=
      unfailing.pass host host.clock agenda holds
    rw [takeReady, after_modifyGet]
    split
    · exact holds
    · exact taken _
  work budget worker := by
    cases worker with
    | task id => exact unfailing.runTask id
    | _ => exact unfailing.recurring.runWorker budget rfl
  idle _ holds := holds
  pass _ host holds _ := unfailing.pass host _ _ holds

theorem operate {operation : Operation} (scripted : operation.Scripted) :
    Keeps fact (operate operation) := by
  cases operation with
  | reload budget => exact unfailing.recurring.reload budget
  | shutDown budget => exact unfailing.recurring.shutDown budget
  | startLoop => exact unfailing.looping.startLoop
  | startRunner => exact unfailing.looping.startRunner
  | requestStop => exact unfailing.looping.requestStop
  | settle budget => exact unfailing.scheduling.settle budget
  | advance budget milliseconds => exact .read fun _ => unfailing.scheduling.advanceTo _ budget
  | awaitRunner budget => exact unfailing.scheduling.awaitRunner budget
  | _ => exact unfailing.toUpholding.operate trivial scripted unfailing.written

theorem run {operations : List Operation}
    (scripted : ∀ operation ∈ operations, operation.Scripted) : Keeps fact (run operations) := by
  unfold Host.run
  induction operations with
  | nil => exact .pure _
  | cons operation rest previous =>
      exact .bind (unfailing.operate (scripted operation List.mem_cons_self)) fun _ =>
        previous fun other member => scripted other (List.mem_cons_of_mem _ member)

end Unfailing

end Host

end HomeRules
