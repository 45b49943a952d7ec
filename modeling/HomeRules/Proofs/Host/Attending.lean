import HomeRules.Proofs.Host.Managing
import HomeRules.Proofs.Host.RunActs

/-!
# Facts that are attended to

What a host does to serve events and to run tasks is put together from a few changes. None of
them ends a task whose number it is given, except by dropping the subscription that the task
belongs to, and none ends all tasks at once. A fact that these changes keep may therefore tell
that a task goes on.
-/

set_option autoImplicit false

namespace HomeRules

/-- The task that a deed gave control to. -/
def Deed.turn? : Deed → Option TaskId
  | .resumed _ id => some id
  | _ => none

/-- Whether an operation subscribes schemas only to events to which they have an entry. Those of
scripts always are: a script is subscribed to the kinds of its entries. -/
def Operation.Scripted : Operation → Prop
  | .subscribe _ kind schema => kind ∈ schema.kinds
  | _ => True

/-- Whether an operation leaves timers to the managers, and the loops, the runner and the
schedule alone. -/
def Operation.gentle : Operation → Prop
  | .cancelTask _ | .cancelAll _ => False
  | .spawn _ _ _ work => work.gate? = none
  | operation => operation.aside

theorem Operation.gentle.aside {operation : Operation} (gentle : operation.gentle) :
    operation.aside := by
  cases operation with
  | spawn name generation owner work => trivial
  | cancelTask id => cases gentle
  | cancelAll grace => cases gentle
  | _ => exact gentle

theorem Operation.gentle.plain {operation : Operation} (gentle : operation.gentle) :
    operation.plain := by
  cases operation with
  | spawn name generation owner work => exact gentle
  | _ => trivial

namespace Host

structure Attending (fact : Host → Prop) : Prop extends Striking fact where
  beside : ∀ host world journal requests, fact host → fact { host with world, journal, requests }
  mark : ∀ deed, deed.turn? = none → Keeps fact (mark deed)
  request : Keeps fact requestReload
  spawn : ∀ name generation owner work, Keeps fact (spawn name generation owner work)
  cancelOwner : ∀ owner, Keeps fact (cancelOwner owner)
  enter : ∀ (host : Host) (gate : GateId) (entered : Gate),
    (host.gate gate).enter? = some entered → fact host →
      fact (after (changeGate gate fun _ => entered) host)
  leave : ∀ gate, Keeps fact (changeGate gate Gate.leave)
  needManager : ∀ kind generation, Keeps fact (needManager kind generation)
  subscribe : ∀ manager {kind : EventKind} {schema : EventSchema}, kind ∈ schema.kinds →
    Keeps fact (subscribe manager kind schema)
  resumeManager : ∀ kind, Keeps fact (resumeManager kind)
  resumeRegistry : ∀ generation, Keeps fact (resumeRegistry generation)
  stopManager : ∀ kind, Keeps fact (stopManager kind)
  clear : ∀ host, host.wiring.Unsubscribed → fact host → fact (after clearRegistry host)

namespace Attending

variable {fact : Host → Prop} (attending : Attending fact)
include attending

theorem note (text : Note) : Keeps fact (note text) :=
  fun host holds => attending.beside host host.world _ host.requests holds

theorem changeWorld (change : World → World) : Keeps fact (changeWorld change) :=
  fun host holds => attending.beside host _ host.journal host.requests holds

/-! ## The registry -/

theorem manager (kind : ManagerKind) (generation : Generation) :
    Keeps fact (manager kind generation) := by
  refine .bind (attending.needManager kind generation) fun needed => ?_
  cases needed with
  | error error => exact .pure _
  | ok _ =>
      refine .read fun host => ?_
      cases host.registry.manager? kind with
      | none => exact .pure _
      | some manager => exact .pure _

theorem stopRegistry : Keeps fact stopRegistry :=
  .read fun _ => .bind (.mapM attending.stopManager _) fun _ => .pure _

theorem subscribeWith (generation : Generation) {schema : EventSchema} (manager : ManagerKind)
    {kind : EventKind} (known : kind ∈ schema.kinds) :
    Keeps fact (subscribeWith generation schema manager kind) := by
  refine .bind (attending.needManager manager generation) fun needed => ?_
  cases needed with
  | error error => exact .pure _
  | ok _ => exact attending.subscribe manager known

theorem subscribeAll (generation : Generation) {schema : EventSchema} (held : List Handle)
    {kinds : List EventKind} (known : ∀ kind ∈ kinds, kind ∈ schema.kinds) :
    Keeps fact (subscribeAll generation schema held kinds) := by
  induction kinds generalizing held with
  | nil => exact .pure _
  | cons kind rest previous =>
      have here := known kind List.mem_cons_self
      refine .bind (attending.subscribeWith generation _ here) fun result => ?_
      cases result with
      | ok handle =>
          exact previous _ fun other member => known other (List.mem_cons_of_mem _ member)
      | error error => exact .bind (attending.releaseAll held) fun _ => .pure _

/-- Who owns a schema does not matter for its entries. -/
theorem register (script : String) (generation : Generation) (schema : EventSchema) :
    Keeps fact (register script generation schema) := by
  refine .bind (attending.subscribeAll generation [] fun _ member => member) fun result => ?_
  cases result with
  | error error => exact .pure _
  | ok handles =>
      refine .bind (fun host holds => ?_) fun _ => .pure _
      change fact { host with registry := host.registry.record script generation handles }
      unfold Registry.record
      split
      · exact attending.records host _ holds
      · exact holds

/-! ## Actions and entries -/

section Serving

variable {publish : Publisher} (served : ∀ event, RunKeeps fact (publish event))
include served

theorem perform (name : String) (payload : Payload) (command : Command) :
    RunKeeps fact (perform publish name payload command) := by
  cases command with
  | publish event => exact .bind (served event) fun _ => .lift (attending.note _)
  | requestReload => exact .lift attending.request
  | stopManagers => exact .bind (.lift attending.stopRegistry) fun _ => .lift (attending.note _)
  | fail failure => exact .throw failure
  | setFlag flag value => exact .lift (attending.changeWorld _)
  | setState entity state => exact .lift (attending.changeWorld _)
  | _ => exact .lift (attending.note _)

omit served in
theorem defer (occasion : Occasion) (name : String) (work : Work) (outcome : Outcome) :
    Keeps fact (defer occasion name work outcome) := by
  refine .bind (attending.spawn _ _ _ _) fun handle? => ?_
  cases handle? with
  | none => exact .pure _
  | some handle => exact .pure _

omit attending served

mutual

theorem execute (attending : Attending fact) (served : ∀ event, RunKeeps fact (publish event))
    (occasion : Occasion) (action : Action) (outcome : Outcome) :
    RunKeeps fact (execute publish occasion action outcome) := by
  cases action with
  | call name commands =>
      refine .bind (.lift (attending.mark _ rfl)) fun _ =>
        .bind (.lift (RunKeeps.forM (attending.perform served name _) commands).attempt)
          fun failure? => ?_
      cases failure? with
      | none => exact .pure _
      | some failure => exact .bind (.lift (attending.note _)) fun _ => .pure _
  | task name source =>
      refine .bind (.lift (attending.mark _ rfl)) fun _ => ?_
      cases source with
      | job job => exact .lift (attending.defer _ _ _ _)
      | panics message => exact .throw _
  | group name members => exact attending.executeAll served occasion members outcome
  | after delay actions => exact .lift (attending.defer _ _ _ _)

theorem executeAll (attending : Attending fact) (served : ∀ event, RunKeeps fact (publish event))
    (occasion : Occasion) (actions : List Action) (outcome : Outcome) :
    RunKeeps fact (executeAll publish occasion actions outcome) := by
  cases actions with
  | nil => exact .pure _
  | cons action rest =>
      exact .bind (attending.execute served occasion action outcome) fun outcome =>
        attending.executeAll served occasion rest outcome

end

include attending served

theorem runEntry (occasion : Occasion) (restart : Bool) (body : ConditionSchema) :
    RunKeeps fact (runEntry publish occasion restart body) := by
  have announced (item : Reached) : Keeps fact (announce occasion.generation item) := by
    refine .bind (attending.mark _ rfl) fun _ =>
      .bind (.forM (fun _ => attending.note _) _) fun _ => ?_
    split
    · exact attending.note _
    · exact .pure _
  have restarted : Keeps fact (restartOwner occasion.owner) := by
    cases occasion.owner with
    | none => exact .pure _
    | some owner => exact attending.cancelOwner owner
  refine .get fun host holds => ?_
  dsimp only
  split
  · exact holds
  · refine RunKeeps.bind (.forM (fun item => .lift (announced item)) _) (fun _ => ?_) host holds
    split
    · exact .bind (.lift restarted) fun _ => attending.executeAll served _ _ _
    · exact .bind (.pure _) fun _ => attending.executeAll served _ _ _

theorem dispatch (generation : Generation) (schema : EventSchema) (kind : EventKind)
    (payload : Payload) : RunKeeps fact (dispatch publish generation schema kind payload) := by
  unfold Host.dispatch
  split
  · exact .pure _
  · exact attending.runEntry served _ _ _

theorem dispatchInside (delivery : Delivery) (payload : Payload) :
    RunKeeps fact (dispatchInside publish delivery payload) := by
  intro host holds
  change fact (ran (Host.dispatchInside publish delivery payload) host).2
  cases admitted : (host.gate delivery.gate).enter? with
  | none =>
      rw [ran_dispatchInside_refused admitted]
      exact holds
  | some entered =>
      have entering := attending.enter host _ _ admitted holds
      have dispatched := attending.dispatch served delivery.generation delivery.schema
        delivery.kind payload _ entering
      rw [ran_dispatchInside_admitted admitted]
      exact attending.leave _ _ dispatched

end Serving

theorem publish (event : Event) : RunKeeps fact (publish event) := by
  have within (depth : Nat) (event : Event) : RunKeeps fact (publishWithin depth event) := by
    induction depth generalizing event with
    | zero => exact .throw _
    | succ depth nested =>
        refine .get fun host holds => RunKeeps.bind (.forM (fun listener => ?_) _)
          (fun _ => .pure _) host holds
        exact attending.dispatchInside nested listener.target _
  exact within nestingLimit event

theorem receive (line : String) : RunKeeps fact (receive line) := by
  unfold Host.receive
  split
  · exact .pure _
  · exact .pure _
  · exact .bind (.lift (attending.changeWorld _)) fun _ =>
      .bind (attending.publish _) fun _ => .pure _

/-! ## Operations -/

/-- What is done to a host beside its loops and cycles. The files and the journal are nobody's
business here. -/
theorem operate {operation : Operation} (gentle : operation.gentle)
    (scripted : operation.Scripted) (written : ∀ host tree, fact host → fact { host with tree }) :
    Keeps fact (operate operation) := by
  cases operation with
  | changeWorld change => exact attending.changeWorld change
  | changeTree change => exact fun host holds => written host _ holds
  | publish event => exact attending.publish event
  | receive line => exact attending.receive line
  | deliver delivery payload => exact attending.dispatchInside attending.publish delivery payload
  | dispatch generation schema kind payload =>
      exact attending.dispatch attending.publish generation schema kind payload
  | evaluate generation body payload => exact attending.runEntry attending.publish _ _ _
  | spawn name generation owner work => exact attending.spawn _ _ _ _
  | cancelOwner owner => exact attending.cancelOwner owner
  | askManager kind generation => exact attending.manager kind generation
  | register script generation schema => exact attending.register _ _ _
  | unregister script handles => exact attending.unregister _ _
  | resumeManagers generation => exact attending.resumeRegistry generation
  | stopManagers => exact attending.stopRegistry
  | clearManagers =>
      exact fun host holds =>
        attending.clear _ (stopRegistry_unsubscribed host) (attending.stopRegistry host holds)
  | subscribe manager kind schema => exact attending.subscribe manager scripted
  | unsubscribe manager id => exact attending.unsubscribe _ _
  | resumeManager manager => exact attending.resumeManager _
  | stopManager manager => exact attending.stopManager _
  | requestReload => exact attending.request
  | takeJournal =>
      exact fun host holds => attending.beside host host.world _ host.requests holds
  | _ => exact gentle.elim

end Attending

/-! ## Tasks that have control -/

/-- A fact that is attended to, and that the turns of some tasks keep as well. -/
structure Minding (fact : Host → Prop) (turns : TaskId → Prop) : Prop
    extends Attending fact where
  agenda : ∀ host agenda, fact host → fact { host with agenda }
  resume : ∀ generation id, Keeps fact (Host.mark (.resumed generation id))
  progress : ∀ id point, turns id → Keeps fact (progress id point)

namespace Minding

variable {fact : Host → Prop} {turns : TaskId → Prop} (minding : Minding fact turns)
include minding

theorem sleepTask {id : TaskId} (licensed : turns id) (due rounds : Nat) :
    Keeps fact (sleepTask id due rounds) :=
  .bind (minding.progress _ _ licensed) fun _ => fun host holds => minding.agenda host _ holds

theorem finishDelayed {task : Task} (licensed : turns task.id) (actions : List Action)
    (payload : Payload) : Keeps fact (finishDelayed task actions payload) := by
  refine .read fun host => ?_
  dsimp only
  split
  · refine .bind (RunKeeps.attempt (.bind (minding.executeAll minding.publish _ _ _)
      fun _ => .pure _)) fun failure? => ?_
    cases failure? with
    | none => exact minding.progress _ _ licensed
    | some failure => exact minding.progress _ _ licensed
  · exact minding.progress _ _ licensed

theorem finishJob {task : Task} (licensed : turns task.id) (job : Job) :
    Keeps fact (finishJob task job) := by
  refine .bind (.option_forM (fun _ => minding.note _) _) fun _ => ?_
  cases job.ending with
  | failed chain => exact .bind (minding.note _) fun _ => minding.progress _ _ licensed
  | _ => exact minding.progress _ _ licensed

theorem tick {task : Task} (licensed : turns task.id) (delivery : Delivery) (period : Duration)
    (due rounds : Nat) : Keeps fact (tick task delivery period due rounds) := by
  refine .read fun host => ?_
  cases (host.gate delivery.gate).enter? with
  | none => exact minding.progress _ _ licensed
  | some entered =>
      refine .bind (minding.dispatchInside minding.publish _ _).attempt fun failure? => ?_
      cases failure? with
      | none => exact minding.sleepTask licensed _ _
      | some failure => exact minding.progress _ _ licensed

theorem beginTask {task : Task} (licensed : turns task.id) : Keeps fact (beginTask task) := by
  refine .read fun host => ?_
  cases task.work with
  | delayed delay actions payload =>
      dsimp only
      split
      · exact minding.finishDelayed licensed actions payload
      · exact minding.sleepTask licensed _ _
  | job job payload =>
      refine .bind (.option_forM (fun _ => minding.note _) _) fun _ => ?_
      split
      · exact minding.finishJob licensed job
      · exact minding.sleepTask licensed _ _
  | timer gate schema kind period =>
      dsimp only
      split
      · exact minding.sleepTask licensed _ _
      · exact minding.progress _ _ licensed

theorem continueTask {task : Task} (licensed : turns task.id) (due rounds : Nat) :
    Keeps fact (continueTask task due rounds) := by
  unfold Host.continueTask
  split
  · exact minding.finishDelayed licensed _ _
  · exact minding.finishJob licensed _
  · exact minding.tick licensed _ _ _ _

theorem runTask {id : TaskId} (licensed : turns id) : Keeps fact (runTask id) := by
  refine .read fun host => ?_
  cases found : host.supervisor.task? id with
  | none => exact .pure _
  | some task =>
      have named : task.id = id := (Supervisor.of_task? found).2
      have licensed : turns task.id := named ▸ licensed
      dsimp only
      split
      · exact .bind (minding.resume _ _) fun _ => minding.beginTask licensed
      · exact .bind (minding.resume _ _) fun _ => minding.continueTask licensed _ _
      · exact .pure _

end Minding

end Host

end HomeRules
