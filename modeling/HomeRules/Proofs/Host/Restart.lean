import HomeRules.Proofs.Host.Dispatch
import HomeRules.Proofs.Host.Isolation
import HomeRules.Proofs.Host.Timers
import Mathlib

/-!
# Restarting an owner

A dispatch that restarts its owner drops what the owner has pending, after all guards have
answered and before the first action runs. Nothing else is dropped, the dropped tasks never
run again, and the work that the dispatch itself hands over stays. Delayed work carries its
owner on to what it hands over in turn.
-/

set_option autoImplicit false

namespace HomeRules

def Command.event? : Command → Option Event
  | .publish event => some event
  | _ => none

def Action.events : Action → List Event
  | .call _ commands => commands.filterMap Command.event?
  | _ => []

/-- The work that a leaf action hands to the supervisor, with its name. -/
def Action.work? (payload : Payload) : Action → Option (String × Work)
  | .task name (.job job) => some (name, .job job payload)
  | .after delay actions => some ((Action.after delay actions).name, .delayed delay actions payload)
  | _ => none

namespace Host

/-! ## Making ready -/

/-- Whether a dispatch restarts its owner: its entry does, and something matches. -/
def restarts (host : Host) (occasion : Occasion) (schema : EventSchema) (kind : EventKind) :
    Bool :=
  match schema.entry? kind with
  | none => false
  | some entry => entry.mode = .restart && !(entry.body.matching (host.asks occasion)).isEmpty

/-- What happens before the first action of a dispatch for an owner: the tasks of the owner
are dropped if that is due, and nothing else changes but the journal and the deeds. -/
structure Readied (owner : String) (due : Bool) (host ready : Host) (cancelled : Nat) : Prop where
  tasks : ready.supervisor.tasks =
    if due then host.supervisor.tasks.filter (·.owner ≠ some owner) else host.supervisor.tasks
  cancelled : cancelled =
    if due then Supervisor.unfinished (host.supervisor.tasks.filter (·.owner = some owner)) else 0
  frame : ready = { host with
    supervisor := { host.supervisor with tasks := ready.supervisor.tasks }
    journal := ready.journal
    deeds := ready.deeds }

section Ready

variable {occasion : Occasion}

private def SameButNotes (host later : Host) : Prop :=
  later = { host with journal := later.journal, deeds := later.deeds }

private theorem announce_noted (host : Host) (generation : Generation) (reached : Reached) :
    Keeps (SameButNotes host) (announce generation reached) := by
  have noted (text : Note) : Keeps (SameButNotes host) (note text) := by
    intro later same
    rw [SameButNotes] at same ⊢
    rw [same]
    rfl
  have marked (deed : Deed) : Keeps (SameButNotes host) (mark deed) := by
    intro later same
    rw [SameButNotes] at same ⊢
    rw [same]
    rfl
  refine .bind (marked _) fun _ => .bind (.forM (fun _ => noted _) _) fun _ => ?_
  split
  · exact noted _
  · exact .pure _

private theorem dropPending_readied {host later : Host} (same : SameButNotes host later)
    (due : Bool) (owner : String) :
    Readied owner due host (after (dropPending due (some owner)) later)
      (answer (dropPending due (some owner)) later) := by
  rw [SameButNotes] at same
  rw [same]
  cases due with
  | false => exact ⟨rfl, rfl, rfl⟩
  | true => exact ⟨rfl, rfl, rfl⟩

private theorem readyEntry_readied {owner : String} (owned : occasion.owner = some owner)
    (restart : Bool) (body : ConditionSchema) (host : Host) :
    Readied owner (restart && !(body.matching (host.asks occasion)).isEmpty) host
      (after (readyEntry occasion restart body) host)
      (answer (readyEntry occasion restart body) host).cancelled := by
  have announced := Keeps.forM (fun item => announce_noted host occasion.generation
    ⟨item, host.asks occasion item.condition⟩) (body.askedItems (host.asks occasion)) host rfl
  have dropped := dropPending_readied announced
    (restart && !(body.matching (host.asks occasion)).isEmpty) owner
  rw [← owned] at dropped
  exact dropped

theorem readyDispatch_readied {owner : String} (owned : occasion.owner = some owner)
    (schema : EventSchema) (kind : EventKind) (host : Host) :
    Readied owner (host.restarts occasion schema kind) host
      (after (readyDispatch occasion schema kind) host)
      (answer (readyDispatch occasion schema kind) host).cancelled := by
  unfold readyDispatch restarts
  cases schema.entry? kind with
  | none => exact ⟨rfl, rfl, rfl⟩
  | some entry => exact readyEntry_readied owned _ _ host

end Ready

section Readied

variable {owner : String} {host ready : Host} {cancelled : Nat}

theorem Readied.gone (readied : Readied owner true host ready cancelled)
    (numbered : host.supervisor.Numbered) {task : Task} (tracked : task ∈ host.supervisor.tasks)
    (owned : task.owner = some owner) : ready.supervisor.Issued task.id fun _ => False := by
  have supervisor : ready.supervisor.nextId = host.supervisor.nextId := by
    rw [readied.frame]
  constructor
  · rw [supervisor]
    exact numbered.below task tracked
  · intro other member same
    rw [readied.tasks, if_pos rfl] at member
    obtain ⟨old, others⟩ := List.mem_filter.mp member
    have equal : other = task := List.inj_on_of_nodup_map numbered.distinct old tracked same
    rw [equal] at others
    simp [owned] at others

/-- A dropped task never gets control again. -/
theorem Readied.idle (readied : Readied owner true host ready cancelled)
    (numbered : host.supervisor.Numbered) {task : Task} (tracked : task ∈ host.supervisor.tasks)
    (owned : task.owner = some owner) {later : Host} (path : ready.Evolves later) :
    after (runTask task.id) later = later ∧ ∃ since, later.deeds = since ++ ready.deeds ∧
      ∀ generation, .resumed generation task.id ∉ since := by
  have gone := readied.gone numbered tracked owned
  refine ⟨?_, path.idle gone⟩
  rw [runTask, after_get_bind, (path.issued gone).task?_eq_none, after_pure]

theorem Readied.tidy {due : Bool} (readied : Readied owner due host ready cancelled)
    (tidy : host.Tidy) : ready.Tidy := by
  have registry : ready.registry = host.registry := by rw [readied.frame]
  have supervisor : ready.supervisor =
      { host.supervisor with tasks := ready.supervisor.tasks } :=
    congrArg Host.supervisor readied.frame
  have moves : host.supervisor.Moves ready.supervisor := by
    rw [supervisor, readied.tasks]
    cases due with
    | false => exact .rest
    | true => exact .drop _
  exact tidy.tasked ((Tasked.refl host).tail moves registry)

theorem Readied.unowned {due : Bool} (readied : Readied owner due host ready cancelled)
    {id : TaskId} (unowned : host.Unowned id) :
    ready.supervisor.task? id = host.supervisor.task? id := by
  unfold Supervisor.task?
  rw [readied.tasks]
  cases due with
  | false => rfl
  | true =>
      rw [if_pos rfl, List.find?_filter]
      refine List.find?_congr fun task tracked => ?_
      by_cases same : task.id = id
      · simp [same, unowned.owned task tracked same]
      · simp [same]

end Readied

/-! ## What stays pending -/

/-- Publishing an event, at any time on from a host, drops nothing an owner has pending. -/
def Spares (publish : Publisher) (start : Host) (owner : String) (event : Event) : Prop :=
  ∀ host, Reaches false start host → ∀ task ∈ host.supervisor.tasks, task.owner = some owner →
    task.progress.isOver = false → task ∈ (ran (publish event) host).2.supervisor.tasks

/-- A later host on a path still tracks a task as it was. -/
structure Pending (start : Host) (task : Task) (host : Host) : Prop where
  path : Reaches false start host
  tracked : task ∈ host.supervisor.tasks

section Pending

variable {start : Host} {task : Task} {publish : Publisher} {occasion : Occasion}

private theorem Keeps.pending {α : Type} {step : Step α}
    (path : Keeps (Reaches false start) step)
    (supervisor : ∀ host : Host, (after step host).supervisor = host.supervisor) :
    Keeps (Pending start task) step := by
  intro host pending
  refine ⟨path host pending.path, ?_⟩
  rw [supervisor host]
  exact pending.tracked

private theorem stopRegistry_pending (tidy : start.Tidy) (owned : task.owner ≠ none) :
    Keeps (Pending start task) stopRegistry := by
  have stopped (kind : ManagerKind) : Keeps (Pending start task) (stopManager kind) := by
    intro host pending
    have present : host.Tidy := pending.path.evolves.tidy tidy
    exact ⟨pending.path.tail (.stopManager kind),
      (stopManager_spares kind present).2 task pending.tracked owned⟩
  exact .read fun host => .bind (.mapM stopped _) fun _ => .pure _

private theorem spawn_pending (unfinished : task.progress.isOver = false) (name : String)
    (generation : Generation) (owner : Option String) (work : Work) :
    Keeps (Pending start task) (spawn name generation owner work) := by
  intro host pending
  refine ⟨spawn_reaches name generation owner work host pending.path, ?_⟩
  simp only [spawn, after_get_bind]
  split
  · exact List.mem_append_left _ (List.mem_filter.mpr ⟨pending.tracked, by simp [unfinished]⟩)
  · exact pending.tracked

private theorem perform_pending {owner : String} (tidy : start.Tidy)
    (served : ∀ event, RunKeeps (Reaches false start) (publish event))
    (owned : task.owner = some owner) (unfinished : task.progress.isOver = false)
    {command : Command} (spared : ∀ event, command.event? = some event →
      Spares publish start owner event) (name : String) (payload : Payload) :
    RunKeeps (Pending start task) (perform publish name payload command) := by
  have noted (text : Note) : Keeps (Pending start task) (note text) :=
    .pending (note_reaches text) fun _ => rfl
  have changed (change : World → World) : Keeps (Pending start task) (changeWorld change) :=
    .pending (changeWorld_reaches change) fun _ => rfl
  cases command with
  | report => exact .lift (noted _)
  | display => exact .lift (noted _)
  | inform text => exact .lift (noted _)
  | describe => exact .lift (noted _)
  | setFlag flag value => exact .lift (changed _)
  | setState entity state => exact .lift (changed _)
  | publish event =>
      refine .bind (fun host pending => ?_) fun _ => .lift (noted _)
      exact ⟨served event host pending.path,
        spared event rfl host pending.path task pending.tracked owned unfinished⟩
  | requestReload =>
      refine .lift (.pending requestReload_reaches fun host => ?_)
      exact congrArg (·.core.supervisor) (changeLoops_parts ReloadLoops.request host)
  | stopManagers =>
      refine .bind (.lift (stopRegistry_pending tidy ?_)) fun _ => .lift (noted _)
      rw [owned]
      exact Option.some_ne_none owner
  | fail failure => exact .throw failure

private theorem visit_pending {owner : String} (tidy : start.Tidy)
    (served : ∀ event, RunKeeps (Reaches false start) (publish event))
    (current : occasion.generation = start.generation)
    (owned : task.owner = some owner) (unfinished : task.progress.isOver = false)
    {leaf : Action} (spared : ∀ event ∈ leaf.events, Spares publish start owner event) :
    Keeps (Pending start task) (visit publish occasion leaf) := by
  have marked (name : String) :
      Keeps (Pending start task) (mark (.called occasion.generation name)) :=
    .pending (mark_reaches (congrArg some current)) fun _ => rfl
  have handed (name : String) (work : Work) :
      Keeps (Pending start task) (handOver occasion name work) := by
    refine .bind (spawn_pending unfinished _ _ _ _) fun handle? => ?_
    cases handle? with
    | none => exact .pure _
    | some handle => exact .pure _
  cases leaf with
  | call name commands =>
      have performed : RunKeeps (Pending start task)
          (commands.forM (perform publish name occasion.payload)) :=
        .forM_of_mem fun command member => perform_pending tidy served owned unfinished
          (fun event published => spared event
            (List.mem_filterMap.mpr ⟨command, member, published⟩)) _ _
      refine .bind (marked name) fun _ => .bind performed.attempt fun failure? => ?_
      cases failure? with
      | none => exact .pure _
      | some failure =>
          exact .bind (.pending (warn_reaches _) fun _ => rfl) fun _ => .pure _
  | task name source =>
      refine .bind (marked name) fun _ => ?_
      cases source with
      | job job => exact handed _ _
      | panics message => exact .pure _
  | group name members => exact .pure _
  | after delay actions => exact handed _ _

/-- A pending task of an owner outlives the visits of leaves that publish nothing against
the owner. -/
private theorem visits_pending {owner : String} (tidy : start.Tidy)
    (served : ∀ event, RunKeeps (Reaches false start) (publish event))
    (current : occasion.generation = start.generation)
    (owned : task.owner = some owner) (unfinished : task.progress.isOver = false)
    {leaves : List Action}
    (spared : ∀ leaf ∈ leaves, ∀ event ∈ leaf.events, Spares publish start owner event)
    (outcome : Outcome) :
    RunKeeps (Pending start task) (leaves.foldlM (visitNext publish occasion) outcome) := by
  refine .foldlM_of_mem (fun leaf member => visitNext_keeps ?_) outcome
  exact visit_pending tidy served current owned unfinished (spared leaf member)

end Pending

/-! ## What is handed over -/

/-- Work was handed over, in its order, as new tasks of an owner, which are all pending. -/
def HandedOver (owner : Option String) (generation : Generation) (works : List (String × Work))
    (start later : Host) : Prop :=
  ∃ tasks : List Task,
    tasks.map (fun task => (task.name, task.work)) = works ∧
    (tasks.map (·.id)).Pairwise (· < ·) ∧
    ∀ task ∈ tasks, task ∈ later.supervisor.tasks ∧ start.supervisor.nextId ≤ task.id ∧
      task.owner = owner ∧ task.generation = generation ∧ task.progress = .fresh

namespace HandedOver

variable {owner : Option String} {generation : Generation} {works : List (String × Work)}
  {start middle later : Host}

theorem of_later (handed : HandedOver owner generation works middle later)
    (older : start.supervisor.nextId ≤ middle.supervisor.nextId) :
    HandedOver owner generation works start later := by
  obtain ⟨tasks, listed, ordered, handed⟩ := handed
  refine ⟨tasks, listed, ordered, fun task member => ?_⟩
  obtain ⟨tracked, newer, rest⟩ := handed task member
  exact ⟨tracked, Nat.le_trans older newer, rest⟩

theorem cons (handed : HandedOver owner generation works middle later) {task : Task}
    (tracked : task ∈ later.supervisor.tasks) (numbered : task.id = start.supervisor.nextId)
    (issued : start.supervisor.nextId < middle.supervisor.nextId) (owned : task.owner = owner)
    (current : task.generation = generation) (fresh : task.progress = .fresh) :
    HandedOver owner generation ((task.name, task.work) :: works) start later := by
  obtain ⟨tasks, listed, ordered, handed⟩ := handed
  have newer : ∀ other ∈ tasks, start.supervisor.nextId < other.id := fun other member =>
    Nat.lt_of_lt_of_le issued (handed other member).2.1
  refine ⟨task :: tasks, ?_, List.pairwise_cons.mpr ⟨?_, ordered⟩, ?_⟩
  · rw [List.map_cons, listed]
  · intro number member
    obtain ⟨other, inside, rfl⟩ := List.mem_map.mp member
    exact Nat.lt_of_le_of_lt (Nat.le_of_eq numbered) (newer other inside)
  · intro other member
    rcases List.mem_cons.mp member with rfl | inside
    · exact ⟨tracked, Nat.le_of_eq numbered.symm, owned, current, fresh⟩
    · obtain ⟨kept, _, rest⟩ := handed other inside
      exact ⟨kept, Nat.le_of_lt (newer other inside), rest⟩

end HandedOver

section HandingOver

variable {start : Host} {publish : Publisher} {occasion : Occasion}

private theorem visit_hands {host : Host} (current : host.generation = occasion.generation)
    {leaf : Action} {name : String} {work : Work}
    (given : leaf.work? occasion.payload = some (name, work)) :
    (after (visit publish occasion leaf) host).supervisor =
      (host.supervisor.add name occasion.generation occasion.owner work).1 := by
  have spawned (host : Host) (current : host.generation = occasion.generation) :
      (after (handOver occasion name work) host).supervisor =
        (host.supervisor.add name occasion.generation occasion.owner work).1 := by
    have accepted : (after (spawn name occasion.generation occasion.owner work) host).supervisor =
        (host.supervisor.add name occasion.generation occasion.owner work).1 := by
      rw [spawn, after_get_bind, if_pos current]
      rfl
    rw [handOver, after_bind, ← accepted]
    split <;> rfl
  cases leaf with
  | call name commands => cases given
  | group name members => cases given
  | task name source =>
      cases source with
      | panics message => cases given
      | job job =>
          cases given
          exact spawned (after (mark (.called occasion.generation name)) host) current
  | after delay actions =>
      cases given
      exact spawned host current

/-- Leaves that publish nothing against an owner leave behind all work that they hand over
for the owner. -/
theorem visits_hand {owner : String} (tidy : start.Tidy)
    (served : ∀ start event, RunKeeps (Reaches false start) (publish event))
    (current : occasion.generation = start.generation) (owned : occasion.owner = some owner)
    {leaves : List Action}
    (spared : ∀ leaf ∈ leaves, ∀ event ∈ leaf.events, Spares publish start owner event)
    {host : Host} (path : Reaches false start host) (outcome : Outcome) :
    HandedOver (some owner) occasion.generation
      ((leaves.takeWhile (·.gives)).filterMap (·.work? occasion.payload)) host
      (ran (leaves.foldlM (visitNext publish occasion) outcome) host).2 := by
  induction leaves generalizing host outcome with
  | nil => exact ⟨[], rfl, .nil, fun _ member => absurd member List.not_mem_nil⟩
  | cons leaf rest previous =>
      by_cases gives : leaf.gives
      case neg =>
        rw [List.takeWhile_cons_of_neg gives]
        exact ⟨[], rfl, .nil, fun _ member => absurd member List.not_mem_nil⟩
      have now : host.generation = occasion.generation := path.generation_eq.trans current.symm
      have visited := visit_reaches (served start) current leaf host path
      have later := visit_reaches (served host) now.symm leaf host .refl
      have sparedRest : ∀ other ∈ rest, ∀ event ∈ other.events, Spares publish start owner event :=
        fun other member => spared other (List.mem_cons_of_mem _ member)
      rw [List.takeWhile_cons_of_pos gives, List.foldlM_cons,
        ran_bind_ok (ran_visitNext_counted (visit_counts now gives) outcome)]
      have handed := previous sparedRest visited
        ((answer (visit publish occasion leaf) host).count outcome)
      cases given : leaf.work? occasion.payload with
      | none =>
          rw [List.filterMap_cons_none given]
          exact handed.of_later later.evolves.nextId_le
      | some work =>
          obtain ⟨name, work⟩ := work
          have supervisor : (after (visit publish occasion leaf) host).supervisor =
              (host.supervisor.add name occasion.generation occasion.owner work).1 :=
            visit_hands now given
          let task : Task := {
            id := host.supervisor.nextId, name, generation := occasion.generation
            owner := occasion.owner, work }
          have tracked : Pending start task (after (visit publish occasion leaf) host) := by
            refine ⟨visited, ?_⟩
            rw [supervisor, Supervisor.add_tasks]
            exact List.mem_append_right _ List.mem_cons_self
          have kept := visits_pending tidy (served start) current owned rfl sparedRest
            ((answer (visit publish occasion leaf) host).count outcome) _ tracked
          have issued : host.supervisor.nextId <
              (after (visit publish occasion leaf) host).supervisor.nextId := by
            rw [supervisor]
            exact Nat.lt_succ_self _
          rw [List.filterMap_cons_some given]
          exact handed.cons kept.tracked rfl issued owned rfl rfl

private theorem visits_cancelled (leaves : List Action) (made : Outcome) (host : Host)
    {outcome : Outcome}
    (result : (ran (leaves.foldlM (visitNext publish occasion) made) host).1 = .ok outcome) :
    outcome.cancelled = made.cancelled := by
  induction leaves generalizing host made with
  | nil =>
      cases result
      rfl
  | cons leaf rest previous =>
      have counted (fate : Fate) : (fate.count made).cancelled = made.cancelled := by
        cases fate <;> rfl
      rw [List.foldlM_cons, ran_bind, ran_visitNext] at result
      cases fate : answer (visit publish occasion leaf) host with
      | escaped failure =>
          rw [fate] at result
          cases result
      | _ =>
          rw [fate] at result
          exact (previous _ _ result).trans (counted _)

theorem HandedOver.progress {owner : Option String} {generation : Generation}
    {works : List (String × Work)} {start later : Host}
    (handed : HandedOver owner generation works start later) {id : TaskId}
    (older : id < start.supervisor.nextId) (point : Progress) :
    HandedOver owner generation works start (after (progress id point) later) := by
  obtain ⟨tasks, same, ordered, handed⟩ := handed
  refine ⟨tasks, same, ordered, fun task member => ?_⟩
  obtain ⟨pending, newer, rest⟩ := handed task member
  refine ⟨List.mem_map.mpr ⟨task, pending, if_neg ?_⟩, newer, rest⟩
  exact Nat.ne_of_gt (Nat.lt_of_lt_of_le older newer)

end HandingOver

/-- A delayed task of the current generation executes its actions, and ends or panics with them. -/
theorem after_finishDelayed {host next : Host} {task : Task}
    (current : task.generation = host.generation) {actions : List Action} {payload : Payload}
    {result : Except Failure Outcome} (executed : ran (executeAll publish
      { generation := task.generation, owner := task.owner, payload } actions {}) host =
        (result, next)) :
    after (finishDelayed task actions payload) host =
      after (progress task.id (if result.isOk then .ended else .crashed)) next := by
  rw [finishDelayed, after_get_bind, if_pos current.symm, after_bind, after_attempt,
    answer_attempt, ran_bind, executed]
  cases result <;> rfl

/-- A delayed task hands over what its actions defer in the name of its own owner. -/
theorem finishDelayed_hands {host : Host} (tidy : host.Tidy) {task : Task}
    (tracked : task ∈ host.supervisor.tasks) {owner : String} (owned : task.owner = some owner)
    (current : task.generation = host.generation) {actions : List Action} (payload : Payload)
    (spared : ∀ leaf ∈ Action.leavesOf actions, ∀ event ∈ leaf.events,
      Spares publish host owner event) :
    HandedOver (some owner) task.generation
      (((Action.leavesOf actions).takeWhile (·.gives)).filterMap (·.work? payload)) host
      (after (finishDelayed task actions payload) host) := by
  have older := tidy.numbered.below task tracked
  let occasion : Occasion := { generation := task.generation, owner := task.owner, payload }
  have handed : HandedOver (some owner) occasion.generation
      (((Action.leavesOf actions).takeWhile (·.gives)).filterMap (·.work? payload)) host
      (ran ((Action.leavesOf actions).foldlM (visitNext publish occasion) {}) host).2 :=
    visits_hand tidy (fun _ => publish_reaches) current owned spared .refl {}
  rw [← executeAll_eq] at handed
  rw [after_finishDelayed current rfl]
  exact handed.progress older _

/-- The numbers of interval timers, and of the tasks that native scripts spawned before. -/
inductive Background (start host : Host) : TaskId → Prop where
  | timer {id : TaskId} (running : id ∈ host.registry.timers) : Background start host id
  | spawned {earlier : Host} (reached : start.Evolves earlier) (context : LoadContext)
      (name : String) (job : Job) {handle : TaskHandle}
      (accepted : (answer ((addTask name job).run context) earlier).1 = some handle)
      (since : (after ((addTask name job).run context) earlier).Evolves host) :
      Background start host handle.id

theorem Background.unowned {start host : Host} {id : TaskId} (background : Background start host id)
    (tidy : start.Tidy) (reached : start.Evolves host) : host.Unowned id := by
  cases background with
  | timer running => exact (reached.tidy tidy).timed id running
  | spawned before context name job accepted since =>
      exact since.issued (spawn_unowned (before.tidy tidy).numbered accepted)

/-! ## Dispatches -/

/-- What a dispatch on an occasion does to the tasks of a host: `ready` is the host before
the first of the leaf actions that are due runs, with the counts made so far, and `final` the
host in which it ends. -/
structure Restarting (start : Host) (publish : Publisher) (occasion : Occasion) (owner : String)
    (due : Bool) (leaves : List Action) (host : Host) (made : Outcome) (ready : Host)
    (result : Except Failure Outcome) (final : Host) : Prop where
  readied : Readied owner due host ready made.cancelled
  visits : ran (leaves.foldlM (visitNext publish occasion) made) ready = (result, final)
  cancelled : ∀ outcome, result = .ok outcome → outcome.cancelled = made.cancelled
  /-- A dropped task never gets control again. -/
  gone : due = true → ∀ task ∈ host.supervisor.tasks, task.owner = some owner →
    ∀ later, ready.Evolves later → after (runTask task.id) later = later ∧
      ∃ since, later.deeds = since ++ ready.deeds ∧
        ∀ generation, .resumed generation task.id ∉ since
  background : ∀ id, Background start host id →
    ready.supervisor.task? id = host.supervisor.task? id
  /-- What anyone has pending when the first action runs is still pending in the end, unless
  an event that the actions publish brings something about that drops it. -/
  stays : ∀ other, (∀ leaf ∈ leaves, ∀ event ∈ leaf.events, Spares publish ready other event) →
    ∀ task ∈ ready.supervisor.tasks, task.owner = some other → task.progress.isOver = false →
      task ∈ final.supervisor.tasks
  hands : (∀ leaf ∈ leaves, ∀ event ∈ leaf.events, Spares publish ready owner event) →
    HandedOver (some owner) occasion.generation
      ((leaves.takeWhile (·.gives)).filterMap (·.work? occasion.payload)) ready final

/-- In every reachable host, a dispatch for an owner drops exactly what the owner has pending
where it restarts the owner and something matches, and otherwise nothing. A dispatch of
another generation changes nothing, and delayed tasks hand over in the name of their owner. -/
theorem dispatch_restarts (config : ScriptingConfig) (dataDirectory : String) (tree : FileTree)
    (vocabulary : Vocabulary) (shelf : ScriptShelf) {host : Host}
    (reached : (create config dataDirectory tree vocabulary shelf).Evolves host) (depth : Nat)
    (schema : EventSchema) (owner : String) (kind : EventKind) (payload : Payload) :
    let start := create config dataDirectory tree vocabulary shelf
    let owned := schema.withOwner owner
    let occasion : Occasion := { generation := host.generation, owner := some owner, payload }
    let making := readyDispatch occasion owned kind
    let dispatched (generation : Generation) :=
      ran (dispatch (publishWithin depth) generation owned kind payload) host
    Restarting start (publishWithin depth) occasion owner (host.restarts occasion owned kind)
        (host.leavesDue occasion owned kind) host (answer making host) (after making host)
        (dispatched host.generation).1 (dispatched host.generation).2 ∧
      (∀ generation, host.generation ≠ generation →
        ∃ outcome, dispatched generation = (.ok outcome, host) ∧ outcome.cancelled = 0) ∧
      (∀ task ∈ host.supervisor.tasks, task.owner = some owner →
        ∀ delay actions payload, task.work = .delayed delay actions payload →
          task.generation = host.generation →
          (∀ leaf ∈ Action.leavesOf actions, ∀ event ∈ leaf.events,
            Spares publish host owner event) →
          HandedOver (some owner) task.generation
            (((Action.leavesOf actions).takeWhile (·.gives)).filterMap (·.work? payload)) host
            (after (finishDelayed task actions payload) host)) := by
  intro start owned occasion making dispatched
  have startTidy := create_tidy config dataDirectory tree vocabulary shelf
  have tidy := reached.tidy startTidy
  have served (start : Host) (event : Event) :
      RunKeeps (Reaches false start) (publishWithin depth event) :=
    publishWithin_reaches depth event
  refine ⟨?_, ?_, ?_⟩
  · have readied : Readied owner (host.restarts occasion owned kind) host (after making host)
        (answer making host).cancelled :=
      readyDispatch_readied rfl owned kind host
    have split : dispatched host.generation =
        ran ((host.leavesDue occasion owned kind).foldlM
          (visitNext (publishWithin depth) occasion) (answer making host)) (after making host) :=
      ran_dispatch_ready (publishWithin depth) owned kind payload host
    have readyTidy := readied.tidy tidy
    have current : occasion.generation = (after making host).generation := by
      rw [readied.frame]
    constructor
    case readied => exact readied
    case visits => exact split.symm
    case cancelled =>
      intro outcome result
      rw [split] at result
      exact visits_cancelled _ _ _ result
    case gone =>
      intro due task tracked taskOwned later path
      rw [due] at readied
      exact readied.idle tidy.numbered tracked taskOwned path
    case background =>
      intro id background
      exact readied.unowned (background.unowned startTidy reached)
    case stays =>
      intro other spared task tracked taskOwned unfinished
      rw [split]
      exact (visits_pending readyTidy (served _) current taskOwned unfinished spared
        (answer making host) (after making host) ⟨.refl, tracked⟩).tracked
    case hands =>
      intro spared
      rw [split]
      exact visits_hand readyTidy served current rfl spared .refl _
  · intro generation stale
    simp only [dispatched, dispatch]
    split
    · exact ⟨{}, rfl, rfl⟩
    · exact ⟨{ stale := true }, runEntry_stale stale _ _ _, rfl⟩
  · intro task tracked taskOwned delay actions payload delayed current spared
    exact finishDelayed_hands tidy tracked taskOwned current payload spared

def lateOff : EventSchema where
  entries := [{
    kind := .bus "motion"
    body := .unconditional [.after (.ofMilliseconds 5000) [.call "off" []]]
    mode := .restart }]

def twoMotions : List Operation := [
  .dispatch 0 (lateOff.withOwner "porch") (.bus "motion") .none,
  .dispatch 0 (lateOff.withOwner "hall") (.bus "motion") .none]

theorem dispatch_restarts_porch :
    let host := after (run twoMotions) (create {} "" {} {} [])
    let occasion : Occasion := { generation := host.generation, owner := some "porch" }
    let ready := after (readyDispatch occasion (lateOff.withOwner "porch") (.bus "motion")) host
    let made := ran (dispatch (publishWithin 1) host.generation (lateOff.withOwner "porch")
      (.bus "motion") .none) host
    ready.supervisor.tasks.map (fun task => (task.id, task.owner)) = [(1, some "hall")] ∧
      (∀ outcome, made.1 = .ok outcome → outcome.cancelled = 1) ∧
      HandedOver (some "porch") host.generation
        [("after 5s", .delayed (.ofMilliseconds 5000) [.call "off" []] .none)] ready made.2 := by
  intro host occasion ready made
  obtain ⟨restarting, _, _⟩ := dispatch_restarts {} "" {} {} [] (run_evolves twoMotions _) 1
    lateOff "porch" (.bus "motion") .none
  have due : host.leavesDue occasion (lateOff.withOwner "porch") (.bus "motion") =
      [.after (.ofMilliseconds 5000) [.call "off" []]] := rfl
  have work : (([.after (.ofMilliseconds 5000) [.call "off" []]] : List Action).takeWhile
      (·.gives)).filterMap (·.work? occasion.payload) =
      [("after 5s", .delayed (.ofMilliseconds 5000) [.call "off" []] .none)] := by
    cbv
  have handed := restarting.hands
  rw [due, work] at handed
  dsimp only at handed
  dsimp only [host, occasion, ready, made]
  refine ⟨?_, ?_, handed fun leaf member event published => ?_⟩
  · rw [restarting.readied.tasks]
    cbv
  · intro outcome result
    rw [restarting.cancelled outcome result, restarting.readied.cancelled]
    cbv
  · cases List.mem_singleton.mp member
    cases published

end Host

end HomeRules
