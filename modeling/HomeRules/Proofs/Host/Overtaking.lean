import HomeRules.Proofs.Host.Course
import HomeRules.Proofs.Host.Restart

/-!
# Lists that restart their own owner

A delayed list may publish an event that restarts its owner while it is being executed. The
dispatch to which this leads drops everything the owner has pending and counts it, the task
of the list among it, and none of it is ever given control again. The execution of the list is
no task, though. It goes on with the next leaf, and what it hands over from there on is tracked
as before.
-/

set_option autoImplicit false

namespace HomeRules

/-- The name under which visiting a leaf begins a call, or asks a task for its work. -/
def Action.begins? : Action → Option String
  | .call name _ => some name
  | .task name _ => some name
  | _ => none

/-- The deeds with which visits to leaves begin. -/
def Occasion.calls (occasion : Occasion) (leaves : List Action) : List Deed :=
  (leaves.filterMap (·.begins?)).map (.called occasion.generation)

namespace Host

/-! ## Commands of a call among leaves -/

/-- Visiting the leaves of an occasion comes to a command in some host: all leaves before its
call give their work, and the commands before it in the call complete. -/
structure Comes (publish : Publisher) (occasion : Occasion) (before : List Action) (name : String)
    (first : List Command) (start host : Host) : Prop where
  gives : ∀ leaf ∈ before, leaf.gives
  completes : ran (first.forM (perform publish name occasion.payload))
    (after (mark (.called occasion.generation name))
      (after (before.mapM (visit publish occasion)) start)) = (.ok (), host)

section Visits

variable {publish : Publisher} {occasion : Occasion} {start host : Host}

/-- Visiting leaves past one that gives its work goes on with those behind it. -/
theorem ran_visits_past (served : ∀ event, RunKeeps (Reaches false start) (publish event))
    (current : occasion.generation = start.generation) (path : Reaches false start host)
    {before : List Action} (gives : ∀ leaf ∈ before, leaf.gives) {leaf : Action}
    (given : leaf.gives) (rest : List Action) (outcome : Outcome) :
    ∃ counted, ran ((before ++ leaf :: rest).foldlM (visitNext publish occasion) outcome) host =
      ran (rest.foldlM (visitNext publish occasion) counted)
        (after (visit publish occasion leaf)
          (after (before.mapM (visit publish occasion)) host)) := by
  obtain ⟨_, visited⟩ := ran_leaves served current path gives outcome
  have reached := Keeps.mapM (fun leaf => visit_reaches served current leaf) before host path
  have now : (after (before.mapM (visit publish occasion)) host).generation =
      occasion.generation := reached.generation_eq.trans current.symm
  rw [List.foldlM_append, ran_bind_ok visited, List.foldlM_cons,
    ran_bind_ok (ran_visitNext_counted (visit_counts now given) _)]
  exact ⟨_, rfl⟩

theorem visits_reach (served : ∀ event, RunKeeps (Reaches false start) (publish event))
    (current : occasion.generation = start.generation) (leaves : List Action)
    (outcome : Outcome) :
    RunKeeps (Reaches false start) (leaves.foldlM (visitNext publish occasion) outcome) :=
  .foldlM_of_mem (fun leaf _ => visitNext_keeps (visit_reaches served current leaf)) outcome

/-- What holds when the commands of a call are over holds when the call is. -/
theorem visit_call_after {fact : Host → Prop} (warned : ∀ text, Keeps fact (warn text))
    {name : String} {commands : List Command}
    (ended : fact (ran (commands.forM (perform publish name occasion.payload))
      (after (mark (.called occasion.generation name)) host)).2) :
    fact (after (visit publish occasion (.call name commands)) host) := by
  rw [visit, after_bind, after_bind, after_attempt]
  split
  · exact ended
  · exact warned _ _ ended

end Visits

/-! ## Dispatches that events bring about -/

/-- A dispatch that is about to begin inside its gate, in a host, and the depth to which the
events of its actions may nest. -/
structure Inner where
  depth : Nat
  delivery : Delivery
  payload : Payload
  host : Host

namespace Inner

def occasion (inner : Inner) : Occasion where
  generation := inner.delivery.generation
  owner := inner.delivery.schema.owner
  payload := inner.payload

def making (inner : Inner) : Step Outcome :=
  readyDispatch inner.occasion inner.delivery.schema inner.delivery.kind

/-- The host in which the first action of the dispatch runs. -/
def ready (inner : Inner) : Host :=
  after inner.making inner.host

def cancelled (inner : Inner) : Nat :=
  (answer inner.making inner.host).cancelled

def leaves (inner : Inner) : List Action :=
  inner.host.leavesDue inner.occasion inner.delivery.schema inner.delivery.kind

/-- The host in which the dispatch ends. -/
def final (inner : Inner) : Host :=
  (ran (dispatch (publishWithin inner.depth) inner.delivery.generation inner.delivery.schema
    inner.delivery.kind inner.payload) inner.host).2

/-- The dispatch drops what an owner has pending. -/
structure Restarts (inner : Inner) (owner : String) : Prop where
  owned : inner.delivery.schema.owner = some owner
  current : inner.delivery.generation = inner.host.generation
  due : inner.host.restarts inner.occasion inner.delivery.schema inner.delivery.kind = true

end Inner

/-- Publishing an event in a host brings a dispatch about: that of one of its listeners, or one
that an event brings about which an action of such a dispatch publishes, and so on. -/
inductive BringsAbout : Nat → Event → Host → Inner → Prop where
  | listener {depth : Nat} {event : Event} {host between : Host} {entered : Gate}
      {earlier later : List (Listener Delivery)} {listener : Listener Delivery}
      (listens : host.bus.listenersTo event.kind = earlier ++ listener :: later)
      (delivered : ran (deliver (publishWithin depth) earlier event.payload) host =
        (.ok (), between))
      (admitted : (between.gate listener.target.gate).enter? = some entered) :
      BringsAbout (depth + 1) event host {
        depth, delivery := listener.target, payload := event.payload
        host := after (changeGate listener.target.gate fun _ => entered) between }
  | nested {depth : Nat} {event next : Event} {host point : Host} {outer inner : Inner}
      {before rest : List Action} {name : String} {first later : List Command}
      (opens : BringsAbout depth event host outer)
      (current : outer.delivery.generation = outer.host.generation)
      (leaves : outer.leaves = before ++ .call name (first ++ .publish next :: later) :: rest)
      (comes : Comes (publishWithin outer.depth) outer.occasion before name first outer.ready
        point)
      (deeper : BringsAbout outer.depth next point inner) : BringsAbout depth event host inner

/-! ## The way to an inner dispatch -/

/-- A host on the way of a host that serves events and gives control to no task. -/
structure Underway (start : Host) (inside : List GateId) (host : Host) : Prop where
  path : Reaches false start host
  acting : Acting .outside ⟨[], none, start⟩ inside none host

section Underway

variable {start host : Host} {inside : List GateId}

theorem deliver_underway (depth : Nat) (listeners : List (Listener Delivery))
    (payload : Payload) :
    RunKeeps (Underway start inside) (deliver (publishWithin depth) listeners payload) := by
  unfold deliver
  refine .forM (fun listener host underway => ?_) listeners
  exact ⟨dispatchInside_reaches (publishWithin_reaches depth) listener.target payload host
      underway.path,
    dispatchInside_acts (publishWithin_acts depth) listener.target payload host
      underway.acting⟩

theorem visit_underway {occasion : Occasion} (current : occasion.generation = start.generation)
    (depth : Nat) (leaf : Action) :
    Keeps (Underway start inside) (visit (publishWithin depth) occasion leaf) :=
  fun host underway =>
    ⟨visit_reaches (publishWithin_reaches depth) current leaf host underway.path,
      visit_keeps (execute_acts (publishWithin_acts depth inside) occasion leaf {}) host
        underway.acting⟩

theorem perform_underway (depth : Nat) (name : String) (payload : Payload) (command : Command) :
    RunKeeps (Underway start inside) (perform (publishWithin depth) name payload command) :=
  fun host underway =>
    ⟨perform_reaches (publishWithin_reaches depth) name payload command host underway.path,
      perform_acts (publishWithin_acts depth inside) name payload command host underway.acting⟩

theorem Comes.underway {depth : Nat} {occasion : Occasion} {before : List Action} {name : String}
    {first : List Command} {begun : Host}
    (comes : Comes (publishWithin depth) occasion before name first begun host)
    (current : occasion.generation = start.generation)
    (underway : Underway start inside begun) : Underway start inside host := by
  have visited := Keeps.mapM (visit_underway current depth) before begun underway
  have marked : Underway start inside (after (mark (.called occasion.generation name))
      (after (before.mapM (visit (publishWithin depth) occasion)) begun)) :=
    ⟨visited.path.tail (.start _ (congrArg some (current.trans visited.path.generation_eq.symm))),
      visited.acting.tail (.beside rfl)⟩
  have performed : Underway start inside (ran _ _).2 :=
    RunKeeps.forM (perform_underway depth name occasion.payload) first _ marked
  rw [comes.completes] at performed
  exact performed

theorem Inner.ready_underway {inner : Inner}
    (current : inner.delivery.generation = inner.host.generation)
    (underway : Underway start inside inner.host) : Underway start inside inner.ready := by
  refine ⟨readyDispatch_reaches (current.trans underway.path.generation_eq) underway.path _ _, ?_⟩
  have acts : Keeps (Acting .outside ⟨[], none, start⟩ inside none) inner.making := by
    unfold making readyDispatch
    cases inner.delivery.schema.entry? inner.delivery.kind with
    | none => exact .pure _
    | some entry =>
        refine .read fun _ => .bind (.forM (fun _ => announce_acts _ _) _) fun _ =>
          .bind ?_ fun _ => .pure _
        unfold dropPending
        split
        · exact restartOwner_acts _
        · exact .pure _
  exact acts _ underway.acting

/-- A dispatch that an event brings about begins on the way of whoever publishes the event. -/
theorem BringsAbout.underway {depth : Nat} {event : Event} {inner : Inner}
    (brings : BringsAbout depth event host inner) (underway : Underway start inside host) :
    ∃ inside, Underway start inside inner.host := by
  induction brings generalizing inside with
  | @listener depth event host between entered earlier later listener listens delivered admitted =>
      have before : Underway start inside
          (ran (deliver (publishWithin depth) earlier event.payload) host).2 :=
        deliver_underway depth earlier event.payload host underway
      rw [delivered] at before
      exact ⟨_, before.path.tail (.gate _ _), before.acting.tail (.enter admitted)⟩
  | nested opens current leaves comes deeper outside within =>
      obtain ⟨inside, outer⟩ := outside underway
      have now := current.trans outer.path.generation_eq
      exact within (comes.underway now (Inner.ready_underway current outer))

end Underway

/-! ## The way from an inner dispatch -/

section Leaving

variable {start host : Host}

/-- Where publishing leads, the call leads that publishes. -/
theorem Comes.leads {publish : Publisher} {occasion : Occasion} {before : List Action}
    {name : String} {first : List Command} {begun : Host}
    (comes : Comes publish occasion before name first begun host)
    (served : ∀ event, RunKeeps (Reaches false start) (publish event)) {event : Event}
    (published : Reaches false start (ran (publish event) host).2) (later : List Command) :
    Reaches false start (after (visit publish occasion
      (.call name (first ++ .publish event :: later)))
        (after (before.mapM (visit publish occasion)) begun)) := by
  refine visit_call_after (fun _ => warn_reaches _) ?_
  rw [ran_forM_past comes.completes]
  refine RunKeeps.bind_after _ ?_ fun _ =>
    .forM (perform_reaches served name occasion.payload) later
  exact RunKeeps.bind_after _ published fun _ => .lift (note_reaches _)

theorem Inner.final_eq {inner : Inner}
    (current : inner.delivery.generation = inner.host.generation) :
    inner.final = (ran (inner.leaves.foldlM
      (visitNext (publishWithin inner.depth) inner.occasion) (answer inner.making inner.host))
        inner.ready).2 := by
  have split := ran_dispatch_ready (publishWithin inner.depth) inner.delivery.schema
    inner.delivery.kind inner.payload inner.host
  rw [← current] at split
  exact congrArg Prod.snd split

/-- What a dispatch leads to is still ahead when the event that brought it about is published. -/
theorem BringsAbout.leads {depth : Nat} {event : Event} {inner : Inner}
    (brings : BringsAbout depth event host inner) (current : host.generation = start.generation)
    (path : Reaches false start inner.final) :
    Reaches false start (ran (publishWithin depth event) host).2 := by
  induction brings with
  | @listener depth event host between entered earlier later listener listens delivered admitted =>
      have left : Reaches false start
          (ran (dispatchInside (publishWithin depth) listener.target event.payload) between).2 := by
        rw [ran_dispatchInside_admitted admitted]
        exact path.tail (.gate _ _)
      rw [publishWithin, ran_get_bind, listens]
      refine RunKeeps.bind_after _ ?_ fun _ => .pure _
      rw [deliver, ran_forM_past delivered]
      exact RunKeeps.bind_after _ left fun _ =>
        deliver_reaches (publishWithin_reaches depth) later event.payload
  | @nested depth event next host point outer inner before rest name first later opens now leaves
      comes deeper outside within =>
      have begins : Underway host [] host := ⟨.refl, .refl⟩
      obtain ⟨inside, outerWay⟩ := opens.underway begins
      have ready := Inner.ready_underway now outerWay
      have owned : outer.occasion.generation = host.generation :=
        now.trans outerWay.path.generation_eq
      have reached := comes.underway owned ready
      have published := within (reached.path.generation_eq.trans current) path
      have left := comes.leads (publishWithin_reaches outer.depth) published later
      refine outside current ?_
      have gives : (Action.call name (first ++ .publish next :: later)).gives := rfl
      obtain ⟨counted, visited⟩ := ran_visits_past (publishWithin_reaches outer.depth) owned
        ready.path comes.gives gives rest (answer outer.making outer.host)
      rw [Inner.final_eq now, leaves, visited]
      exact visits_reach (publishWithin_reaches outer.depth) (owned.trans current) rest counted _
        left

end Leaving

/-! ## What visits leave behind -/

section Calls

variable {publish : Publisher} {occasion : Occasion}

/-- What begins in a host, and then goes on, is among the deeds since. -/
private theorem called_since {host later : Host} {name : String}
    (path : Reaches false (after (mark (.called occasion.generation name)) host) later) :
    ∃ since, later.deeds = since ++ host.deeds ∧
      [Deed.called occasion.generation name].Sublist since.reverse := by
  obtain ⟨since, deeds⟩ := path.deeds
  refine ⟨since ++ [.called occasion.generation name], ?_, ?_⟩
  · rw [deeds, List.append_assoc]
    rfl
  · rw [List.reverse_append]
    exact List.sublist_append_left _ _

private theorem visit_called
    (served : ∀ start event, RunKeeps (Reaches false start) (publish event))
    (leaf : Action) (host : Host) :
    ∃ since, (after (visit publish occasion leaf) host).deeds = since ++ host.deeds ∧
      (occasion.calls [leaf]).Sublist since.reverse := by
  cases leaf with
  | call name commands =>
      refine called_since (visit_call_after (fun _ => warn_reaches _) ?_)
      exact RunKeeps.forM (perform_reaches (served _) name _) commands _ .refl
  | task name source =>
      refine called_since ?_
      cases source with
      | job job => exact handOver_reaches _ _ _ .refl
      | panics message => exact .refl
  | group name members => exact ⟨[], rfl, .slnil⟩
  | after delay actions =>
      obtain ⟨since, deeds⟩ := Reaches.deeds (handOver_reaches _ _ host .refl)
      exact ⟨since, deeds, List.nil_sublist _⟩

/-- Visiting leaves begins the calls of all that give their work, in their order. -/
theorem visits_called (served : ∀ start event, RunKeeps (Reaches false start) (publish event))
    {start host : Host} (current : occasion.generation = start.generation)
    (path : Reaches false start host) (leaves : List Action) (outcome : Outcome) :
    ∃ since, (ran (leaves.foldlM (visitNext publish occasion) outcome) host).2.deeds =
        since ++ host.deeds ∧
      (occasion.calls (leaves.takeWhile (·.gives))).Sublist since.reverse := by
  induction leaves generalizing host outcome with
  | nil => exact ⟨[], rfl, .slnil⟩
  | cons leaf rest previous =>
      by_cases gives : leaf.gives
      case neg =>
        obtain ⟨since, deeds⟩ :=
          Reaches.deeds (visits_reach (served host) (current.trans path.generation_eq.symm)
            (leaf :: rest) outcome host .refl)
        rw [List.takeWhile_cons_of_neg gives]
        exact ⟨since, deeds, List.nil_sublist _⟩
      have counts : (answer (visit publish occasion leaf) host).counts :=
        visit_counts (path.generation_eq.trans current.symm) gives
      obtain ⟨first, begun, called⟩ := visit_called served leaf host
      have visited := visit_reaches (served start) current leaf host path
      obtain ⟨since, deeds, others⟩ := previous visited
        ((answer (visit publish occasion leaf) host).count outcome)
      refine ⟨since ++ first, ?_, ?_⟩
      · rw [List.foldlM_cons, ran_bind_ok (ran_visitNext_counted counts outcome), deeds, begun,
          List.append_assoc]
      · have split : occasion.calls (leaf :: rest.takeWhile (·.gives)) =
            occasion.calls [leaf] ++ occasion.calls (rest.takeWhile (·.gives)) := by
          simp only [Occasion.calls, ← List.map_append, ← List.filterMap_append,
            List.singleton_append]
        rw [List.takeWhile_cons_of_pos gives, List.reverse_append, split]
        exact called.append others

end Calls

end Host

/-! ## The task of a list -/

def Task.occasion (task : Task) (payload : Payload) : Occasion where
  generation := task.generation
  owner := task.owner
  payload := payload

/-- A task executes its delayed list when it is given control. -/
inductive Task.Executes (task : Task) (actions : List Action) (payload : Payload) : Prop where
  | atOnce {delay : Duration} (work : task.work = .delayed delay actions payload)
      (fresh : task.progress = .fresh) (none : delay.isZero)
  | awoken {delay : Duration} {due rounds : Nat}
      (work : task.work = .delayed delay actions payload)
      (waited : task.progress = .waiting due rounds)

theorem Task.Executes.unfinished {task : Task} {actions : List Action} {payload : Payload}
    (executes : task.Executes actions payload) : task.progress.isOver = false := by
  cases executes with
  | atOnce work fresh none => rw [fresh]; rfl
  | awoken work waited => rw [waited]; rfl

namespace Host

/-- The host in which a task has been given control. -/
def given (host : Host) (task : Task) : Host :=
  after (mark (.resumed task.generation task.id)) host

theorem runTask_executes {host : Host} {task : Task} {actions : List Action} {payload : Payload}
    (executes : task.Executes actions payload)
    (tracked : host.supervisor.task? task.id = some task) :
    after (runTask task.id) host =
      after (finishDelayed task actions payload) (host.given task) := by
  rw [runTask, after_get_bind, tracked]
  cases executes with
  | atOnce work fresh none =>
      simp only [fresh, after_bind, beginTask, work, if_pos none]
      rfl
  | awoken work waited =>
      simp only [waited, after_bind, continueTask, work]
      rfl

/-! ## Lists that are overtaken -/

/-- A task executes a delayed list, and publishing an event in one of its leaves brings about a
dispatch that restarts the owner of the task. -/
structure Overtaking (host : Host) where
  task : Task
  owner : String
  actions : List Action
  payload : Payload
  /-- The leaves before and after the one that publishes the event. -/
  before : List Action
  rest : List Action
  name : String
  /-- The commands of this leaf before and after the one that publishes the event. -/
  first : List Command
  later : List Command
  event : Event
  /-- The host in which the event is published. -/
  point : Host
  inner : Inner
  executes : task.Executes actions payload
  tracked : host.supervisor.task? task.id = some task
  owned : task.owner = some owner
  current : task.generation = host.generation
  leaves : Action.leavesOf actions =
    before ++ .call name (first ++ .publish event :: later) :: rest
  comes : Comes publish (task.occasion payload) before name first (host.given task) point
  brings : BringsAbout nestingLimit event point inner
  restarts : inner.Restarts owner

namespace Overtaking

variable {host : Host}

def occasion (overtaking : host.Overtaking) : Occasion :=
  overtaking.task.occasion overtaking.payload

/-- The host that the leaf leaves from which the event was published. -/
def left (overtaking : host.Overtaking) : Host :=
  after (visit publish overtaking.occasion (.call overtaking.name
      (overtaking.first ++ .publish overtaking.event :: overtaking.later)))
    (after (overtaking.before.mapM (visit publish overtaking.occasion))
      (host.given overtaking.task))

/-- The tasks that the dispatch drops beside that of the list. -/
def others (overtaking : host.Overtaking) : List Task :=
  overtaking.inner.host.supervisor.tasks.filter fun other =>
    other.owner = some overtaking.owner ∧ other.id ≠ overtaking.task.id

end Overtaking

/-- What becomes of an owner that is restarted while it executes a delayed list. -/
structure Overtaken {host : Host} (overtaking : host.Overtaking) (final : Host) : Prop where
  /-- All that the owner has pending is dropped before the first action of the dispatch. -/
  readied : Readied overtaking.owner true overtaking.inner.host overtaking.inner.ready
    overtaking.inner.cancelled
  /-- The task of the list counts as well, unless it had been dropped before. -/
  counted : overtaking.inner.cancelled = Supervisor.unfinished overtaking.others +
    if (overtaking.inner.host.supervisor.task? overtaking.task.id).isSome then 1 else 0
  /-- No dropped task, nor that of the list, is ever given control again. -/
  idle : ∀ other ∈ overtaking.inner.host.supervisor.tasks, other.owner = some overtaking.owner →
    ∀ later, overtaking.inner.ready.Evolves later → after (runTask other.id) later = later ∧
      ∃ since, later.deeds = since ++ overtaking.inner.ready.deeds ∧
        ∀ generation, .resumed generation other.id ∉ since
  /-- The list goes on after the tasks were dropped. -/
  path : Reaches false overtaking.inner.ready overtaking.left
  visits : (∀ leaf ∈ overtaking.rest, leaf.gives) →
    (∀ fate ∈ answer (overtaking.rest.mapM (visit publish overtaking.occasion)) overtaking.left,
      fate.counts) ∧
    final = after (progress overtaking.task.id .ended)
      (after (overtaking.rest.mapM (visit publish overtaking.occasion)) overtaking.left)
  called : ∃ since, final.deeds = since ++ overtaking.left.deeds ∧
    (overtaking.occasion.calls (overtaking.rest.takeWhile (·.gives))).Sublist since.reverse
  /-- What the list hands over after that is pending, unless its own events drop it again. -/
  hands : (∀ leaf ∈ overtaking.rest, ∀ event ∈ leaf.events,
      Spares publish overtaking.left overtaking.owner event) →
    HandedOver (some overtaking.owner) overtaking.task.generation
      ((overtaking.rest.takeWhile (·.gives)).filterMap (·.work? overtaking.payload))
      overtaking.left final

section Overtaking

variable {host : Host} (overtaking : host.Overtaking)

private theorem Overtaking.current_given :
    overtaking.occasion.generation = (host.given overtaking.task).generation :=
  overtaking.current

private theorem Overtaking.begins : Underway (host.given overtaking.task) []
    (host.given overtaking.task) :=
  ⟨.refl, .refl⟩

private theorem Overtaking.underway_point :
    Underway (host.given overtaking.task) [] overtaking.point := by
  have comes : Comes (publishWithin nestingLimit) overtaking.occasion overtaking.before
      overtaking.name overtaking.first (host.given overtaking.task) overtaking.point :=
    overtaking.comes
  exact comes.underway overtaking.current_given overtaking.begins

private theorem Overtaking.underway_inner :
    ∃ inside, Underway (host.given overtaking.task) inside overtaking.inner.host :=
  overtaking.brings.underway overtaking.underway_point

/-- What is tracked under the number of the task when it is overtaken is the task as it was. -/
private theorem Overtaking.same_task (numbered : host.supervisor.Numbered) {other : Task}
    (tracked : other ∈ overtaking.inner.host.supervisor.tasks)
    (same : other.id = overtaking.task.id) : other = overtaking.task := by
  obtain ⟨inside, underway⟩ := overtaking.underway_inner
  have present : overtaking.task ∈ host.supervisor.tasks :=
    List.mem_of_find?_eq_some overtaking.tracked
  have untouched : (host.given overtaking.task).roster.Untouched (· = overtaking.task.id)
      overtaking.inner.host.roster := by
    refine (underway.acting.untouched id nofun nofun ?_).1
    rintro id rfl
    exact numbered.below _ present
  exact List.inj_on_of_nodup_map numbered.distinct (untouched.tracked other tracked same) present
    same

private theorem Overtaking.counts (numbered : host.supervisor.Numbered)
    (inner : overtaking.inner.host.supervisor.Numbered) :
    Supervisor.unfinished (overtaking.inner.host.supervisor.tasks.filter
        (·.owner = some overtaking.owner)) =
      Supervisor.unfinished overtaking.others +
        if (overtaking.inner.host.supervisor.task? overtaking.task.id).isSome then 1 else 0 := by
  have own : (overtaking.inner.host.supervisor.tasks.filter
      (·.owner = some overtaking.owner)).filter (·.id = overtaking.task.id) =
      (overtaking.inner.host.supervisor.task? overtaking.task.id).toList := by
    rw [← inner.filter_id, List.filter_filter]
    refine List.filter_congr fun other tracked => ?_
    by_cases same : other.id = overtaking.task.id
    · rw [overtaking.same_task numbered tracked same]
      simp [overtaking.owned]
    · simp [same]
  rw [Supervisor.unfinished_split _ (·.id = overtaking.task.id), own, List.filter_filter]
  congr 1
  · refine congrArg Supervisor.unfinished (List.filter_congr fun other _ => ?_)
    simp [Bool.and_comm]
  · cases found : overtaking.inner.host.supervisor.task? overtaking.task.id with
    | none => rfl
    | some other =>
        obtain ⟨tracked, same⟩ := Supervisor.of_task? found
        rw [overtaking.same_task numbered tracked same]
        simp [Supervisor.unfinished, overtaking.executes.unfinished]

private theorem Overtaking.path_left :
    Reaches false overtaking.inner.ready overtaking.left := by
  obtain ⟨inside, underway⟩ := overtaking.underway_inner
  have ready := Inner.ready_underway overtaking.restarts.current underway
  have current : overtaking.occasion.generation = overtaking.inner.ready.generation :=
    overtaking.current_given.trans ready.path.generation_eq.symm
  have pointed : overtaking.point.generation = overtaking.inner.ready.generation :=
    overtaking.underway_point.path.generation_eq.trans ready.path.generation_eq.symm
  have ended : Reaches false overtaking.inner.ready overtaking.inner.final := by
    rw [Inner.final_eq overtaking.restarts.current]
    exact visits_reach (publishWithin_reaches overtaking.inner.depth)
      (overtaking.restarts.current.trans (underway.path.generation_eq.trans
        ready.path.generation_eq.symm)) _ _ _ .refl
  have published : Reaches false overtaking.inner.ready
      (ran (publish overtaking.event) overtaking.point).2 :=
    overtaking.brings.leads pointed ended
  exact overtaking.comes.leads publish_reaches published overtaking.later

/-- The task executes the leaves behind the one that publishes the event, from the host that
this one leaves. -/
private theorem Overtaking.final_eq :
    ∃ counted, ∀ result next,
      ran (overtaking.rest.foldlM (visitNext publish overtaking.occasion) counted)
        overtaking.left = (result, next) →
      after (runTask overtaking.task.id) host =
        after (progress overtaking.task.id (if result.isOk then .ended else .crashed)) next := by
  have gives : (Action.call overtaking.name (overtaking.first ++
    .publish overtaking.event :: overtaking.later)).gives := rfl
  obtain ⟨counted, visited⟩ := ran_visits_past publish_reaches overtaking.current_given .refl
    overtaking.comes.gives gives overtaking.rest {}
  refine ⟨counted, fun result next executed => ?_⟩
  rw [runTask_executes overtaking.executes overtaking.tracked]
  refine after_finishDelayed overtaking.current_given ?_
  rw [executeAll_eq, overtaking.leaves]
  exact visited.trans executed

end Overtaking

/-- A list that restarts its own owner, on whatever way its events bring the dispatch about,
goes on as if nothing had happened. What the owner has pending is dropped, its own task among
it, and never given control again; but every leaf behind the one that published the event is
visited, and what these hand over is pending when the list ends. -/
theorem overtaken_list_goes_on (config : ScriptingConfig) (dataDirectory : String)
    (tree : FileTree) (vocabulary : Vocabulary) (shelf : ScriptShelf) {host : Host}
    (reached : (create config dataDirectory tree vocabulary shelf).Evolves host)
    (overtaking : host.Overtaking) :
    Overtaken overtaking (after (runTask overtaking.task.id) host) := by
  have tidy := reached.tidy (create_tidy config dataDirectory tree vocabulary shelf)
  have present : overtaking.task ∈ host.supervisor.tasks :=
    List.mem_of_find?_eq_some overtaking.tracked
  have givenTidy : (host.given overtaking.task).Tidy := ⟨tidy.numbered, tidy.timed⟩
  obtain ⟨inside, underway⟩ := overtaking.underway_inner
  have innerTidy := underway.path.evolves.tidy givenTidy
  have readied : Readied overtaking.owner true overtaking.inner.host overtaking.inner.ready
      overtaking.inner.cancelled := by
    rw [← overtaking.restarts.due]
    exact readyDispatch_readied overtaking.restarts.owned overtaking.inner.delivery.schema
      overtaking.inner.delivery.kind overtaking.inner.host
  have toLeft : Reaches false (host.given overtaking.task) overtaking.left :=
    (Inner.ready_underway overtaking.restarts.current underway).path.trans overtaking.path_left
  have leftTidy := toLeft.evolves.tidy givenTidy
  have current : overtaking.occasion.generation = overtaking.left.generation :=
    overtaking.current_given.trans toLeft.generation_eq.symm
  obtain ⟨counted, ended⟩ := overtaking.final_eq
  constructor
  case readied => exact readied
  case counted =>
    rw [readied.cancelled, if_pos rfl]
    exact overtaking.counts tidy.numbered innerTidy.numbered
  case idle =>
    intro other tracked owned later path
    exact readied.idle innerTidy.numbered tracked owned path
  case path => exact overtaking.path_left
  case visits =>
    intro gives
    obtain ⟨fates, visited⟩ := ran_leaves publish_reaches current .refl gives counted
    exact ⟨fates, ended _ _ visited⟩
  case called =>
    rw [ended _ _ rfl]
    exact visits_called (fun _ => publish_reaches) current .refl overtaking.rest counted
  case hands =>
    intro spared
    rw [ended _ _ rfl]
    have older : overtaking.task.id < overtaking.left.supervisor.nextId :=
      Nat.lt_of_lt_of_le (tidy.numbered.below _ present) toLeft.evolves.nextId_le
    exact (visits_hand leftTidy (fun _ => publish_reaches) current overtaking.owned spared .refl
      counted).progress older _

/-- A list that rings the bell, on which its owner restarts. -/
def ringing : List Action := [
  .call "ring" [.publish ⟨.bus "doorbell", .none⟩], .call "light.off" [],
  .after .zero [.call "blinds.close" []]]

def porchRules : EventSchema where
  owner := some "porch"
  entries := [
    { kind := .bus "motion", body := .unconditional [.after .zero ringing], mode := .restart },
    { kind := .bus "doorbell", body := .unconditional [.call "light.on" []], mode := .restart }]

def porch : Host :=
  after (run [.register "porch" 0 porchRules, .resumeManagers 0, .publish ⟨.bus "motion", .none⟩])
    (create {} "" {} {} [])

def ringTask : Task where
  id := 0
  name := "after 0s"
  generation := 0
  owner := some "porch"
  work := .delayed .zero ringing .none

def bellListener : Listener Delivery where
  id := 1
  kind := .bus "doorbell"
  target := { gate := 0, generation := 0, schema := porchRules, kind := .bus "doorbell" }

def ringPoint : Host :=
  after (mark (.called 0 "ring")) (porch.given ringTask)

def bellDispatch : Inner where
  depth := 999
  delivery := bellListener.target
  payload := .none
  host := after (changeGate 0 fun _ => { phase := .opened, inFlight := 1 }) ringPoint

def bellRings : porch.Overtaking where
  task := ringTask
  owner := "porch"
  actions := ringing
  payload := .none
  before := []
  rest := [.call "light.off" [], .after .zero [.call "blinds.close" []]]
  name := "ring"
  first := []
  later := []
  event := ⟨.bus "doorbell", .none⟩
  point := ringPoint
  inner := bellDispatch
  executes := .atOnce rfl rfl rfl
  tracked := by cbv
  owned := rfl
  current := by cbv
  leaves := by cbv
  comes := ⟨nofun, rfl⟩
  brings := by
    have listens : ringPoint.bus.listenersTo (.bus "doorbell") = [] ++ bellListener :: [] := by
      cbv
    have admitted : (ringPoint.gate bellListener.target.gate).enter? =
        some { phase := .opened, inFlight := 1 } := by cbv
    exact .listener listens rfl admitted
  restarts := ⟨rfl, by cbv, by cbv⟩

theorem overtaken_list_goes_on_bell :
    let final := after (runTask 0) porch
    bellRings.inner.cancelled = 1 ∧
      (∃ since, final.deeds = since ++ bellRings.left.deeds ∧
        [.called 0 "light.off"].Sublist since.reverse) ∧
      HandedOver (some "porch") 0
        [("after 0s", .delayed .zero [.call "blinds.close" []] .none)] bellRings.left final := by
  have reached : (create {} "" {} {} []).Evolves porch := run_evolves _ _
  have overtaken := overtaken_list_goes_on {} "" {} {} [] reached bellRings
  have calls : bellRings.occasion.calls (bellRings.rest.takeWhile (·.gives)) =
      [.called 0 "light.off"] := by cbv
  have works : (bellRings.rest.takeWhile (·.gives)).filterMap (·.work? bellRings.payload) =
      [("after 0s", .delayed .zero [.call "blinds.close" []] .none)] := by cbv
  have called := overtaken.called
  rw [calls] at called
  have handed := overtaken.hands
  rw [works] at handed
  refine ⟨?_, called, handed ?_⟩
  · rw [overtaken.counted]
    cbv
  · intro leaf member event published
    rcases List.mem_pair.mp member with rfl | rfl
    · cases published
    · cases published

/-- The restart drops one task, and it is that of the list. What comes after it all the same are
the next call of the list and its next delay, which is over when its task has had control. -/
theorem overtaken_list_still_acts :
    let final := after (runTask bellRings.task.id) porch
    bellRings.inner.cancelled = 1 ∧ bellRings.others.length = 0 ∧
      final.deeds = [.accepted 0 1, .called 0 "light.off", .called 0 "light.on"] ++
        bellRings.inner.ready.deeds ∧
      (after (runTask 1) final).deeds =
        [.called 0 "blinds.close", .resumed 0 1] ++ final.deeds := by
  cbv

end Host

end HomeRules
