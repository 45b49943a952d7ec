import HomeRules.Proofs.Host.Tracking

/-!
# Timers

The timers that managers run are tasks which nobody owns. What drops the tasks of an owner
leaves them alone, and stopping managers, which ends timers, leaves owned tasks alone.
-/

set_option autoImplicit false

namespace HomeRules

def Feed.task? : Feed → Option TaskId
  | .timer _ _ task => task
  | .listener _ => none

def Manager.timers (manager : Manager) : List TaskId :=
  manager.subscriptions.filterMap (·.feed.task?)

theorem Manager.mem_timers {manager : Manager} {id : TaskId} :
    id ∈ manager.timers ↔ ∃ subscription ∈ manager.subscriptions,
      subscription.feed.task? = some id := by
  rw [timers, List.mem_filterMap]

namespace Registry

def timers (registry : Registry) : List TaskId :=
  registry.managers.flatMap (·.timers)

variable {registry : Registry} {manager : Manager} {id : TaskId}

theorem mem_timers_of_manager? {kind : ManagerKind}
    (present : registry.manager? kind = some manager)
    (timed : id ∈ manager.timers) : id ∈ registry.timers :=
  List.mem_flatMap.mpr ⟨manager, List.mem_of_find?_eq_some present, timed⟩

theorem mem_timers_update (timed : id ∈ (registry.update manager).timers) :
    id ∈ registry.timers ∨ id ∈ manager.timers := by
  obtain ⟨other, member, timed⟩ := List.mem_flatMap.mp timed
  obtain ⟨old, present, rfl⟩ := List.mem_map.mp member
  split at timed
  · exact .inr timed
  · exact .inl (List.mem_flatMap.mpr ⟨old, present, timed⟩)

theorem mem_timers_add (timed : id ∈ (registry.add manager).timers) :
    id ∈ registry.timers ∨ id ∈ manager.timers := by
  obtain ⟨other, member, inside⟩ := List.mem_flatMap.mp timed
  rcases List.mem_cons.mp ((insertManager_perm manager registry.managers).mem_iff.mp member)
    with same | old
  · exact .inr (same ▸ inside)
  · exact .inl (List.mem_flatMap.mpr ⟨other, old, inside⟩)

end Registry

namespace Host

/-- Whether nobody owns the task with a number that was given out. -/
def Unowned (host : Host) (id : TaskId) : Prop :=
  host.supervisor.Issued id (· = none)

/-- Tasks have their numbers, and nobody owns one that runs a timer. -/
structure Tidy (host : Host) : Prop where
  numbered : host.supervisor.Numbered
  timed : ∀ id ∈ host.registry.timers, host.Unowned id

/-! ## Steps that leave the managers alone -/

/-- Tasks were started, ended and dropped, and managers stayed as they were. -/
structure Tasked (host next : Host) : Prop where
  moves : Relation.ReflTransGen Supervisor.Moves host.supervisor next.supervisor
  registry : next.registry = host.registry

namespace Tasked

variable {host next : Host}

theorem refl (host : Host) : Tasked host host :=
  ⟨.refl, rfl⟩

theorem tail {later : Host} (tasked : Tasked host next)
    (moves : next.supervisor.Moves later.supervisor) (registry : later.registry = next.registry) :
    Tasked host later :=
  ⟨tasked.moves.tail moves, registry.trans tasked.registry⟩

theorem unowned (tasked : Tasked host next) {id : TaskId} (unowned : host.Unowned id) :
    next.Unowned id := by
  have kept (supervisor : Supervisor)
      (moves : Relation.ReflTransGen Supervisor.Moves host.supervisor supervisor) :
      supervisor.Issued id (· = none) := by
    induction moves with
    | refl => exact unowned
    | tail _ moves previous => exact moves.issued previous
  exact kept _ tasked.moves

theorem numbered (tasked : Tasked host next) (numbered : host.supervisor.Numbered) :
    next.supervisor.Numbered := by
  have kept (supervisor : Supervisor)
      (moves : Relation.ReflTransGen Supervisor.Moves host.supervisor supervisor) :
      supervisor.Numbered := by
    induction moves with
    | refl => exact numbered
    | tail _ moves previous => exact moves.numbered previous
  exact kept _ tasked.moves

end Tasked

/-- A host stays tidy when tasks come and go, and when the new timers are unowned tasks. -/
theorem Tidy.next {host middle next : Host} (tidy : host.Tidy) (tasked : Tasked host middle)
    (supervisor : next.supervisor = middle.supervisor)
    (timers : ∀ id ∈ next.registry.timers, id ∈ host.registry.timers ∨ middle.Unowned id) :
    next.Tidy := by
  constructor
  · rw [supervisor]
    exact tasked.numbered tidy.numbered
  · intro id member
    unfold Unowned
    rw [supervisor]
    rcases timers id member with old | fresh
    · exact tasked.unowned (tidy.timed id old)
    · exact fresh

theorem Tidy.tasked {host next : Host} (tidy : host.Tidy) (tasked : Tasked host next) :
    next.Tidy :=
  tidy.next tasked rfl fun _ member => .inl (tasked.registry ▸ member)

section Steps

variable {start : Host}

private theorem Keeps.ofTasks {α : Type} {step : Step α}
    (moves : ∀ host : Host, host.supervisor.Moves (after step host).supervisor)
    (registry : ∀ host, (after step host).registry = host.registry) :
    Keeps (Tasked start) step :=
  fun host tasked => tasked.tail (moves host) (registry host)

private theorem Keeps.ofRest {α : Type} {step : Step α}
    (supervisor : ∀ host : Host, (after step host).supervisor = host.supervisor)
    (registry : ∀ host : Host, (after step host).registry = host.registry) :
    Keeps (Tasked start) step := by
  refine .ofTasks (fun host => ?_) registry
  rw [supervisor host]
  exact .rest

theorem spawn_tasked (name : String) (generation : Generation) (owner : Option String)
    (work : Work) : Keeps (Tasked start) (spawn name generation owner work) := by
  intro host tasked
  simp only [spawn, after_get_bind]
  split
  · exact tasked.tail (.add name generation owner work) rfl
  · exact tasked

theorem startTimer_tasked (manager : Manager) (subscription : Subscription) :
    Keeps (Tasked start) (startTimer manager subscription) := by
  unfold startTimer
  split
  · exact .bind (spawn_tasked _ _ _ _) fun _ => .pure _
  · exact .pure _

theorem closeFeed_tasked (feed : Feed) : Keeps (Tasked start) (closeFeed feed) := by
  unfold closeFeed
  split
  · exact .ofRest (fun _ => rfl) fun _ => rfl
  · exact .pure _
  · exact .bind (.ofTasks (fun _ => .drop _) fun _ => rfl) fun _ => .pure _

theorem spawn_unowned {host : Host} (numbered : host.supervisor.Numbered) {name : String}
    {generation : Generation} {work : Work} {handle : TaskHandle}
    (spawned : answer (spawn name generation none work) host = some handle) :
    (after (spawn name generation none work) host).Unowned handle.id := by
  rw [spawn, answer_get_bind] at spawned
  rw [spawn, after_get_bind]
  split at spawned
  case isFalse => cases spawned
  case isTrue current =>
    cases spawned
    rw [if_pos current]
    refine ⟨Nat.lt_succ_self _, fun task member same => ?_⟩
    rcases List.mem_append.mp member with old | new
    · exact absurd same (Nat.ne_of_lt (numbered.below task (List.mem_of_mem_filter old)))
    · rw [List.mem_singleton.mp new]

private theorem startTimer_unowned {host : Host} (numbered : host.supervisor.Numbered)
    (manager : Manager) (subscription : Subscription) {id : TaskId}
    (timed : (answer (startTimer manager subscription) host).feed.task? = some id) :
    subscription.feed.task? = some id ∨
      (after (startTimer manager subscription) host).Unowned id := by
  unfold startTimer at timed ⊢
  split at timed
  case h_1 period schema unstarted =>
    right
    rw [answer_bind] at timed
    obtain ⟨handle, spawned, rfl⟩ := Option.map_eq_some_iff.mp timed
    exact spawn_unowned numbered spawned
  case h_2 => exact .inl timed

private theorem startTimers_unowned (manager : Manager) (subscriptions : List Subscription)
    {host : Host} (numbered : host.supervisor.Numbered) {id : TaskId}
    (timed : ∃ started ∈ answer (subscriptions.mapM (startTimer manager)) host,
      started.feed.task? = some id) :
    (∃ subscription ∈ subscriptions, subscription.feed.task? = some id) ∨
      (after (subscriptions.mapM (startTimer manager)) host).Unowned id := by
  induction subscriptions generalizing host with
  | nil =>
      obtain ⟨_, member, _⟩ := timed
      cases member
  | cons first rest previous =>
      rw [List.mapM_cons] at timed ⊢
      simp only [answer_bind, answer_pure, after_bind, after_pure] at timed ⊢
      have tasked := startTimer_tasked manager first host (.refl host)
      obtain ⟨started, member, timed⟩ := timed
      rcases List.mem_cons.mp member with rfl | later
      · rcases startTimer_unowned numbered manager first timed with old | fresh
        · exact .inl ⟨first, List.mem_cons_self, old⟩
        · exact .inr ((Keeps.mapM (startTimer_tasked manager) rest _ (.refl _)).unowned fresh)
      · rcases previous (tasked.numbered numbered) ⟨started, later, timed⟩ with old | fresh
        · obtain ⟨subscription, present, old⟩ := old
          exact .inl ⟨subscription, List.mem_cons_of_mem _ present, old⟩
        · exact .inr fresh

end Steps

/-! ## Managers -/

theorem resumeManager_tidy (kind : ManagerKind) : Keeps Tidy (resumeManager kind) := by
  intro host tidy
  rw [resumeManager, after_get_bind]
  cases present : host.registry.manager? kind with
  | none => exact tidy
  | some manager =>
      dsimp only
      rw [after_bind, after_get_bind]
      have opened : Tasked host (after (changeGate manager.gate Gate.opening) host) :=
        (Tasked.refl host).tail .rest rfl
      split
      case isFalse => exact tidy.tasked opened
      case isTrue =>
        have started := Keeps.mapM (startTimer_tasked manager) manager.subscriptions _ opened
        refine tidy.next started rfl fun id member => ?_
        rcases Registry.mem_timers_update member with old | own
        · exact .inl (started.registry ▸ old)
        · rcases startTimers_unowned manager manager.subscriptions (opened.numbered tidy.numbered)
            (Manager.mem_timers.mp own) with old | fresh
          · exact .inl (Registry.mem_timers_of_manager? present (Manager.mem_timers.mpr old))
          · exact .inr fresh

theorem createManager_tidy (kind : ManagerKind) (generation : Generation) :
    Keeps Tidy (createManager kind generation) := by
  intro host tidy
  have added : (host.addManager kind generation).Tidy := by
    refine tidy.next (.refl host) rfl fun id member => ?_
    rcases Registry.mem_timers_add member with old | own
    · exact .inl old
    · obtain ⟨subscription, present, _⟩ := Manager.mem_timers.mp own
      cases present
  rw [after_createManager]
  split
  · exact resumeManager_tidy kind _ added
  · exact added

theorem needManager_tidy (kind : ManagerKind) (generation : Generation) :
    Keeps Tidy (needManager kind generation) := by
  intro host tidy
  rw [needManager, after_get_bind]
  split
  · exact tidy
  split
  · exact tidy
  split
  · exact tidy
  split
  · have renewed : Tidy { host with registry := { generation } } :=
      tidy.next (.refl host) rfl fun id member => absurd member List.not_mem_nil
    exact createManager_tidy kind generation _ renewed
  · exact createManager_tidy kind generation _ tidy

theorem unsubscribe_tidy (kind : ManagerKind) (id : Nat) : Keeps Tidy (unsubscribe kind id) := by
  intro host tidy
  rw [unsubscribe, after_get_bind]
  cases present : host.registry.manager? kind with
  | none => exact tidy
  | some manager =>
      dsimp only
      cases manager.subscriptions.find? (·.id = id) with
      | none => exact tidy
      | some subscription =>
          have dropped : Tidy (after (modify fun host => { host with
              registry := host.registry.update { manager with
                subscriptions := manager.subscriptions.filter (·.id ≠ id) } }) host) := by
            refine tidy.next (.refl host) rfl fun id member => ?_
            rcases Registry.mem_timers_update member with old | own
            · exact .inl old
            · obtain ⟨kept, inside, timed⟩ := Manager.mem_timers.mp own
              exact .inl (Registry.mem_timers_of_manager? present
                (Manager.mem_timers.mpr ⟨kept, List.mem_of_mem_filter inside, timed⟩))
          exact dropped.tasked (closeFeed_tasked subscription.feed _ (.refl _))

private theorem closeFeed_spares {task : Task} (owned : task.owner ≠ none) {feed : Feed}
    {start : Host} (timed : ∀ id, feed.task? = some id → start.Unowned id) :
    Keeps (fun host => Tasked start host ∧ task ∈ host.supervisor.tasks) (closeFeed feed) := by
  intro host holds
  obtain ⟨tasked, tracked⟩ := holds
  refine ⟨closeFeed_tasked feed host tasked, ?_⟩
  unfold closeFeed
  split
  · exact tracked
  · exact tracked
  · case h_3 period schema id =>
      refine List.mem_filter.mpr ⟨tracked, decide_eq_true fun same => owned ?_⟩
      exact (tasked.unowned (timed id rfl)).owned task tracked same

private theorem closeFeeds_spares {task : Task} (owned : task.owner ≠ none)
    {subscriptions : List Subscription} {start : Host} (timed : ∀ subscription ∈ subscriptions,
      ∀ id, subscription.feed.task? = some id → start.Unowned id) :
    Keeps (fun host => Tasked start host ∧ task ∈ host.supervisor.tasks)
      (subscriptions.forM fun subscription => do
        let _ ← closeFeed subscription.feed
        return ()) :=
  .forM_of_mem fun (subscription : Subscription) member =>
    .bind (closeFeed_spares owned (timed subscription member)) fun _ => .pure _

theorem closeFeeds_tasked {start : Host} (subscriptions : List Subscription) :
    Keeps (Tasked start) (subscriptions.forM fun subscription => do
      let _ ← closeFeed subscription.feed
      return ()) :=
  .forM (fun (subscription : Subscription) =>
    .bind (closeFeed_tasked subscription.feed) fun _ => .pure _) _

/-- Stopping a manager drops its timers and no owned task. -/
theorem stopManager_spares (kind : ManagerKind) {host : Host} (tidy : host.Tidy) :
    (after (stopManager kind) host).Tidy ∧ ∀ task ∈ host.supervisor.tasks, task.owner ≠ none →
      task ∈ (after (stopManager kind) host).supervisor.tasks := by
  cases present : host.registry.manager? kind with
  | none =>
      rw [stopManager, after_get_bind, present]
      exact ⟨tidy, fun _ tracked _ => tracked⟩
  | some manager =>
      obtain ⟨journal, stopped⟩ := after_stopManager present
      rw [stopped]
      have own {id : TaskId} {subscription : Subscription}
          (member : subscription ∈ manager.subscriptions)
          (timed : subscription.feed.task? = some id) : host.Unowned id :=
        tidy.timed id (Registry.mem_timers_of_manager? present
          (Manager.mem_timers.mpr ⟨subscription, member, timed⟩))
      set emptied : Host := { host with
        gates := host.gates.modify manager.gate Gate.closing
        registry := host.registry.update { manager with subscriptions := [] }
        journal }
      have emptiedTidy : emptied.Tidy := by
        refine tidy.next (.refl host) rfl fun id member => ?_
        rcases Registry.mem_timers_update member with old | none
        · exact .inl old
        · cases none
      refine ⟨emptiedTidy.tasked (closeFeeds_tasked _ _ (.refl _)), fun task tracked owned => ?_⟩
      have unowned : ∀ subscription ∈ manager.subscriptions,
          ∀ id, subscription.feed.task? = some id → emptied.Unowned id :=
        fun subscription member id timed => own member timed
      exact (closeFeeds_spares owned unowned emptied ⟨.refl _, tracked⟩).2

theorem Tidy.subscribed {host ready : Host} (tidy : host.Tidy) {kind : ManagerKind}
    {manager : Manager} (present : host.registry.manager? kind = some manager)
    (tasked : Tasked host ready) {subscription : Subscription}
    (timed : ∀ id, subscription.feed.task? = some id → ready.Unowned id) :
    Tidy { ready with registry := ready.registry.update { manager with
      nextId := manager.nextId + 1
      subscriptions := manager.subscriptions ++ [subscription] } } := by
  refine tidy.next tasked rfl fun id member => ?_
  rcases Registry.mem_timers_update member with old | own
  · exact .inl (tasked.registry ▸ old)
  · obtain ⟨other, inside, running⟩ := Manager.mem_timers.mp own
    rcases List.mem_append.mp inside with old | new
    · exact .inl (Registry.mem_timers_of_manager? present
        (Manager.mem_timers.mpr ⟨other, old, running⟩))
    · rw [List.mem_singleton.mp new] at running
      exact .inr (timed id running)

theorem subscribe_tidy (managerKind : ManagerKind) (kind : EventKind) (schema : EventSchema) :
    Keeps Tidy (subscribe managerKind kind schema) := by
  intro host tidy
  rw [subscribe, after_get_bind]
  cases present : host.registry.manager? managerKind with
  | none => exact tidy
  | some manager =>
      dsimp only
      split
      · exact tidy
      split
      · exact tidy
      rw [after_bind]
      have opened : Tasked host (after (openFeed manager kind schema) host) ∧
          (answer (openFeed manager kind schema) host).task? = none := by
        unfold openFeed
        split
        · exact ⟨.refl _, rfl⟩
        · exact ⟨(Tasked.refl host).tail .rest rfl, rfl⟩
      generalize answer (openFeed manager kind schema) host = feed at opened ⊢
      generalize after (openFeed manager kind schema) host = listening at opened ⊢
      obtain ⟨opened, untimed⟩ := opened
      split
      · refine tidy.subscribed present (startTimer_tasked manager _ listening opened)
          fun id running => ?_
        rcases startTimer_unowned (opened.numbered tidy.numbered) manager _ running with old | new
        · rw [untimed] at old
          cases old
        · exact new
      · refine tidy.subscribed present opened fun id running => ?_
        rw [untimed] at running
        cases running

/-! ## Runs -/

theorem Change.tidy {host next : Host} (change : Change true host next) (tidy : host.Tidy) :
    next.Tidy := by
  have still {later : Host} (moves : host.supervisor.Moves later.supervisor)
      (registry : later.registry = host.registry) : later.Tidy :=
    tidy.tasked ((Tasked.refl host).tail moves registry)
  cases change with
  | quiet same =>
      refine still ?_ (congrArg Parts.registry same)
      rw [show next.supervisor = host.supervisor from congrArg (·.core.supervisor) same]
      exact .rest
  | start deed current => exact still .rest rfl
  | resume task tracked => exact still .rest rfl
  | spawn name generation owner work =>
      exact tidy.tasked (spawn_tasked name generation owner work host (.refl host))
  | progress id point => exact still (.advance id point) rfl
  | cancelTask id => exact still (.drop _) rfl
  | cancelOwner owner => exact still (.drop _) rfl
  | dropTasks => exact still (Stir.moves (.dropTasks : Stir true host _)) rfl
  | gate id change => exact still .rest rfl
  | resumeManager kind => exact resumeManager_tidy kind host tidy
  | needManager kind generation => exact needManager_tidy kind generation host tidy
  | unsubscribe kind id => exact unsubscribe_tidy kind id host tidy
  | stopManager kind => exact (stopManager_spares kind tidy).1
  | keepRecords registrations resumed => exact tidy.next (.refl host) rfl fun _ timed => .inl timed
  | advance inside => exact still .rest rfl
  | halt inside stopped => exact still .rest rfl
  | clear inside unsubscribed =>
      exact tidy.next (.refl host) rfl fun _ timed => absurd timed List.not_mem_nil
  | subscribe inside manager kind schema => exact subscribe_tidy manager kind schema host tidy

theorem Evolves.tidy {host next : Host} (path : host.Evolves next) (tidy : host.Tidy) :
    next.Tidy := by
  induction path with
  | refl => exact tidy
  | tail _ step previous =>
      rcases step with change | ⟨tree, rfl⟩
      · exact change.tidy previous
      · exact ⟨previous.numbered, previous.timed⟩

theorem create_tidy (config : ScriptingConfig) (dataDirectory : String) (tree : FileTree)
    (vocabulary : Vocabulary) (shelf : ScriptShelf) :
    (create config dataDirectory tree vocabulary shelf).Tidy :=
  ⟨⟨List.nodup_nil, fun _ tracked => absurd tracked List.not_mem_nil⟩,
    fun _ timed => absurd timed List.not_mem_nil⟩

end Host

end HomeRules
