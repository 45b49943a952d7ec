import HomeRules.Proofs.Host.Gates
import HomeRules.Proofs.Host.RunActs
import HomeRules.Proofs.Host.Timers
import Mathlib.Data.List.Nodup

/-!
# Stopped managers

Stopping a manager is final. From then on its gate is shut, so that no dispatch enters and no
subscription is accepted; no listener of the platform and no task of the supervisor belongs to
it any more; and nothing that happens to the host later changes this, another resume or stop
included. The dispatches that are inside when it stops are reported, and only those.
-/

set_option autoImplicit false

namespace HomeRules

/-! ## Ticking tasks -/

/-- The tasks that dispatch ticks, with their gates. -/
def Supervisor.ticking (supervisor : Supervisor) : List (TaskId × GateId) :=
  supervisor.tasks.filterMap fun task => task.work.gate?.map (task.id, ·)

namespace Supervisor

variable {supervisor : Supervisor}

theorem mem_ticking {id : TaskId} {gate : GateId} :
    (id, gate) ∈ supervisor.ticking ↔
      ∃ task ∈ supervisor.tasks, task.id = id ∧ task.work.gate? = some gate := by
  simp only [ticking, List.mem_filterMap, Option.map_eq_some_iff, Prod.mk.injEq]
  constructor
  · rintro ⟨task, member, _, gated, named, rfl⟩
    exact ⟨task, member, named, gated⟩
  · rintro ⟨task, member, named, gated⟩
    exact ⟨task, member, gate, gated, named, rfl⟩

private theorem ticking_filter (keep : Task → Bool) :
    ({ supervisor with tasks := supervisor.tasks.filter keep } : Supervisor).ticking ⊆
      supervisor.ticking :=
  (List.filter_sublist.filterMap _).subset

private theorem ticking_advance (id : TaskId) (progress : Progress) :
    (supervisor.advance id progress).ticking = supervisor.ticking := by
  simp only [ticking, advance, List.filterMap_map]
  congr 1
  funext task
  rw [Function.comp_apply]
  split <;> rfl

private theorem ticking_add {name : String} {generation : Generation} {owner : Option String}
    {work : Work} {id : TaskId} {gate : GateId}
    (ticks : (id, gate) ∈ (supervisor.add name generation owner work).1.ticking) :
    (id, gate) ∈ supervisor.ticking ∨ id = supervisor.nextId ∧ work.gate? = some gate := by
  obtain ⟨task, member, named, gated⟩ := mem_ticking.mp ticks
  rw [add_tasks] at member
  rcases List.mem_append.mp member with old | new
  · exact .inl (mem_ticking.mpr ⟨task, List.mem_of_mem_filter old, named, gated⟩)
  · rw [List.mem_singleton.mp new] at named gated
    exact .inr ⟨named.symm, gated⟩

end Supervisor

namespace Registry

/-- A task is the timer of a subscription of the manager of a gate. -/
def Runs (registry : Registry) (id : TaskId) (gate : GateId) : Prop :=
  ∃ manager ∈ registry.managers, manager.gate = gate ∧ id ∈ manager.timers

variable {registry : Registry} {kind : ManagerKind} {manager next : Manager} {id : TaskId}
  {gate : GateId}

theorem mem_update (present : registry.manager? kind = some manager)
    (same : next.kind = manager.kind) : next ∈ (registry.update next).managers := by
  refine List.mem_map.mpr ⟨manager, List.mem_of_find?_eq_some present, ?_⟩
  rw [if_pos same.symm]

/-- When a manager is replaced, the others still run their timers. -/
theorem Runs.update (runs : registry.Runs id gate)
    (distinct : (registry.managers.map (·.kind)).Nodup)
    (present : registry.manager? kind = some manager) (same : next.kind = manager.kind)
    (own : manager.gate = gate → id ∈ manager.timers → next.gate = gate ∧ id ∈ next.timers) :
    (registry.update next).Runs id gate := by
  obtain ⟨other, member, gated, timed⟩ := runs
  by_cases named : other.kind = next.kind
  · have unique : other = manager :=
      List.inj_on_of_nodup_map distinct member (List.mem_of_find?_eq_some present)
        (named.trans same)
    subst unique
    exact ⟨next, mem_update present same, own gated timed⟩
  · refine ⟨other, List.mem_map.mpr ⟨other, member, ?_⟩, gated, timed⟩
    rw [if_neg named]

theorem Runs.add (runs : registry.Runs id gate) (manager : Manager) :
    (registry.add manager).Runs id gate := by
  obtain ⟨other, member, held⟩ := runs
  exact ⟨other, (insertManager_perm manager registry.managers).mem_iff.mpr
    (List.mem_cons_of_mem _ member), held⟩

end Registry

namespace Host

/-- Every task that dispatches ticks is the timer of a live subscription. -/
def Held (host : Host) : Prop :=
  ∀ id gate, (id, gate) ∈ host.supervisor.ticking → host.registry.Runs id gate

theorem Held.fewer {host next : Host} (held : host.Held)
    (fewer : next.supervisor.ticking ⊆ host.supervisor.ticking)
    (registry : next.registry = host.registry) : next.Held := by
  intro id gate ticks
  rw [registry]
  exact held id gate (fewer ticks)

theorem Held.same {host next : Host} (held : host.Held)
    (supervisor : next.supervisor = host.supervisor) (registry : next.registry = host.registry) :
    next.Held :=
  held.fewer (fun _ ticks => supervisor ▸ ticks) registry

/-! ### Starting and ending timers -/

theorem spawn_ticking {name : String} {generation : Generation} {owner : Option String}
    {work : Work} {host : Host} {id : TaskId} {gate : GateId}
    (ticks : (id, gate) ∈ (after (spawn name generation owner work) host).supervisor.ticking) :
    (id, gate) ∈ host.supervisor.ticking ∨ work.gate? = some gate ∧
      (answer (spawn name generation owner work) host).map (·.id) = some id := by
  simp only [spawn, after_get_bind, answer_get_bind] at ticks ⊢
  split at ticks
  · case isTrue current =>
      rw [if_pos current]
      rcases Supervisor.ticking_add ticks with old | new
      · exact .inl old
      · exact .inr ⟨new.2, congrArg some new.1.symm⟩
  · exact .inl ticks

private theorem startTimer_ticking {manager : Manager} {subscription : Subscription}
    {host : Host} {id : TaskId} {gate : GateId}
    (ticks : (id, gate) ∈
      (after (startTimer manager subscription) host).supervisor.ticking) :
    (id, gate) ∈ host.supervisor.ticking ∨ manager.gate = gate ∧
      (answer (startTimer manager subscription) host).feed.task? = some id := by
  unfold startTimer at ticks ⊢
  split at ticks
  · rcases spawn_ticking ticks with old | new
    · exact .inl old
    · exact .inr ⟨Option.some.inj new.1, new.2⟩
  · exact .inl ticks

private theorem startTimer_running {manager : Manager} {subscription : Subscription}
    {id : TaskId} (running : subscription.feed.task? = some id) (host : Host) :
    (answer (startTimer manager subscription) host).feed.task? = some id := by
  unfold startTimer
  split
  · case h_1 fed =>
      rw [fed] at running
      cases running
  · exact running

/-- The timers that tick once subscriptions are started are those that did, and theirs. -/
private theorem startTimers_ticking (manager : Manager) (subscriptions : List Subscription)
    {host : Host} {id : TaskId} {gate : GateId}
    (ticks : (id, gate) ∈
      (after (subscriptions.mapM (startTimer manager)) host).supervisor.ticking) :
    (id, gate) ∈ host.supervisor.ticking ∨ manager.gate = gate ∧
      ∃ started ∈ answer (subscriptions.mapM (startTimer manager)) host,
        started.feed.task? = some id := by
  induction subscriptions generalizing host with
  | nil => exact .inl ticks
  | cons subscription rest previous =>
      rw [List.mapM_cons] at ticks ⊢
      simp only [after_bind, after_pure, answer_bind, answer_pure, List.mem_cons] at ticks ⊢
      rcases previous ticks with before | ⟨gated, started, member, fed⟩
      · rcases startTimer_ticking before with old | ⟨gated, fed⟩
        · exact .inl old
        · exact .inr ⟨gated, _, .inl rfl, fed⟩
      · exact .inr ⟨gated, started, .inr member, fed⟩

private theorem startTimers_running (manager : Manager) {subscriptions : List Subscription}
    {subscription : Subscription} (member : subscription ∈ subscriptions) {id : TaskId}
    (running : subscription.feed.task? = some id) (host : Host) :
    ∃ started ∈ answer (subscriptions.mapM (startTimer manager)) host,
      started.feed.task? = some id := by
  induction subscriptions generalizing host with
  | nil => cases member
  | cons first rest previous =>
      rw [List.mapM_cons]
      simp only [answer_bind, answer_pure, List.mem_cons]
      rcases List.mem_cons.mp member with rfl | later
      · exact ⟨_, .inl rfl, startTimer_running running host⟩
      · obtain ⟨started, present, fed⟩ := previous later _
        exact ⟨started, .inr present, fed⟩

private theorem closeFeed_ticking {feed : Feed} {host : Host} {id : TaskId} {gate : GateId}
    (ticks : (id, gate) ∈ (after (closeFeed feed) host).supervisor.ticking) :
    (id, gate) ∈ host.supervisor.ticking ∧ feed.task? ≠ some id := by
  unfold closeFeed at ticks
  split at ticks
  · exact ⟨ticks, nofun⟩
  · exact ⟨ticks, nofun⟩
  · case h_3 period schema task =>
      refine ⟨Supervisor.ticking_filter _ ticks, fun same => ?_⟩
      obtain ⟨other, member, named, -⟩ := Supervisor.mem_ticking.mp ticks
      have kept : other.id ≠ task := by simpa using List.of_mem_filter member
      exact kept (named.trans (Option.some.inj same).symm)

private theorem closeFeeds_ticking {subscriptions : List Subscription} {host : Host}
    {id : TaskId} {gate : GateId}
    (ticks : (id, gate) ∈ (after (subscriptions.forM fun subscription => do
      let _ ← closeFeed subscription.feed
      return ()) host).supervisor.ticking) :
    (id, gate) ∈ host.supervisor.ticking ∧
      ∀ subscription ∈ subscriptions, subscription.feed.task? ≠ some id := by
  induction subscriptions generalizing host with
  | nil => exact ⟨ticks, fun _ member => absurd member List.not_mem_nil⟩
  | cons subscription rest previous =>
      obtain ⟨before, others⟩ := previous ticks
      obtain ⟨old, first⟩ := closeFeed_ticking before
      refine ⟨old, fun other member => ?_⟩
      rcases List.mem_cons.mp member with rfl | later
      · exact first
      · exact others other later

/-! ### Managers -/

private theorem resumeManager_held (kind : ManagerKind) {host : Host}
    (sound : host.wiring.Sound) (held : host.Held) : (after (resumeManager kind) host).Held := by
  rw [resumeManager, after_get_bind]
  cases present : host.registry.manager? kind with
  | none => exact held
  | some manager =>
      dsimp only
      rw [after_bind, after_get_bind]
      split
      case isFalse => exact held
      case isTrue =>
        generalize opens : after (changeGate manager.gate Gate.opening) host = opened
        have begun : Tasked host opened := opens ▸ (Tasked.refl host).tail .rest rfl
        have supervisor : opened.supervisor = host.supervisor := opens ▸ rfl
        have registry := (Keeps.mapM (startTimer_tasked manager) manager.subscriptions _
          begun).registry
        rw [after_bind, after_modify]
        intro id gate ticks
        have fresh := startTimers_ticking manager manager.subscriptions ticks
        rw [supervisor] at fresh
        simp only [registry]
        rcases fresh with old | ⟨gated, timed⟩
        · refine (held id gate old).update (distinct_kinds sound) present rfl fun gated timed => ?_
          obtain ⟨subscription, member, running⟩ := Manager.mem_timers.mp timed
          exact ⟨gated, Manager.mem_timers.mpr
            (startTimers_running manager member running opened)⟩
        · exact ⟨_, Registry.mem_update present rfl, gated, Manager.mem_timers.mpr timed⟩

private theorem createManager_held {kind : ManagerKind} {generation : Generation} {host : Host}
    (sound : (host.addManager kind generation).wiring.Sound) (held : host.Held) :
    (after (createManager kind generation) host).Held := by
  have added : (host.addManager kind generation).Held :=
    fun id gate ticks => (held id gate ticks).add _
  rw [after_createManager]
  split
  · exact resumeManager_held kind sound added
  · exact added

private theorem needManager_held (kind : ManagerKind) (generation : Generation) {host : Host}
    (sound : host.wiring.Sound) (held : host.Held) :
    (after (needManager kind generation) host).Held := by
  rw [needManager, after_get_bind]
  split
  · exact held
  split
  · exact held
  case isFalse absent =>
  split
  · exact held
  case isFalse cleared =>
  split
  case isTrue moved =>
    have empty : host.registry.managers = [] := by simpa [moved] using cleared
    have lines : host.wiring.lines = [] := by
      simp [Wiring.lines, wiring, Registry.bare, empty]
    have renewed : Held { host with registry := { generation } } := by
      intro id gate ticks
      obtain ⟨manager, member, -⟩ := held id gate ticks
      rw [empty] at member
      cases member
    have added : (addManager { host with registry := { generation } } kind
        generation).wiring.Sound := by
      rw [addManager_wiring]
      exact (sound.renew lines generation).add rfl rfl
    exact createManager_held added renewed
  case isFalse same =>
    have same : host.registry.generation = generation := Decidable.not_not.mp same
    refine createManager_held ?_ held
    rw [addManager_wiring]
    refine sound.add ?_ same
    rw [wiring_manager?, manager?_eq_none sound same absent]
    rfl

private theorem subscribe_held (managerKind : ManagerKind) (kind : EventKind)
    (schema : EventSchema) {host : Host} (sound : host.wiring.Sound) (held : host.Held) :
    (after (subscribe managerKind kind schema) host).Held := by
  rw [subscribe, after_get_bind]
  cases present : host.registry.manager? managerKind with
  | none => exact held
  | some manager =>
      dsimp only
      split
      · exact held
      split
      · exact held
      rw [after_bind]
      have opened : (after (openFeed manager kind schema) host).supervisor = host.supervisor ∧
          (after (openFeed manager kind schema) host).registry = host.registry := by
        cases kind <;> exact ⟨rfl, rfl⟩
      generalize answer (openFeed manager kind schema) host = feed
      generalize after (openFeed manager kind schema) host = listening at opened
      obtain ⟨supervisor, registry⟩ := opened
      -- What was subscribed before keeps its timers, and the new one has its own.
      have subscribed (next : Host) (subscription : Subscription)
          (same : next.registry = host.registry)
          (ticks : ∀ id gate, (id, gate) ∈ next.supervisor.ticking →
            (id, gate) ∈ host.supervisor.ticking ∨
              manager.gate = gate ∧ subscription.feed.task? = some id) :
          Held { next with registry := next.registry.update { manager with
            nextId := manager.nextId + 1
            subscriptions := manager.subscriptions ++ [subscription] } } := by
        intro id gate ticking
        simp only [same]
        rcases ticks id gate ticking with old | ⟨gated, timed⟩
        · refine (held id gate old).update (distinct_kinds sound) present rfl fun gated timed => ?_
          obtain ⟨other, member, running⟩ := Manager.mem_timers.mp timed
          exact ⟨gated, Manager.mem_timers.mpr ⟨other, List.mem_append_left _ member, running⟩⟩
        · exact ⟨_, Registry.mem_update present rfl, gated, Manager.mem_timers.mpr
            ⟨subscription, List.mem_append_right _ List.mem_cons_self, timed⟩⟩
      split
      · refine subscribed _ _ ?_ fun id gate ticking => ?_
        · exact (startTimer_tasked manager _ listening (.refl listening)).registry.trans registry
        · exact supervisor ▸ startTimer_ticking ticking
      · exact subscribed _ _ registry fun id gate ticking => .inl (supervisor ▸ ticking)

private theorem unsubscribe_held (kind : ManagerKind) (id : Nat) {host : Host}
    (sound : host.wiring.Sound) (held : host.Held) : (after (unsubscribe kind id) host).Held := by
  rw [unsubscribe, after_get_bind]
  cases present : host.registry.manager? kind with
  | none => exact held
  | some manager =>
      dsimp only
      cases found : manager.subscriptions.find? (·.id = id) with
      | none => exact held
      | some subscription =>
          dsimp only
          rw [after_bind, after_modify]
          intro task gate ticks
          obtain ⟨ticking, ended⟩ := closeFeed_ticking ticks
          have registry := (closeFeed_tasked subscription.feed { host with
            registry := host.registry.update { manager with
              subscriptions := manager.subscriptions.filter (·.id ≠ id) } } (.refl _)).registry
          rw [registry]
          refine (held task gate ticking).update (distinct_kinds sound) present rfl
            fun gated timed => ⟨gated, ?_⟩
          obtain ⟨other, member, running⟩ := Manager.mem_timers.mp timed
          -- Numbers tell subscriptions apart, so a timer that ended was not another's.
          obtain ⟨listed, named⟩ := of_find?_key found
          refine Manager.mem_timers.mpr ⟨other, List.mem_filter.mpr ⟨member, ?_⟩, running⟩
          rw [decide_eq_true_eq]
          intro same
          have unique : other = subscription :=
            List.inj_on_of_nodup_map (distinct_subscriptions sound present) member listed
              (same.trans named.symm)
          exact ended (unique ▸ running)

/-- What is left when a manager was stopped: its timers have ended. -/
private theorem stopManager_ticking {kind : ManagerKind} {host : Host} {manager : Manager}
    (present : host.registry.manager? kind = some manager) :
    (after (stopManager kind) host).registry =
        host.registry.update { manager with subscriptions := [] } ∧
      ∀ id gate, (id, gate) ∈ (after (stopManager kind) host).supervisor.ticking →
        (id, gate) ∈ host.supervisor.ticking ∧ id ∉ manager.timers := by
  obtain ⟨journal, stopped⟩ := after_stopManager present
  rw [stopped]
  constructor
  · exact (closeFeeds_tasked manager.subscriptions _ (.refl _)).registry
  · intro id gate ticks
    obtain ⟨ticking, ended⟩ := closeFeeds_ticking ticks
    refine ⟨ticking, fun timed => ?_⟩
    obtain ⟨subscription, member, running⟩ := Manager.mem_timers.mp timed
    exact ended subscription member running

private theorem stopManager_held (kind : ManagerKind) {host : Host} (sound : host.wiring.Sound)
    (held : host.Held) : (after (stopManager kind) host).Held := by
  cases present : host.registry.manager? kind with
  | none =>
      rw [stopManager, after_get_bind, present]
      exact held
  | some manager =>
      obtain ⟨registry, ended⟩ := stopManager_ticking present
      intro id gate ticks
      obtain ⟨ticking, untimed⟩ := ended id gate ticks
      rw [registry]
      exact (held id gate ticking).update (distinct_kinds sound) present rfl
        fun _ timed => absurd timed untimed

/-! ## Moments -/

/-- What is true of every moment that a host can reach. -/
structure Moment.Sound (moment : Moment) : Prop where
  wired : moment.host.wiring.Sound
  held : moment.host.Held
  counted : moment.Counted

section Acts

variable {licence : Licence} {moment next : Moment}

private theorem Act.held (managed : ¬licence.timers) (act : Act licence moment next)
    (wired : moment.host.wiring.Sound) (held : moment.host.Held) : next.host.Held := by
  cases act with
  | beside same =>
      exact held.same (congrArg (·.services.supervisor) same)
        (congrArg (·.services.registry) same)
  | request =>
      have parts := changeLoops_parts ReloadLoops.request moment.host
      exact held.same (congrArg (·.core.supervisor) parts) (congrArg Parts.registry parts)
  | spawn name generation owner work plain =>
      have registry := (spawn_tasked name generation owner work _ (.refl moment.host)).registry
      refine held.fewer (fun entry ticks => ?_) registry
      rcases spawn_ticking ticks with old | ⟨gated, -⟩
      · exact old
      · rw [plain.resolve_right managed] at gated
        cases gated
  | cancelTask id => exact held.fewer (Supervisor.ticking_filter _) rfl
  | cancelOwner owner => exact held.fewer (Supervisor.ticking_filter _) rfl
  | dropTasks => exact held.fewer (List.nil_subset _) rfl
  | progress turn point =>
      refine held.fewer (fun entry ticks => ?_) rfl
      rwa [← Supervisor.ticking_advance]
  | resumeManager kind => exact resumeManager_held kind wired held
  | needManager kind generation => exact needManager_held kind generation wired held
  | subscribe manager kind schema => exact subscribe_held manager kind schema wired held
  | unsubscribe kind id => exact unsubscribe_held kind id wired held
  | stopManager kind => exact stopManager_held kind wired held
  | clear unsubscribed =>
      intro id gate ticks
      obtain ⟨manager, member, -, timed⟩ := held id gate ticks
      have none : manager.bare.subscriptions = [] :=
        unsubscribed manager.bare (List.mem_map_of_mem member)
      rw [Manager.bare, List.map_eq_nil_iff] at none
      simp [Manager.timers, none] at timed
  | loops licensed same =>
      exact held.same (congrArg Services.supervisor same) (congrArg Services.registry same)
  | schedule licensed same =>
      exact held.same (congrArg Services.supervisor same) (congrArg Services.registry same)
  | _ => exact held

theorem Act.sound (managed : ¬licence.timers) (act : Act licence moment next)
    (sound : moment.Sound) : next.Sound where
  wired := act.passage.sound sound.wired
  held := act.held managed sound.wired sound.held
  counted := act.counted sound.counted

end Acts

theorem create_sound (config : ScriptingConfig) (dataDirectory : String) (tree : FileTree)
    (vocabulary : Vocabulary) (shelf : ScriptShelf) :
    Moment.Sound ⟨[], none, create config dataDirectory tree vocabulary shelf⟩ where
  wired := .empty
  held _ _ ticks := absurd ticks List.not_mem_nil
  counted _ := rfl

/-! ## After the end of a manager -/

/-- Nothing is left of the manager of a gate, and nobody gets anything from it: no dispatch
enters, no listener and no task is its own, subscribing fails, and to resume it or to stop it
again changes nothing. -/
structure Ended (host : Host) (gate : GateId) : Prop where
  refuses : ∀ publish delivery payload, delivery.gate = gate →
    ran (dispatchInside publish delivery payload) host = (.ok (), host)
  unheard : ∀ listener ∈ host.bus.listeners, listener.target.gate ≠ gate
  untimed : ∀ task ∈ host.supervisor.tasks, task.work.gate? ≠ some gate
  vacant : ∀ manager ∈ host.registry.managers, manager.gate = gate → manager.subscriptions = []
  subscribing : ∀ kind manager, host.registry.manager? kind = some manager →
    manager.gate = gate → ∀ event schema,
      answer (subscribe kind event schema) host = .error
          (if event.manager = kind then .staleGeneration manager.generation
            else .wrongManager kind event) ∧
        after (subscribe kind event schema) host = host
  resuming : ∀ kind manager, host.registry.manager? kind = some manager → manager.gate = gate →
    after (resumeManager kind) host = host
  stopping : ∀ kind manager, host.registry.manager? kind = some manager → manager.gate = gate →
    (after (stopManager kind) host).works = host.works

/-- A change that changes nothing of a gate changes nothing of the host. -/
private theorem after_changeGate {host : Host} {gate : GateId} {change : Gate → Gate}
    (same : change (host.gate gate) = host.gate gate) :
    after (changeGate gate change) host = host := by
  have gates : host.gates.modify gate change = host.gates := by
    apply List.ext_getElem?
    intro index
    rw [List.getElem?_modify]
    by_cases here : gate = index
    · subst here
      rw [Host.gate, List.getD_eq_getElem?_getD] at same
      cases found : host.gates[gate]? with
      | none => rfl
      | some own =>
          rw [found] at same
          simpa using same
    · simp [here]
  rw [changeGate, after_modify, gates]

private theorem Registry.update_self {registry : Registry}
    (distinct : (registry.managers.map (·.kind)).Nodup) {manager : Manager}
    (member : manager ∈ registry.managers) : registry.update manager = registry := by
  have managers : (registry.managers.map fun old =>
      if old.kind = manager.kind then manager else old) = registry.managers := by
    refine (List.map_congr_left fun old present => ?_).trans (List.map_id _)
    split
    · case isTrue same => exact (List.inj_on_of_nodup_map distinct present member same).symm
    · rfl
  rw [Registry.update, managers]

private theorem stopManager_still {host : Host} {kind : ManagerKind} {manager : Manager}
    (present : host.registry.manager? kind = some manager) (wired : host.wiring.Sound)
    (closed : (host.gate manager.gate).isClosed) (none : manager.subscriptions = []) :
    (after (stopManager kind) host).works = host.works := by
  have gates : host.gates.modify manager.gate Gate.closing = host.gates := by
    have closing : (host.gate manager.gate).closing = host.gate manager.gate := by
      rw [Gate.isClosed, decide_eq_true_eq] at closed
      rw [Gate.closing, ← closed]
    exact congrArg Host.gates (after_changeGate closing)
  have empty : { manager with subscriptions := [] } = manager := by rw [← none]
  have same : host.registry.update { manager with subscriptions := [] } = host.registry := by
    rw [empty]
    exact Registry.update_self (distinct_kinds wired) (List.mem_of_find?_eq_some present)
  obtain ⟨journal, stopped⟩ := after_stopManager present
  rw [stopped, same, gates, none]
  rfl

theorem Moment.Sound.ended {moment : Moment} (sound : moment.Sound) {gate : GateId}
    (shut : moment.host.wiring.Shut gate) : moment.host.Ended gate := by
  have vacant {manager : Manager} (member : manager ∈ moment.host.registry.managers)
      (same : manager.gate = gate) : manager.subscriptions = [] := by
    have none := shut.vacant manager.bare (List.mem_map_of_mem member) same
    rwa [Manager.bare, List.map_eq_nil_iff] at none
  have closed : (moment.host.gate gate).isClosed := shut.closed
  constructor
  case refuses =>
    rintro publish delivery payload rfl
    exact ran_dispatchInside_refused (Gate.enter?_of_isClosed closed) payload
  case unheard => exact shut.unheard sound.wired
  case untimed =>
    intro task tracked gated
    obtain ⟨manager, member, same, timed⟩ := sound.held task.id gate
      (Supervisor.mem_ticking.mpr ⟨task, tracked, rfl, gated⟩)
    simp [Manager.timers, vacant member same] at timed
  case vacant => exact fun _ => vacant
  case subscribing =>
    rintro kind manager present rfl event schema
    rw [subscribe, answer_get_bind, after_get_bind, present]
    dsimp only
    by_cases right : event.manager = kind
    · rw [if_neg (not_not.mpr right), if_pos closed, if_pos right]
      exact ⟨rfl, rfl⟩
    · rw [if_pos right, if_neg right]
      exact ⟨rfl, rfl⟩
  case resuming =>
    rintro kind manager present rfl
    rw [resumeManager, after_get_bind, present]
    dsimp only
    rw [after_bind, after_changeGate (Gate.opening_of_isClosed closed), after_get_bind]
    have unopened : ¬(moment.host.gate manager.gate).isOpen := by
      simp only [Gate.isClosed, decide_eq_true_eq] at closed
      simp [Gate.isOpen, closed]
    rw [if_neg unopened, after_pure]
  case stopping =>
    rintro kind manager present rfl
    exact stopManager_still present sound.wired closed
      (vacant (List.mem_of_find?_eq_some present) rfl)

/-- Whatever may happen to a host whose timers are spawned by managers alone. -/
def Licence.managed : Licence where
  task _ := True
  timers := False
  loops := True
  cycles := True

/-- Every run of operations is a path of acts. -/
theorem run_managed {operations : List Operation}
    (plain : ∀ operation ∈ operations, operation.plain) {start : Moment}
    {inside : List GateId} : Keeps (Acting .managed start inside none) (run operations) :=
  run_acts trivial trivial (fun _ => trivial) fun operation member => .inl (plain operation member)

theorem answer_stopManager {host : Host} {kind : ManagerKind} {manager : Manager}
    (present : host.registry.manager? kind = some manager) :
    answer (stopManager kind) host =
      if (host.gate manager.gate).inFlight = 0 then []
      else [{
        task := dispatchName kind (host.gate manager.gate).inFlight
        generation := manager.generation
        grace := host.reloading.stopGrace }] := by
  have counted : ((after (changeGate manager.gate Gate.closing) host).gate
      manager.gate).inFlight = (host.gate manager.gate).inFlight := by
    change ((host.wiring.changeGate manager.gate Gate.closing).gate manager.gate).inFlight = _
    rw [Wiring.gate_changeGate]
    split <;> rfl
  rw [stopManager, answer_get_bind, present]
  dsimp only
  rw [answer_bind, answer_get_bind, answer_bind, answer_bind, answer_bind, answer_pure]
  simp only [counted]
  rfl

/-- At any moment, also from inside a dispatch, stopping a manager reports the dispatches
that are inside, if there are any. At every later moment nothing is left of it, and no dispatch
has entered its gate since. Of the events that it is asked to subscribe, it names those of
other managers as such also after its end. -/
theorem stopManager_final {config : ScriptingConfig} {dataDirectory : String} {tree : FileTree}
    {vocabulary : Vocabulary} {shelf : ScriptShelf} {inside : List GateId}
    {turn : Option TaskId} {host : Host}
    (history : Acting .managed
      ⟨[], none, create config dataDirectory tree vocabulary shelf⟩ inside turn host)
    {kind : ManagerKind} {manager : Manager}
    (present : host.registry.manager? kind = some manager) :
    answer (stopManager kind) host =
        (if manager.gate ∈ inside then [{
            task := dispatchName kind (inside.count manager.gate)
            generation := manager.generation
            grace := host.reloading.stopGrace }]
          else []) ∧
      ∀ inside' turn' later,
        Acting .managed ⟨inside, turn, after (stopManager kind) host⟩ inside' turn' later →
          later.Ended manager.gate ∧
            inside'.count manager.gate ≤ inside.count manager.gate := by
  have sound : Moment.Sound ⟨inside, turn, host⟩ :=
    Acting.keeps Moment.Sound (fun _ _ act => act.sound id) history
      (create_sound config dataDirectory tree vocabulary shelf)
  constructor
  · have counted : (host.gate manager.gate).inFlight = inside.count manager.gate :=
      sound.counted manager.gate
    rw [answer_stopManager present, counted]
    by_cases busy : manager.gate ∈ inside
    · rw [if_pos busy, if_neg (Nat.ne_of_gt (List.count_pos_iff.mpr busy))]
    · rw [if_neg busy, if_pos (List.count_eq_zero.mpr busy)]
  · intro inside' turn' later path
    have shut : (after (stopManager kind) host).wiring.Shut manager.gate := by
      have managed : host.wiring.registry.manager? kind = some manager.bare := by
        rw [wiring_manager?, present]
        rfl
      have shut : (host.wiring.stop kind).Shut manager.bare.gate := sound.wired.shut_stop managed
      rw [stopManager_wiring]
      exact shut
    have stop : Act .managed ⟨inside, turn, host⟩ ⟨inside, turn, after (stopManager kind) host⟩ :=
      .stopManager kind
    obtain ⟨sound, shut, fewer⟩ := Acting.keeps
      (fun moment => moment.Sound ∧ moment.host.wiring.Shut manager.gate ∧
        moment.inside.count manager.gate ≤ inside.count manager.gate)
      (fun _ _ act ⟨sound, shut, fewer⟩ =>
        have ⟨shut, left⟩ := act.passage.shut shut
        ⟨act.sound id sound, shut, Nat.le_trans left fewer⟩)
      path ⟨stop.sound id sound, shut, Nat.le_refl _⟩
    exact ⟨sound.ended shut, fewer⟩

/-- The bus manager delivers. -/
def openHost : Host :=
  after (run [.askManager .bus 0, .subscribe .bus (.bus "motion") { entries := [] },
    .resumeManager .bus]) (create {} "" {} {} [])

/-- An event is being dispatched inside the gate of the bus manager. -/
def motionHost : Host :=
  after (changeGate 0 fun gate => { gate with inFlight := 1 }) openHost

theorem stopManager_final_motion :
    answer (stopManager .bus) motionHost = [{
        task := dispatchName .bus 1
        generation := 0
        grace := .ofMilliseconds 2000 }] ∧
      (after (run [.resumeManager .bus, .advance 10 1000])
        (after (stopManager .bus) motionHost)).Ended 0 := by
  have opened : Acting .managed ⟨[], none, create {} "" {} {} []⟩ [] none openHost :=
    run_managed (by simp [Operation.plain]) _ .refl
  have admitted : (openHost.gate 0).enter? = some { phase := .opened, inFlight := 1 } := rfl
  have history : Acting .managed ⟨[], none, create {} "" {} {} []⟩ [0] none motionHost :=
    opened.tail (.enter admitted)
  have present : motionHost.registry.manager? .bus = some {
      kind := .bus, generation := 0, gate := 0, nextId := 1
      subscriptions := [{ id := 0, kind := .bus "motion", feed := .listener 0 }] } := rfl
  obtain ⟨reported, ended⟩ := stopManager_final history present
  refine ⟨reported, (ended [0] none _ ?_).1⟩
  exact run_managed (by simp [Operation.plain]) _ .refl

/-- A stopped manager does not call its generation stale when it is asked for an event of
another source. -/
theorem subscribe_elsewhere :
    ¬∀ event schema, ∃ generation,
      answer (subscribe .bus event schema) (after (stopManager .bus) motionHost) =
        .error (.staleGeneration generation) := by
  intro stale
  obtain ⟨generation, failed⟩ := stale (.interval (.ofMilliseconds 5000)) { entries := [] }
  have refused : answer (subscribe .bus (.interval (.ofMilliseconds 5000)) { entries := [] })
      (after (stopManager .bus) motionHost) =
        .error (.wrongManager .bus (.interval (.ofMilliseconds 5000))) := rfl
  rw [refused] at failed
  cases failed

end Host

end HomeRules
