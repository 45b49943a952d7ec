import HomeRules.Proofs.Host.Attending
import HomeRules.Proofs.Host.Finality
import HomeRules.Proofs.Host.Holdings

/-!
# The manager of intervals

The subscriptions of the manager of intervals are timers. A timer waits for its manager to
deliver and then runs as one task. What an act does to this manager comes down to a few cases,
and from these it follows that a timer has a task just if its manager delivers, that no two of
them have the same, and that a timer never changes its task.
-/

set_option autoImplicit false

namespace HomeRules

/-- A subscription to an interval, by its number with the manager, which has a gate and a
generation. -/
structure Timer where
  gate : GateId
  generation : Generation
  number : Nat
  period : Duration
  schema : EventSchema

namespace Timer

def kind (timer : Timer) : EventKind :=
  .interval timer.period

/-- What is done with its ticks. -/
def delivery (timer : Timer) : Delivery where
  gate := timer.gate
  generation := timer.generation
  schema := timer.schema
  kind := timer.kind

/-- The task of a timer when it is spawned. -/
def task (timer : Timer) (id : TaskId) : Task where
  id
  name := timer.kind.render
  generation := timer.generation
  owner := none
  work := .timer timer.gate timer.schema timer.kind timer.period

/-- The subscription of a timer that runs as a task, or does not run. -/
def subscription (timer : Timer) (task : Option TaskId) : Subscription where
  id := timer.number
  kind := timer.kind
  feed := .timer timer.period timer.schema task

/-- The subscription is live, and runs as a task, or does not run. -/
def Live (timer : Timer) (host : Host) (task : Option TaskId) : Prop :=
  ∃ manager, host.registry.manager? .time = some manager ∧ manager.gate = timer.gate ∧
    manager.generation = timer.generation ∧ timer.subscription task ∈ manager.subscriptions

/-- The manager still has a subscription with the number of the timer. -/
def Listed (timer : Timer) (host : Host) : Prop :=
  ∃ manager, host.registry.manager? .time = some manager ∧ manager.gate = timer.gate ∧
    manager.generation = timer.generation ∧ timer.number ∈ manager.subscriptions.map (·.id)

instance (timer : Timer) (host : Host) : Decidable (timer.Listed host) :=
  decidable_of_iff ((host.registry.manager? .time).any fun manager =>
    decide (manager.gate = timer.gate ∧ manager.generation = timer.generation ∧
      timer.number ∈ manager.subscriptions.map (·.id)))
    (by simp only [Listed, Option.any_eq_true, decide_eq_true_eq])

end Timer

theorem Gate.isOpen_opening {gate : Gate} (opened : gate.isOpen) : gate.opening.isOpen := by
  unfold opening
  split
  · rfl
  · exact opened

theorem Gate.unpending_of_isOpen {gate : Gate} (opens : gate.isOpen) : gate.phase ≠ .pending := by
  have opened : gate.phase = .opened := of_decide_eq_true opens
  rw [opened]
  exact GatePhase.noConfusion

/-! ## Growing supervisors -/

namespace Supervisor

/-- Tasks were added, and none was ended. -/
structure Grows (supervisor next : Supervisor) : Prop where
  issued : supervisor.nextId ≤ next.nextId
  kept : ∀ task ∈ supervisor.tasks, task.progress.isOver = false → task ∈ next.tasks

variable {supervisor next : Supervisor}

theorem Grows.refl (supervisor : Supervisor) : supervisor.Grows supervisor :=
  ⟨Nat.le_refl _, fun _ tracked _ => tracked⟩

theorem Grows.trans {last : Supervisor} (first : supervisor.Grows next)
    (second : next.Grows last) : supervisor.Grows last where
  issued := Nat.le_trans first.issued second.issued
  kept task tracked going := second.kept task (first.kept task tracked going) going

theorem grows_add (supervisor : Supervisor) (name : String) (generation : Generation)
    (owner : Option String) (work : Work) :
    supervisor.Grows (supervisor.add name generation owner work).1 where
  issued := Nat.le_succ _
  kept task tracked going := by
    rw [add_tasks]
    exact List.mem_append_left _ (List.mem_filter.mpr ⟨tracked, by simp [going]⟩)

end Supervisor

namespace Host

/-! ## Starting timers -/

/-- The subscription has a task that was spawned for it since an earlier host. -/
def Begun (host next : Host) (manager : Manager) (subscription : Subscription) : Prop :=
  ∃ period schema id, subscription.feed = .timer period schema (some id) ∧
    host.supervisor.nextId ≤ id ∧ id < next.supervisor.nextId ∧
    { id
      name := subscription.kind.render
      generation := manager.generation
      owner := none
      work := .timer manager.gate schema subscription.kind period : Task } ∈ next.supervisor.tasks

theorem Begun.widen {host middle next last : Host} {manager : Manager}
    {subscription : Subscription} (begun : middle.Begun next manager subscription)
    (before : host.supervisor.Grows middle.supervisor)
    (later : next.supervisor.Grows last.supervisor) : host.Begun last manager subscription := by
  obtain ⟨period, schema, id, fed, fresh, below, tracked⟩ := begun
  exact ⟨period, schema, id, fed, Nat.le_trans before.issued fresh,
    Nat.lt_of_lt_of_le below later.issued, later.kept _ tracked rfl⟩

theorem Begun.task? {host next : Host} {manager : Manager} {subscription : Subscription}
    (begun : host.Begun next manager subscription) :
    ∃ id, subscription.feed.task? = some id ∧ host.supervisor.nextId ≤ id ∧
      id < next.supervisor.nextId := by
  obtain ⟨period, schema, id, fed, fresh, below, -⟩ := begun
  rw [fed]
  exact ⟨id, rfl, fresh, below⟩

/-- The timers of subscriptions were started that had no task. -/
structure Starts (manager : Manager) (subscriptions : List Subscription) (host : Host)
    (started : List Subscription) (next : Host) : Prop where
  registry : next.registry = host.registry
  gates : next.gates = host.gates
  generation : next.generation = host.generation
  grows : host.supervisor.Grows next.supervisor
  made : ∀ subscription ∈ started, subscription ∈ subscriptions ∨
    host.Begun next manager subscription ∧
      ∃ old ∈ subscriptions, old.id = subscription.id ∧ old.feed.task? = none
  all : host.generation = manager.generation → ∀ subscription ∈ started, ∀ period schema,
    subscription.feed ≠ .timer period schema none
  distinct : (subscriptions.filterMap (·.feed.task?)).Nodup →
    (∀ id ∈ subscriptions.filterMap (·.feed.task?), id < host.supervisor.nextId) →
      (started.filterMap (·.feed.task?)).Nodup

theorem Starts.timed {manager : Manager} {subscriptions started : List Subscription}
    {host next : Host} (starts : Starts manager subscriptions host started next) {id : TaskId}
    (timed : id ∈ started.filterMap (·.feed.task?)) :
    id ∈ subscriptions.filterMap (·.feed.task?) ∨
      host.supervisor.nextId ≤ id ∧ id < next.supervisor.nextId := by
  obtain ⟨subscription, member, running⟩ := List.mem_filterMap.mp timed
  rcases starts.made subscription member with old | ⟨begun, -⟩
  · exact .inl (List.mem_filterMap.mpr ⟨subscription, old, running⟩)
  · obtain ⟨_, fed, fresh⟩ := begun.task?
    cases fed.symm.trans running
    exact .inr fresh

/-- A timer is started, unless it runs, is none, or its manager belongs to an earlier
generation. -/
theorem startTimer_cases (manager : Manager) (subscription : Subscription) (host : Host) :
    (answer (startTimer manager subscription) host = subscription ∧
        after (startTimer manager subscription) host = host ∧
        (host.generation = manager.generation →
          ∀ period schema, subscription.feed ≠ .timer period schema none)) ∨
      ∃ period schema, subscription.feed = .timer period schema none ∧
        host.generation = manager.generation ∧
        answer (startTimer manager subscription) host = { subscription with
          feed := .timer period schema (some host.supervisor.nextId) } ∧
        after (startTimer manager subscription) host = after (spawn subscription.kind.render
          manager.generation none (.timer manager.gate schema subscription.kind period)) host := by
  unfold startTimer
  split
  case h_1 period schema fed =>
    by_cases current : host.generation = manager.generation
    · right
      refine ⟨period, schema, fed, current, ?_, rfl⟩
      simp only [answer_bind, answer_pure, (spawn_current host _ none _ current).1,
        Option.map_some]
    · left
      obtain ⟨refused, untouched⟩ := spawn_refused host subscription.kind.render none
        (.timer manager.gate schema subscription.kind period) current
      refine ⟨?_, untouched, fun same => absurd same current⟩
      simp only [answer_bind, answer_pure, refused, Option.map_none, ← fed]
  case h_2 running =>
    exact .inl ⟨rfl, rfl, fun _ period schema same => running period schema same⟩

private theorem startTimer_starts (manager : Manager) (subscription : Subscription) (host : Host) :
    Starts manager [subscription] host [answer (startTimer manager subscription) host]
      (after (startTimer manager subscription) host) := by
  rcases startTimer_cases manager subscription host with
    ⟨same, still, running⟩ | ⟨period, schema, fed, current, started, spawned⟩
  · rw [same, still]
    refine ⟨rfl, rfl, rfl, .refl _, fun _ => .inl, fun current other member => ?_, fun old _ => old⟩
    rw [List.mem_singleton.mp member]
    exact running current
  · obtain ⟨-, supervisor, -, registry⟩ := spawn_current host subscription.kind.render none
      (.timer manager.gate schema subscription.kind period) current
    rw [← spawned] at supervisor registry
    have rest : (after (startTimer manager subscription) host).gates = host.gates ∧
        (after (startTimer manager subscription) host).generation = host.generation := by
      rw [spawned, spawn, after_get_bind, if_pos current]
      exact ⟨rfl, rfl⟩
    refine ⟨registry, rest.1, rest.2, ?_, ?_, ?_, ?_⟩
    · rw [supervisor]
      exact Supervisor.grows_add ..
    · intro other member
      rw [List.mem_singleton.mp member, started, Begun, supervisor, Supervisor.add_tasks]
      refine .inr ⟨⟨period, schema, _, rfl, Nat.le_refl _, Nat.lt_succ_self _, ?_⟩, subscription,
        List.mem_singleton_self _, rfl, ?_⟩
      · exact List.mem_append_right _ (List.mem_singleton_self _)
      · rw [fed]
        rfl
    · intro _ other member _ _ waits
      rw [List.mem_singleton.mp member, started] at waits
      cases waits
    · intro _ _
      rw [started]
      exact List.nodup_singleton _

theorem startTimers_starts (manager : Manager) (subscriptions : List Subscription) (host : Host) :
    Starts manager subscriptions host (answer (subscriptions.mapM (startTimer manager)) host)
      (after (subscriptions.mapM (startTimer manager)) host) := by
  induction subscriptions generalizing host with
  | nil => exact ⟨rfl, rfl, rfl, .refl _, nofun, nofun, fun old _ => old⟩
  | cons subscription rest previous =>
      rw [List.mapM_cons]
      simp only [answer_bind, answer_pure, after_bind, after_pure]
      have first := startTimer_starts manager subscription host
      have later := previous (after (startTimer manager subscription) host)
      generalize answer (startTimer manager subscription) host = started at first
      generalize after (startTimer manager subscription) host = middle at first later
      generalize answer (rest.mapM (startTimer manager)) middle = others at later
      generalize after (rest.mapM (startTimer manager)) middle = next at later
      constructor
      case registry => exact later.registry.trans first.registry
      case gates => exact later.gates.trans first.gates
      case generation => exact later.generation.trans first.generation
      case grows => exact first.grows.trans later.grows
      case made =>
        intro other member
        rcases List.mem_cons.mp member with rfl | member
        · rcases first.made _ (List.mem_singleton_self _) with old | ⟨begun, old, here, waits⟩
          · exact .inl (List.mem_singleton.mp old ▸ List.mem_cons_self)
          · refine .inr ⟨begun.widen (.refl _) later.grows, old, ?_, waits⟩
            exact List.mem_singleton.mp here ▸ List.mem_cons_self
        · rcases later.made other member with old | ⟨begun, old, here, waits⟩
          · exact .inl (List.mem_cons_of_mem _ old)
          · exact .inr ⟨begun.widen first.grows (.refl _), old, List.mem_cons_of_mem _ here, waits⟩
      case all =>
        intro current other member
        rcases List.mem_cons.mp member with rfl | member
        · exact first.all current _ (List.mem_singleton_self _)
        · exact later.all (first.generation.trans current) other member
      case distinct =>
        intro distinct bounded
        have rested : (others.filterMap (·.feed.task?)).Nodup := by
          refine later.distinct ?_ fun id timed => ?_
          · exact distinct.sublist ((List.sublist_cons_self _ _).filterMap _)
          · refine Nat.lt_of_lt_of_le (bounded id ?_) first.grows.issued
            exact ((List.sublist_cons_self _ _).filterMap _).subset timed
        cases timed : started.feed.task? with
        | none => simpa only [List.filterMap_cons, timed] using rested
        | some id =>
            simp only [List.filterMap_cons, timed, List.nodup_cons]
            refine ⟨fun again => ?_, rested⟩
            have before : id ∈ [started].filterMap (·.feed.task?) := by
              simp [timed]
            -- A task that is new with the first is not new with the others, and none was there.
            rcases first.timed before with own | ⟨fresh, below⟩ <;>
              rcases later.timed again with old | ⟨later, -⟩
            · cases running : subscription.feed.task? with
              | none => simp [running] at own
              | some other =>
                  simp only [List.filterMap_cons, running, List.filterMap_nil,
                    List.mem_singleton, List.nodup_cons] at own distinct
                  exact distinct.1 (own ▸ old)
            · have known := bounded id
                (((List.singleton_sublist.mpr List.mem_cons_self).filterMap _).subset own)
              exact Nat.not_lt_of_le (Nat.le_trans first.grows.issued later) known
            · have known := bounded id (((List.sublist_cons_self _ _).filterMap _).subset old)
              exact Nat.not_lt_of_le fresh known
            · exact Nat.not_lt_of_le later below

/-! ## What becomes of the manager -/

/-- How a subscription came about that its manager did not have. -/
inductive Made (host next : Host) (manager : Manager) (subscription : Subscription) : Prop where
  | waits (number : subscription.id = manager.nextId) (untimed : subscription.feed.task? = none)
  | starts (begun : host.Begun next manager subscription)
      (number : subscription.id = manager.nextId ∨
        ∃ old ∈ manager.subscriptions, old.id = subscription.id ∧ old.feed.task? = none)

/-- The timers of a manager of the current generation run just if it delivers. -/
def Delivers (host : Host) (manager : Manager) : Prop :=
  manager.generation = host.generation → ∀ subscription ∈ manager.subscriptions,
    ∀ period schema task, subscription.feed = .timer period schema task →
      (task.isSome ↔ (host.gate manager.gate).isOpen)

/-- What becomes of the manager of intervals: nothing, or it is dropped, or a new one is there,
or its subscriptions change. -/
inductive Tended (host next : Host) : Prop where
  | still (same : next.registry.manager? .time = host.registry.manager? .time)
      (gated : ∀ manager, host.registry.manager? .time = some manager →
        (next.gate manager.gate).isOpen = (host.gate manager.gate).isOpen)
  | gone (none : next.registry.manager? .time = none)
  | created {manager : Manager} (found : next.registry.manager? .time = some manager)
      (placed : host.gates.length ≤ manager.gate)
      (current : manager.generation = host.generation) (empty : manager.subscriptions = [])
  | changed {manager later : Manager} (present : host.registry.manager? .time = some manager)
      (replaced : next.registry.manager? .time = some later) (gate : later.gate = manager.gate)
      (generation : later.generation = manager.generation)
      (numbers : manager.nextId ≤ later.nextId)
      (made : ∀ subscription ∈ later.subscriptions,
        subscription ∈ manager.subscriptions ∨ Made host next manager subscription)
      (delivers : host.Delivers manager → next.Delivers later)
      (distinct : manager.timers.Nodup → (∀ id ∈ manager.timers, id < host.supervisor.nextId) →
        later.timers.Nodup)

theorem gate_changeGate (host : Host) (id gate : GateId) (change : Gate → Gate) :
    (after (changeGate id change) host).gate gate =
      if id = gate ∧ gate < host.gates.length then change (host.gate gate) else host.gate gate :=
  Wiring.gate_changeGate host.wiring id gate change

/-- Managers of different sources have different gates. -/
theorem gates_apart {host : Host} (sound : host.wiring.Sound) {kind other : ManagerKind}
    (apart : kind ≠ other) {manager neighbour : Manager}
    (present : host.registry.manager? kind = some manager)
    (beside : host.registry.manager? other = some neighbour) : manager.gate ≠ neighbour.gate := by
  intro same
  have gates : (host.registry.managers.map (·.gate)).Nodup := by
    have distinct := sound.apart
    simp only [wiring, Registry.bare, List.map_map] at distinct
    exact distinct
  obtain ⟨member, named⟩ := Registry.of_manager? present
  obtain ⟨listed, called⟩ := Registry.of_manager? beside
  have unique : manager = neighbour := List.inj_on_of_nodup_map gates member listed same
  exact apart (by rw [← named, unique, called])

theorem Tended.same {host next : Host} (registry : next.registry = host.registry)
    (gates : next.gates = host.gates) : Tended host next :=
  .still (by rw [registry]) fun manager _ => by rw [Host.gate, gates]; rfl

/-- What is done to another manager is nothing to that of intervals. -/
private theorem Tended.aside {host next : Host} (sound : host.wiring.Sound) {kind : ManagerKind}
    (apart : kind ≠ .time) {manager later : Manager}
    (present : host.registry.manager? kind = some manager) (same : later.kind = kind)
    (registry : next.registry = host.registry.update later)
    (gates : ∀ gate ≠ manager.gate, next.gate gate = host.gate gate) : Tended host next := by
  refine .still ?_ fun neighbour beside => ?_
  · rw [registry, Registry.manager?_update present same, if_neg (Ne.symm apart)]
  · rw [gates _ (gates_apart sound apart present beside).symm]

theorem resumeManager_tended {host : Host} (sound : host.wiring.Sound) (kind : ManagerKind) :
    Tended host (after (resumeManager kind) host) ∧
      host.supervisor.Grows (after (resumeManager kind) host).supervisor := by
  rw [resumeManager, after_get_bind]
  cases present : host.registry.manager? kind with
  | none => exact ⟨.still rfl fun _ _ => rfl, .refl _⟩
  | some manager =>
      have named : manager.kind = kind := (Registry.of_manager? present).2
      dsimp only
      rw [after_bind, after_get_bind]
      have gates (gate : GateId) (other : gate ≠ manager.gate) :
          (after (changeGate manager.gate Gate.opening) host).gate gate = host.gate gate := by
        rw [gate_changeGate, if_neg fun same => other same.1.symm]
      split
      case isFalse refuses =>
        refine ⟨.still rfl fun neighbour beside => ?_, .refl _⟩
        by_cases own : neighbour.gate = manager.gate
        · rw [own]
          have shut : (host.gate manager.gate).isOpen = false := by
            rw [gate_changeGate] at refuses
            split at refuses
            · simpa using mt Gate.isOpen_opening refuses
            · simpa using refuses
          simpa [shut] using refuses
        · exact congrArg Gate.isOpen (gates _ own)
      case isTrue opens =>
        have starts := startTimers_starts manager manager.subscriptions
          (after (changeGate manager.gate Gate.opening) host)
        rw [after_bind, after_modify]
        generalize answer (manager.subscriptions.mapM (startTimer manager))
          (after (changeGate manager.gate Gate.opening) host) = started at starts
        generalize after (manager.subscriptions.mapM (startTimer manager))
          (after (changeGate manager.gate Gate.opening) host) = next at starts
        refine ⟨?_, starts.grows⟩
        let later : Manager := { manager with subscriptions := started }
        have same : later.kind = kind := named
        have registry : next.registry.update later = host.registry.update later :=
          congrArg (·.update later) starts.registry
        have kept (gate : GateId) : next.gate gate =
            (after (changeGate manager.gate Gate.opening) host).gate gate := by
          rw [Host.gate, starts.gates]
          rfl
        by_cases time : kind = .time
        · subst time
          have replaced : (next.registry.update later).manager? .time = some later := by
            rw [registry, Registry.manager?_update present same, if_pos rfl]
          refine .changed present replaced rfl rfl (Nat.le_refl _) ?_ ?_ starts.distinct
          · intro subscription member
            exact (starts.made subscription member).imp id fun new => .starts new.1 (.inr new.2)
          · intro _ current subscription member period schema task fed
            have running := starts.all (starts.generation.symm.trans current.symm)
              subscription member period schema
            have delivers : (next.gate manager.gate).isOpen := kept manager.gate ▸ opens
            cases task with
            | none => exact absurd fed running
            | some id => exact ⟨fun _ => delivers, fun _ => rfl⟩
        · exact .aside sound time present same registry
            fun gate other => (kept gate).trans (gates gate other)

/-- A manager without subscriptions has nothing to start. -/
private theorem resumeManager_empty {host : Host} {kind : ManagerKind} {manager : Manager}
    (present : host.registry.manager? kind = some manager) (empty : manager.subscriptions = []) :
    (∀ other, (after (resumeManager kind) host).registry.manager? other =
        host.registry.manager? other) ∧
      ∀ gate ≠ manager.gate, (after (resumeManager kind) host).gate gate = host.gate gate := by
  have named : manager.kind = kind := (Registry.of_manager? present).2
  have gates (gate : GateId) (other : gate ≠ manager.gate) :
      (after (changeGate manager.gate Gate.opening) host).gate gate = host.gate gate := by
    rw [gate_changeGate, if_neg fun same => other same.1.symm]
  rw [resumeManager, after_get_bind, present]
  dsimp only
  rw [after_bind, after_get_bind]
  split
  · have same : { manager with subscriptions := [] } = manager := by rw [← empty]
    rw [after_bind, after_modify, empty]
    refine ⟨fun other => ?_, gates⟩
    change (host.registry.update { manager with subscriptions := [] }).manager? other = _
    rw [same, Registry.manager?_update present named]
    split
    · case isTrue here => rw [here, present]
    · rfl
  · exact ⟨fun _ => rfl, gates⟩

private theorem createManager_tended {host : Host} {kind : ManagerKind}
    (absent : host.registry.manager? kind = none)
    (gated : ∀ manager, host.registry.manager? .time = some manager →
      manager.gate < host.gates.length) :
    Tended host (after (createManager kind host.generation) host) := by
  let fresh : Manager := { kind, generation := host.generation, gate := host.gates.length }
  have added (other : ManagerKind) :
      (host.addManager kind host.generation).registry.manager? other =
        if other = kind then some fresh else host.registry.manager? other :=
    Registry.manager?_add absent other
  have gates (gate : GateId) :
      (host.addManager kind host.generation).gate gate = host.gate gate :=
    host.wiring.add_gate kind host.generation gate
  have present := (added kind).trans (if_pos rfl)
  obtain ⟨managers, still⟩ :
      (∀ other, (after (createManager kind host.generation) host).registry.manager? other =
        (host.addManager kind host.generation).registry.manager? other) ∧
      ∀ gate ≠ fresh.gate, (after (createManager kind host.generation) host).gate gate =
        (host.addManager kind host.generation).gate gate := by
    rw [after_createManager]
    split
    · exact resumeManager_empty present rfl
    · exact ⟨fun _ => rfl, fun _ _ => rfl⟩
  by_cases time : kind = .time
  · subst time
    exact .created ((managers .time).trans present) (Nat.le_refl _) rfl rfl
  · refine .still ?_ fun manager found => ?_
    · rw [managers, added, if_neg (Ne.symm time)]
    · rw [still _ (Nat.ne_of_lt (gated manager found)), gates]

theorem needManager_tended {host : Host} (sound : host.wiring.Sound) (kind : ManagerKind)
    (generation : Generation) :
    Tended host (after (needManager kind generation) host) ∧
      host.supervisor.Grows (after (needManager kind generation) host).supervisor := by
  refine ⟨?_, by rw [(needManager_widened sound kind generation).supervisor]; exact .refl _⟩
  have still : Tended host host := .still rfl fun _ _ => rfl
  have gated (manager : Manager) (found : host.registry.manager? .time = some manager) :
      manager.gate < host.gates.length :=
    sound.gated manager.bare (List.mem_map_of_mem (List.mem_of_find?_eq_some found))
  rw [needManager, after_get_bind]
  split
  · exact still
  case isFalse current =>
  split
  · exact still
  case isFalse absent =>
  split
  · exact still
  case isFalse cleared =>
  obtain rfl := Decidable.not_not.mp current
  split
  case isTrue moved =>
    have empty : host.registry.managers = [] := by simpa [moved] using cleared
    have none (kind : ManagerKind) : host.registry.manager? kind = none := by
      simp [Registry.manager?, empty]
    let renewed : Host := { host with registry := { generation := host.generation } }
    have unmanaged (kind : ManagerKind) : renewed.registry.manager? kind = Option.none := rfl
    have unplaced (manager : Manager) (found : renewed.registry.manager? .time = some manager) :
        manager.gate < renewed.gates.length := by
      cases (unmanaged .time).symm.trans found
    have created := createManager_tended (unmanaged kind) unplaced
    cases created with
    | still same gated =>
        refine .still (same.trans (none .time).symm) fun _ found => ?_
        cases (none .time).symm.trans found
    | gone none => exact .gone none
    | created found placed current empty => exact .created found placed current empty
    | changed present => cases present
  case isFalse same =>
    have same : host.registry.generation = host.generation := Decidable.not_not.mp same
    exact createManager_tended (manager?_eq_none sound same absent) gated

/-- A subscription is added to those of a manager. -/
private theorem enlisted_tended {host next : Host} (sound : host.wiring.Sound) {kind : ManagerKind}
    {manager : Manager} (present : host.registry.manager? kind = some manager)
    (registry : next.registry = host.registry) (gates : next.gates = host.gates)
    (generation : next.generation = host.generation) {subscription : Subscription}
    (number : subscription.id = manager.nextId)
    (made : subscription.feed.task? = none ∨ host.Begun next manager subscription)
    (delivers : host.generation = manager.generation → ∀ period schema task,
      subscription.feed = .timer period schema task →
        (task.isSome ↔ (host.gate manager.gate).isOpen)) :
    Tended host { next with registry := next.registry.update { manager with
      nextId := manager.nextId + 1
      subscriptions := manager.subscriptions ++ [subscription] } } := by
  let later : Manager := { manager with
    nextId := manager.nextId + 1, subscriptions := manager.subscriptions ++ [subscription] }
  have same : later.kind = kind := (Registry.of_manager? present).2
  have updated : next.registry.update later = host.registry.update later :=
    congrArg (·.update later) registry
  have gate (gate : GateId) : next.gate gate = host.gate gate := by
    rw [Host.gate, gates]
    rfl
  by_cases time : kind = .time
  · subst time
    have replaced : (next.registry.update later).manager? .time = some later := by
      rw [updated, Registry.manager?_update present same, if_pos rfl]
    refine .changed present replaced rfl rfl (Nat.le_succ _) ?_ ?_ ?_
    · intro other member
      rcases List.mem_append.mp member with old | new
      · exact .inl old
      · rw [List.mem_singleton.mp new]
        exact .inr (made.elim (.waits number) fun begun => .starts begun (.inl number))
    · intro before current other member period schema task fed
      have current : manager.generation = host.generation := current.trans generation
      change task.isSome ↔ (next.gate manager.gate).isOpen
      rw [gate]
      rcases List.mem_append.mp member with old | new
      · exact before current other old period schema task fed
      · rw [List.mem_singleton.mp new] at fed
        exact delivers current.symm period schema task fed
    · intro distinct issued
      change (later.subscriptions.filterMap (·.feed.task?)).Nodup
      rw [List.filterMap_append]
      rcases made with untimed | begun
      · simp only [List.filterMap_cons, untimed, List.filterMap_nil, List.append_nil]
        exact distinct
      · obtain ⟨id, timed, fresh, -⟩ := begun.task?
        simp only [List.filterMap_cons, timed, List.filterMap_nil]
        refine List.nodup_append.mpr ⟨distinct, List.nodup_singleton _, ?_⟩
        intro old known other new
        rw [List.mem_singleton.mp new]
        exact Nat.ne_of_lt (Nat.lt_of_lt_of_le (issued old known) fresh)
  · exact .aside sound time present same updated fun other _ => gate other

theorem subscribe_tended {host : Host} (sound : host.wiring.Sound) (managerKind : ManagerKind)
    (kind : EventKind) (schema : EventSchema) :
    Tended host (after (subscribe managerKind kind schema) host) ∧
      host.supervisor.Grows (after (subscribe managerKind kind schema) host).supervisor := by
  have still : Tended host host := .still rfl fun _ _ => rfl
  rw [subscribe, after_get_bind]
  cases present : host.registry.manager? managerKind with
  | none => exact ⟨still, .refl _⟩
  | some manager =>
      dsimp only
      split
      · exact ⟨still, .refl _⟩
      split
      · exact ⟨still, .refl _⟩
      rw [after_bind]
      have fed : (answer (openFeed manager kind schema) host).task? = none := by
        cases kind <;> rfl
      have opened : (after (openFeed manager kind schema) host).supervisor = host.supervisor ∧
          (after (openFeed manager kind schema) host).registry = host.registry ∧
          (after (openFeed manager kind schema) host).gates = host.gates ∧
          (after (openFeed manager kind schema) host).generation = host.generation := by
        cases kind <;> exact ⟨rfl, rfl, rfl, rfl⟩
      generalize answer (openFeed manager kind schema) host = feed at fed
      generalize after (openFeed manager kind schema) host = listening at opened
      obtain ⟨supervisor, registry, gates, generation⟩ := opened
      split
      case isTrue opens =>
        have starts := startTimer_starts manager { id := manager.nextId, kind, feed } listening
        rw [after_bind, after_bind, after_modify, after_pure]
        generalize answer (startTimer manager { id := manager.nextId, kind, feed }) listening =
          subscription at starts
        generalize after (startTimer manager { id := manager.nextId, kind, feed }) listening =
          next at starts
        have number : subscription.id = manager.nextId := by
          rcases starts.made _ (List.mem_singleton_self _) with same | ⟨-, old, member, same, -⟩
          · rw [List.mem_singleton.mp same]
          · rw [← same, List.mem_singleton.mp member]
        refine ⟨enlisted_tended sound present (starts.registry.trans registry)
          (starts.gates.trans gates) (starts.generation.trans generation) number ?_ ?_,
          supervisor ▸ starts.grows⟩
        · refine (starts.made _ (List.mem_singleton_self _)).imp (fun same => ?_) fun made => ?_
          · rw [List.mem_singleton.mp same]
            exact fed
          · refine made.1.widen ?_ (.refl _)
            rw [supervisor]
            exact .refl _
        · intro current period schema task timed
          have running := starts.all (generation.trans current) _ (List.mem_singleton_self _)
          cases task with
          | some id => exact ⟨fun _ => opens, fun _ => rfl⟩
          | none => exact absurd timed (running period schema)
      case isFalse shut =>
        refine ⟨enlisted_tended sound present registry gates generation rfl (.inl fed) ?_,
          supervisor ▸ .refl _⟩
        intro _ period schema task timed
        have timed : feed = .timer period schema task := timed
        have waits : task = none := by rwa [timed] at fed
        simpa [waits] using shut

/-! ## What is dropped -/

/-- The tasks of the timers that there are afterwards went on. Nobody owns one of them. -/
def Maintains (host next : Host) : Prop :=
  ∀ manager, next.registry.manager? .time = some manager → ∀ task ∈ host.supervisor.tasks,
    task.id ∈ manager.timers → task.owner = none → task.progress.isOver = false →
      task ∈ next.supervisor.tasks

theorem Maintains.of_grows {host next : Host} (grows : host.supervisor.Grows next.supervisor) :
    Maintains host next :=
  fun _ _ task tracked _ _ going => grows.kept task tracked going

/-- A task runs for one subscription only. -/
theorem filter_timer {subscriptions : List Subscription}
    (distinct : (subscriptions.filterMap (·.feed.task?)).Nodup) {subscription : Subscription}
    (member : subscription ∈ subscriptions) {id : TaskId}
    (running : subscription.feed.task? = some id) :
    subscriptions.filter (·.feed.task? = some id) = [subscription] := by
  induction subscriptions with
  | nil => cases member
  | cons first rest previous =>
      by_cases own : first.feed.task? = some id
      · have alone : ∀ other ∈ rest, other.feed.task? ≠ some id := by
          simp only [List.filterMap_cons, own, List.nodup_cons, List.mem_filterMap] at distinct
          exact fun other member again => distinct.1 ⟨other, member, again⟩
        rcases List.mem_cons.mp member with rfl | later
        · rw [List.filter_cons_of_pos (by simpa using own), List.cons.injEq,
            List.filter_eq_nil_iff]
          exact ⟨rfl, by simpa using alone⟩
        · exact absurd running (alone subscription later)
      · have later := (List.mem_cons.mp member).resolve_left fun same => own (same ▸ running)
        rw [List.filter_cons_of_neg (by simpa using own)]
        exact previous (distinct.sublist ((List.sublist_cons_self _ _).filterMap _)) later

theorem timer_unique {subscriptions : List Subscription}
    (distinct : (subscriptions.filterMap (·.feed.task?)).Nodup)
    {subscription other : Subscription} (member : subscription ∈ subscriptions)
    (present : other ∈ subscriptions) {id : TaskId}
    (running : subscription.feed.task? = some id) (again : other.feed.task? = some id) :
    subscription = other := by
  have found : other ∈ subscriptions.filter (·.feed.task? = some id) :=
    List.mem_filter.mpr ⟨present, decide_eq_true again⟩
  rw [filter_timer distinct member running] at found
  exact (List.mem_singleton.mp found).symm

/-- No task runs for a subscription to pushed events. -/
theorem untimed {host : Host} (sound : host.wiring.Sound) {kind : ManagerKind}
    (apart : kind ≠ .time) {manager : Manager}
    (present : host.registry.manager? kind = some manager) {subscription : Subscription}
    (member : subscription ∈ manager.subscriptions) : subscription.feed.task? = none := by
  obtain ⟨listed, named⟩ := Registry.of_manager? present
  have managed := sound.managers manager.bare (List.mem_map_of_mem listed)
  have sourced := managed.sourced subscription.bare (List.mem_map_of_mem member)
  have fed := managed.fed subscription.bare (List.mem_map_of_mem member)
  have source : subscription.kind.manager = kind := sourced.trans named
  cases running : subscription.feed with
  | listener id => rfl
  | timer period schema task =>
      have pushed : subscription.kind.isPushed = false := by
        simpa [Subscription.bare, Feed.bare, running, Feed.listener?] using fed.symm
      cases kind : subscription.kind with
      | interval period =>
          rw [kind] at source
          exact absurd source.symm apart
      | _ =>
          rw [kind] at pushed
          cases pushed

/-- A manager dropped some of its subscriptions, and their tasks were ended. -/
structure Drops (kind : ManagerKind) (manager : Manager) (keep : Subscription → Bool)
    (host next : Host) : Prop where
  present : host.registry.manager? kind = some manager
  registry : next.registry = host.registry.update { manager with
    subscriptions := manager.subscriptions.filter keep }
  generation : next.generation = host.generation
  others : ∀ gate ≠ manager.gate, next.gate gate = host.gate gate
  own : ∀ subscription, keep subscription → next.gate manager.gate = host.gate manager.gate
  kept : ∀ task ∈ host.supervisor.tasks, (∀ subscription ∈ manager.subscriptions,
    keep subscription = false → subscription.feed.task? ≠ some task.id) →
      task ∈ next.supervisor.tasks

namespace Drops

variable {kind : ManagerKind} {manager : Manager} {keep : Subscription → Bool} {host next : Host}

theorem manager? (drops : Drops kind manager keep host next) (time : kind = .time) :
    next.registry.manager? .time = some { manager with
      subscriptions := manager.subscriptions.filter keep } := by
  have named : manager.kind = kind := (Registry.of_manager? drops.present).2
  have same : ({ manager with
    subscriptions := manager.subscriptions.filter keep } : Manager).kind = kind := named
  rw [drops.registry, Registry.manager?_update drops.present same, if_pos time.symm]

theorem tended (drops : Drops kind manager keep host next) (sound : host.wiring.Sound) :
    Tended host next := by
  by_cases time : kind = .time
  · have present : host.registry.manager? .time = some manager := time ▸ drops.present
    refine .changed present (drops.manager? time) rfl rfl (Nat.le_refl _) ?_ ?_ ?_
    · exact fun subscription member => .inl (List.mem_of_mem_filter member)
    · intro before current subscription member period schema task fed
      have gate := drops.own subscription (List.of_mem_filter member)
      change task.isSome ↔ (next.gate manager.gate).isOpen
      rw [gate]
      exact before (current.trans drops.generation) subscription (List.mem_of_mem_filter member)
        period schema task fed
    · exact fun distinct _ => distinct.sublist (List.filter_sublist.filterMap _)
  · have named : manager.kind = kind := (Registry.of_manager? drops.present).2
    have same : ({ manager with
      subscriptions := manager.subscriptions.filter keep } : Manager).kind = kind := named
    exact .aside sound time drops.present same drops.registry drops.others

theorem spares (drops : Drops kind manager keep host next) (sound : host.wiring.Sound)
    (distinct : ∀ manager, host.registry.manager? .time = some manager → manager.timers.Nodup) :
    Maintains host next := by
  intro later found task tracked timed _ _
  refine drops.kept task tracked fun subscription member dropped running => ?_
  by_cases time : kind = .time
  · have own := Option.some.inj (found.symm.trans (drops.manager? time))
    rw [own] at timed
    obtain ⟨other, kept, again⟩ := Manager.mem_timers.mp timed
    have same := timer_unique (distinct manager (time ▸ drops.present)) member
      (List.mem_of_mem_filter kept) running again
    rw [same, List.of_mem_filter kept] at dropped
    cases dropped
  · rw [untimed sound time drops.present member] at running
    cases running

end Drops

private theorem closeFeed_gates (feed : Feed) (host : Host) :
    (after (closeFeed feed) host).gates = host.gates ∧
      (after (closeFeed feed) host).generation = host.generation := by
  cases feed with
  | listener id => exact ⟨rfl, rfl⟩
  | timer period schema task => cases task <;> exact ⟨rfl, rfl⟩

theorem unsubscribe_drops {host : Host} {kind : ManagerKind} {manager : Manager}
    (present : host.registry.manager? kind = some manager) (id : Nat) :
    after (unsubscribe kind id) host = host ∨
      Drops kind manager (·.id ≠ id) host (after (unsubscribe kind id) host) := by
  rw [unsubscribe, after_get_bind, present]
  cases found : manager.subscriptions.find? (·.id = id) with
  | none => simp only [found]; exact .inl rfl
  | some subscription =>
      simp only [found]
      rw [after_bind, after_modify]
      right
      set dropped : Host := { host with registry := host.registry.update { manager with
        subscriptions := manager.subscriptions.filter (·.id ≠ id) } }
      obtain ⟨registry, -, supervisor⟩ := closeFeed_spec subscription.feed dropped
      obtain ⟨gates, generation⟩ := closeFeed_gates subscription.feed dropped
      have same (gate : GateId) :
          (after (closeFeed subscription.feed) dropped).gate gate = host.gate gate := by
        rw [Host.gate, gates]
        rfl
      refine ⟨present, registry, generation, fun gate _ => same gate, fun _ _ => same _, ?_⟩
      intro task tracked spared
      rw [supervisor]
      refine List.mem_filter.mpr ⟨tracked, decide_eq_true ?_⟩
      obtain ⟨member, named⟩ := of_find?_key found
      exact spared subscription member (decide_eq_false (not_not.mpr named))

theorem stopManager_drops {host : Host} {kind : ManagerKind} {manager : Manager}
    (present : host.registry.manager? kind = some manager) :
    Drops kind manager (fun _ => false) host (after (stopManager kind) host) := by
  obtain ⟨journal, stopped⟩ := after_stopManager present
  rw [stopped]
  let emptied : Host := { host with
    gates := host.gates.modify manager.gate Gate.closing
    registry := host.registry.update { manager with subscriptions := [] }
    journal }
  let fact (later : Host) : Prop := later.registry = emptied.registry ∧
    later.generation = host.generation ∧ later.gates = emptied.gates ∧
    ∀ task ∈ host.supervisor.tasks, (∀ subscription ∈ manager.subscriptions,
      subscription.feed.task? ≠ some task.id) → task ∈ later.supervisor.tasks
  have closed : Keeps fact (manager.subscriptions.forM fun subscription => do
      let _ ← closeFeed subscription.feed
      return ()) := by
    refine .forM_of_mem fun (subscription : Subscription) member =>
      .bind (fun later holds => ?_) fun _ => .pure _
    obtain ⟨registry, -, supervisor⟩ := closeFeed_spec subscription.feed later
    obtain ⟨gates, generation⟩ := closeFeed_gates subscription.feed later
    refine ⟨registry.trans holds.1, generation.trans holds.2.1, gates.trans holds.2.2.1, ?_⟩
    intro task tracked spared
    rw [supervisor]
    exact List.mem_filter.mpr ⟨holds.2.2.2 task tracked spared,
      decide_eq_true (spared subscription member)⟩
  obtain ⟨replaced, current, gates, kept⟩ :=
    closed emptied ⟨rfl, rfl, rfl, fun task tracked _ => tracked⟩
  refine ⟨present, replaced.trans ?_, current, fun gate other => ?_,
    fun _ kept => absurd kept Bool.false_ne_true, ?_⟩
  · rw [List.filter_false]
  · rw [Host.gate, gates]
    exact (gate_changeGate host manager.gate gate Gate.closing).trans
      (if_neg fun own => other own.1.symm)
  · exact fun task tracked spared => kept task tracked fun subscription member =>
      spared subscription member rfl

theorem unsubscribe_tended {host : Host} (sound : host.wiring.Sound) (kind : ManagerKind)
    (id : Nat) : Tended host (after (unsubscribe kind id) host) ∧
      ((∀ manager, host.registry.manager? .time = some manager → manager.timers.Nodup) →
        Maintains host (after (unsubscribe kind id) host)) := by
  have untouched : Tended host host ∧ Maintains host host :=
    ⟨.same rfl rfl, .of_grows (.refl _)⟩
  cases present : host.registry.manager? kind with
  | none =>
      rw [unsubscribe, after_get_bind, present]
      exact ⟨untouched.1, fun _ => untouched.2⟩
  | some manager =>
      rcases unsubscribe_drops present id with same | drops
      · rw [same]
        exact ⟨untouched.1, fun _ => untouched.2⟩
      · exact ⟨drops.tended sound, drops.spares sound⟩

theorem stopManager_tended {host : Host} (sound : host.wiring.Sound) (kind : ManagerKind) :
    Tended host (after (stopManager kind) host) ∧
      ((∀ manager, host.registry.manager? .time = some manager → manager.timers.Nodup) →
        Maintains host (after (stopManager kind) host)) := by
  cases present : host.registry.manager? kind with
  | none =>
      rw [stopManager, after_get_bind, present]
      exact ⟨.same rfl rfl, fun _ => .of_grows (.refl _)⟩
  | some manager =>
      have drops := stopManager_drops present
      exact ⟨drops.tended sound, drops.spares sound⟩

/-! ## Acts -/

section Acts

variable {licence : Licence} {moment next : Moment}

theorem Tended.of_services {host next : Host} (same : next.services = host.services) :
    Tended host next :=
  .same (congrArg Services.registry same) (congrArg Services.gates same)

private theorem changeGate_tended {host : Host} {id : GateId} {change : Gate → Gate}
    (same : (change (host.gate id)).isOpen = (host.gate id).isOpen) :
    Tended host (after (changeGate id change) host) := by
  refine .still rfl fun manager _ => ?_
  rw [gate_changeGate]
  split
  · case isTrue here => rw [← here.1, same]
  · rfl

theorem Act.tended (act : Act licence moment next) (sound : moment.host.wiring.Sound) :
    Tended moment.host next.host := by
  cases act with
  | beside same => exact .of_services (congrArg Works.services same)
  | request => exact .of_services (services_of_parts (changeLoops_parts ReloadLoops.request _))
  | spawn name generation owner work plain =>
      rw [Moment.next, Host.spawn, after_get_bind]
      split <;> exact .same rfl rfl
  | enter admitted =>
      refine changeGate_tended ?_
      rw [(Gate.enter?_eq_some admitted).2]
      rfl
  | leave inside => exact changeGate_tended rfl
  | keepRecords registrations resumed => exact .still rfl fun _ _ => rfl
  | resumeManager kind => exact (resumeManager_tended sound kind).1
  | needManager kind generation => exact (needManager_tended sound kind generation).1
  | subscribe manager kind schema => exact (subscribe_tended sound manager kind schema).1
  | unsubscribe kind id => exact (unsubscribe_tended sound kind id).1
  | stopManager kind => exact (stopManager_tended sound kind).1
  | clear unsubscribed => exact .gone rfl
  | loops licensed same => exact .of_services same
  | schedule licensed same => exact .of_services same
  | _ => exact .same rfl rfl

end Acts

end Host

end HomeRules
