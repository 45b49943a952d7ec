import HomeRules.Proofs.Host.Cycling
import HomeRules.Proofs.Host.Timers
import HomeRules.Proofs.Host.Waiting

/-!
# Holdings

What a host has gained since an earlier one: subscriptions that someone holds handles of, the
listeners and timers that feed them, and tasks that someone spawned. Whoever gives back what it
holds leaves exactly what was there before.
-/

set_option autoImplicit false

namespace HomeRules

namespace Supervisor

/-- The tracked tasks that have not ended. -/
def running (supervisor : Supervisor) : List Task :=
  supervisor.tasks.filter (!·.progress.isOver)

/-- What is given up when a task is added had ended before. -/
theorem running_add (supervisor : Supervisor) (name : String) (generation : Generation)
    (owner : Option String) (work : Work) :
    (supervisor.add name generation owner work).1.running =
      supervisor.running ++ [{ id := supervisor.nextId, name, generation, owner, work }] := by
  rw [running, add_tasks, List.filter_append, List.filter_filter]
  simp only [Bool.and_self]
  rfl

theorem running_drop (supervisor : Supervisor) (keep : Task → Bool) :
    ({ supervisor with tasks := supervisor.tasks.filter keep } : Supervisor).running =
      supervisor.running.filter keep :=
  List.filter_comm _ _ _

end Supervisor

namespace Host

/-- The live subscriptions of a source. -/
def subscriptions (host : Host) (kind : ManagerKind) : List Subscription :=
  (host.registry.manager? kind).elim [] (·.subscriptions)

/-- The number that the next subscription of a source gets. -/
def number (host : Host) (kind : ManagerKind) : Nat :=
  (host.registry.manager? kind).elim 0 (·.nextId)

abbrev running (host : Host) : List Task :=
  host.supervisor.running

section Managers

variable {host : Host} {kind : ManagerKind} {manager : Manager}
  (found : host.registry.manager? kind = some manager)
include found

theorem subscriptions_of_manager? : host.subscriptions kind = manager.subscriptions := by
  rw [subscriptions, found, Option.elim_some]

theorem number_of_manager? : host.number kind = manager.nextId := by
  rw [number, found, Option.elim_some]

end Managers

/-! ## Accounts -/

/-- A live subscription that an earlier host did not have. -/
structure Fresh (base host : Host) (kind : ManagerKind) (subscription : Subscription) :
    Prop where
  live : subscription ∈ host.subscriptions kind
  since : base.number kind ≤ subscription.id

/-- The listener or timer of a feed did not exist in an earlier host. -/
structure Since (base : Host) (feed : Feed) : Prop where
  listener : ∀ id, feed.listener? = some id → base.bus.nextId ≤ id
  task : ∀ id, feed.task? = some id → base.supervisor.nextId ≤ id

/-- A host still has everything an earlier one had, in the same order. -/
structure Spared (base host : Host) : Prop where
  number : ∀ kind, base.number kind ≤ host.number kind
  nextListener : base.bus.nextId ≤ host.bus.nextId
  nextTask : base.supervisor.nextId ≤ host.supervisor.nextId
  subscriptions : ∀ kind,
    (host.subscriptions kind).filter (·.id < base.number kind) = base.subscriptions kind
  listeners : host.bus.listeners.filter (·.id < base.bus.nextId) = base.bus.listeners
  running : host.running.filter (·.id < base.supervisor.nextId) = base.running

/-- Beyond what an earlier host had, a host has only what handles and tasks that someone
holds account for. -/
structure Accounted (base : Host) (held : List Handle) (tasks : List TaskId) (host : Host) :
    Prop extends Spared base host where
  known : ∀ handle ∈ held, base.number handle.manager ≤ handle.id ∧ ∃ manager,
    host.registry.manager? handle.manager = some manager ∧ manager.generation = handle.generation
  issued : ∀ id ∈ tasks, base.supervisor.nextId ≤ id
  named : ∀ kind subscription, Fresh base host kind subscription →
    ∃ handle ∈ held, handle.manager = kind ∧ handle.id = subscription.id
  fed : ∀ kind subscription, Fresh base host kind subscription → Since base subscription.feed
  heard : ∀ listener ∈ host.bus.listeners, base.bus.nextId ≤ listener.id → ∃ kind subscription,
    Fresh base host kind subscription ∧ subscription.feed.listener? = some listener.id
  tracked : ∀ task ∈ host.supervisor.tasks, base.supervisor.nextId ≤ task.id →
    task.id ∈ tasks ∨ ∃ kind subscription,
      Fresh base host kind subscription ∧ subscription.feed.task? = some task.id

/-- The numbers of what a host has are used up. -/
structure Bounded (host : Host) : Prop where
  subscriptions : ∀ kind, ∀ subscription ∈ host.subscriptions kind,
    subscription.id < host.number kind
  listeners : ∀ listener ∈ host.bus.listeners, listener.id < host.bus.nextId
  tasks : ∀ task ∈ host.supervisor.tasks, task.id < host.supervisor.nextId

section Lists

variable {α : Type} {few many : α → Bool} {values : List α}

private theorem filter_filter_of_imp (within : ∀ value, many value = true → few value = true) :
    (values.filter few).filter many = values.filter many := by
  rw [List.filter_filter]
  refine List.filter_congr fun value _ => ?_
  cases held : many value with
  | false => rfl
  | true => rw [within value held]; rfl

private theorem filter_concat_of_not {value : α} (excluded : many value = false) :
    (values ++ [value]).filter many = values.filter many := by
  rw [List.filter_append, List.filter_cons_of_neg (by simp [excluded]), List.filter_nil,
    List.append_nil]

end Lists

/-- At first nothing is held. -/
theorem Bounded.accounted {host : Host} (bounded : host.Bounded) : Accounted host [] [] host where
  number _ := Nat.le_refl _
  nextListener := Nat.le_refl _
  nextTask := Nat.le_refl _
  subscriptions kind := by
    rw [List.filter_eq_self]
    exact fun subscription member => decide_eq_true (bounded.subscriptions kind _ member)
  listeners := by
    rw [List.filter_eq_self]
    exact fun listener member => decide_eq_true (bounded.listeners _ member)
  running := by
    rw [List.filter_eq_self]
    exact fun task member => decide_eq_true (bounded.tasks _ (List.mem_of_mem_filter member))
  known _ member := absurd member List.not_mem_nil
  issued _ member := absurd member List.not_mem_nil
  named kind _ fresh :=
    absurd fresh.since (Nat.not_le_of_lt (bounded.subscriptions kind _ fresh.live))
  fed kind _ fresh :=
    absurd fresh.since (Nat.not_le_of_lt (bounded.subscriptions kind _ fresh.live))
  heard _ member since := absurd since (Nat.not_le_of_lt (bounded.listeners _ member))
  tracked _ member since := absurd since (Nat.not_le_of_lt (bounded.tasks _ member))

section Accounts

variable {base host : Host} {held : List Handle} {tasks : List TaskId}

/-- Where nothing is held any more, everything is as it was. -/
theorem Accounted.restored (accounted : Accounted base [] [] host) :
    host.subscriptions = base.subscriptions ∧ host.bus.listeners = base.bus.listeners ∧
      host.running = base.running ∧
      ∀ task ∈ host.supervisor.tasks, task.id < base.supervisor.nextId := by
  have stale (kind : ManagerKind) (subscription : Subscription) :
      ¬Fresh base host kind subscription := by
    intro fresh
    obtain ⟨handle, member, -⟩ := accounted.named kind subscription fresh
    cases member
  have older : ∀ task ∈ host.supervisor.tasks, task.id < base.supervisor.nextId := by
    intro task member
    by_contra since
    rcases accounted.tracked task member (Nat.le_of_not_lt since) with own | fed
    · cases own
    · obtain ⟨kind, subscription, fresh, -⟩ := fed
      exact stale kind subscription fresh
  refine ⟨?_, ?_, ?_, older⟩
  · funext kind
    rw [← accounted.subscriptions kind, List.filter_eq_self.mpr]
    intro subscription live
    by_contra since
    exact stale kind subscription ⟨live, by simpa using since⟩
  · rw [← accounted.listeners, List.filter_eq_self.mpr]
    intro listener member
    by_contra since
    obtain ⟨kind, subscription, fresh, -⟩ :=
      accounted.heard listener member (by simpa using since)
    exact stale kind subscription fresh
  · rw [← accounted.running, List.filter_eq_self.mpr]
    exact fun task member => decide_eq_true (older task (List.mem_of_mem_filter member))

theorem Accounted.perm (accounted : Accounted base held tasks host) {others : List Handle}
    (same : held.Perm others) : Accounted base others tasks host where
  toSpared := accounted.toSpared
  known handle member := accounted.known handle (same.mem_iff.mpr member)
  issued := accounted.issued
  named kind subscription fresh := by
    obtain ⟨handle, member, named⟩ := accounted.named kind subscription fresh
    exact ⟨handle, same.mem_iff.mp member, named⟩
  fed := accounted.fed
  heard := accounted.heard
  tracked := accounted.tracked

/-! ## Managers that come without subscriptions -/

/-- The managers stayed, and new ones have no subscriptions yet. -/
structure Widened (host next : Host) : Prop where
  kept : ∀ kind manager, host.registry.manager? kind = some manager →
    next.registry.manager? kind = some manager
  added : ∀ kind manager, host.registry.manager? kind = none →
    next.registry.manager? kind = some manager →
    manager.nextId = 0 ∧ manager.subscriptions = []
  bus : next.bus = host.bus
  supervisor : next.supervisor = host.supervisor

namespace Widened

variable {next : Host}

theorem of_same (same : ∀ kind, next.registry.manager? kind = host.registry.manager? kind)
    (bus : next.bus = host.bus) (supervisor : next.supervisor = host.supervisor) :
    Widened host next := by
  refine ⟨fun kind manager found => (same kind).trans found, fun kind manager absent present => ?_,
    bus, supervisor⟩
  rw [same kind, absent] at present
  cases present

theorem trans {later : Host} (first : Widened host next) (second : Widened next later) :
    Widened host later := by
  constructor
  · exact fun kind manager found => second.kept kind manager (first.kept kind manager found)
  · intro kind manager absent present
    cases found : next.registry.manager? kind with
    | none => exact second.added kind manager found present
    | some between =>
        have same := (second.kept kind between found).symm.trans present
        cases same
        exact first.added kind _ absent found
  · exact second.bus.trans first.bus
  · exact second.supervisor.trans first.supervisor

theorem subscriptions_eq (widened : Widened host next) :
    next.subscriptions = host.subscriptions := by
  funext kind
  unfold subscriptions
  cases found : host.registry.manager? kind with
  | some manager => rw [widened.kept kind manager found]
  | none =>
      cases present : next.registry.manager? kind with
      | none => rfl
      | some manager => exact (widened.added kind manager found present).2

theorem number_eq (widened : Widened host next) : next.number = host.number := by
  funext kind
  unfold number
  cases found : host.registry.manager? kind with
  | some manager => rw [widened.kept kind manager found]
  | none =>
      cases present : next.registry.manager? kind with
      | none => rfl
      | some manager => exact (widened.added kind manager found present).1

end Widened

theorem Accounted.widened (accounted : Accounted base held tasks host) {next : Host}
    (widened : Widened host next) : Accounted base held tasks next := by
  have subscriptions := widened.subscriptions_eq
  have lift {kind : ManagerKind} {subscription : Subscription}
      (fresh : Fresh base host kind subscription) : Fresh base next kind subscription :=
    ⟨subscriptions ▸ fresh.live, fresh.since⟩
  have lower {kind : ManagerKind} {subscription : Subscription}
      (fresh : Fresh base next kind subscription) : Fresh base host kind subscription :=
    ⟨subscriptions ▸ fresh.live, fresh.since⟩
  constructor
  · constructor
    · rw [widened.number_eq]
      exact accounted.number
    · rw [widened.bus]
      exact accounted.nextListener
    · rw [widened.supervisor]
      exact accounted.nextTask
    · rw [subscriptions]
      exact accounted.subscriptions
    · rw [widened.bus]
      exact accounted.listeners
    · rw [running, widened.supervisor]
      exact accounted.running
  · intro handle member
    obtain ⟨since, manager, found, aged⟩ := accounted.known handle member
    exact ⟨since, manager, widened.kept _ _ found, aged⟩
  · exact accounted.issued
  · exact fun kind subscription fresh => accounted.named kind subscription (lower fresh)
  · exact fun kind subscription fresh => accounted.fed kind subscription (lower fresh)
  · intro listener member since
    obtain ⟨kind, subscription, fresh, fed⟩ :=
      accounted.heard listener (widened.bus ▸ member) since
    exact ⟨kind, subscription, lift fresh, fed⟩
  · intro task member since
    rcases accounted.tracked task (widened.supervisor ▸ member) since with own | fed
    · exact .inl own
    · obtain ⟨kind, subscription, fresh, fed⟩ := fed
      exact .inr ⟨kind, subscription, lift fresh, fed⟩

end Accounts

/-! ## Making sure that there is a manager -/

private theorem resumeManager_widened {host : Host} {kind : ManagerKind} {manager : Manager}
    (found : host.registry.manager? kind = some manager) (empty : manager.subscriptions = []) :
    Widened host (after (resumeManager kind) host) := by
  have named : manager.kind = kind := (Registry.of_manager? found).2
  have same (other : ManagerKind) :
      (host.registry.update manager).manager? other = host.registry.manager? other := by
    rw [Registry.manager?_update found named]
    split
    case isTrue here => rw [here, found]
    case isFalse => rfl
  obtain ⟨source, generation, gate, nextId, subscriptions⟩ := manager
  subst empty
  rw [resumeManager, after_get_bind, found]
  dsimp only
  rw [after_bind, after_get_bind]
  split
  · exact .of_same same rfl rfl
  · exact .of_same (fun _ => rfl) rfl rfl

private theorem createManager_widened {host : Host} {kind : ManagerKind}
    (absent : host.registry.manager? kind = none) (generation : Generation) :
    Widened host (after (createManager kind generation) host) := by
  let manager : Manager := { kind, generation, gate := host.gates.length }
  have found (other : ManagerKind) :
      (host.addManager kind generation).registry.manager? other =
        if other = kind then some manager else host.registry.manager? other :=
    Registry.manager?_add absent other
  have added : Widened host (host.addManager kind generation) := by
    constructor
    · intro other present old
      rw [found, if_neg, old]
      intro same
      rw [same, absent] at old
      cases old
    · intro other present gone new
      rw [found] at new
      split at new
      · cases new
        exact ⟨rfl, rfl⟩
      · rw [gone] at new
        cases new
    · rfl
    · rfl
  rw [after_createManager]
  split
  · exact added.trans (resumeManager_widened ((found kind).trans (if_pos rfl)) rfl)
  · exact added

/-- Asking for a manager may add one, and may replace a registry without managers. -/
theorem needManager_widened {host : Host} (sound : host.wiring.Sound) (kind : ManagerKind)
    (generation : Generation) : Widened host (after (needManager kind generation) host) := by
  have still : Widened host host := .of_same (fun _ => rfl) rfl rfl
  rw [needManager, after_get_bind]
  split
  · exact still
  split
  · exact still
  case isFalse absent =>
  split
  · exact still
  case isFalse cleared =>
  split
  case isTrue moved =>
    have empty : host.registry.managers = [] := by simpa [moved] using cleared
    have renewed : Widened host { host with registry := { generation } } := by
      refine .of_same (fun other => ?_) rfl rfl
      simp [Registry.manager?, empty]
    exact renewed.trans (createManager_widened rfl generation)
  case isFalse same =>
    have same : host.registry.generation = generation := Decidable.not_not.mp same
    exact createManager_widened (manager?_eq_none sound same absent) generation

/-! ## Subscribing -/

section Spawn

variable (host : Host) {generation : Generation} (name : String) (owner : Option String)
  (work : Work)

theorem spawn_refused (stale : host.generation ≠ generation) :
    answer (spawn name generation owner work) host = none ∧
      after (spawn name generation owner work) host = host := by
  rw [spawn, answer_get_bind, after_get_bind, if_neg stale]
  exact ⟨rfl, rfl⟩

theorem spawn_current (current : host.generation = generation) :
    answer (spawn name generation owner work) host =
        some { id := host.supervisor.nextId, name, generation } ∧
      (after (spawn name generation owner work) host).supervisor =
        (host.supervisor.add name generation owner work).1 ∧
      (after (spawn name generation owner work) host).bus = host.bus ∧
      (after (spawn name generation owner work) host).registry = host.registry := by
  rw [spawn, answer_get_bind, after_get_bind, if_pos current]
  exact ⟨rfl, rfl, rfl, rfl⟩

end Spawn

/-- What feeds a new subscription: a new listener, a timer that waits for its manager, or one
whose task was started. -/
inductive Feeding (host : Host) (kind : EventKind) : Feed → Host → Prop where
  | listener (delivery : Delivery) :
      Feeding host kind (.listener host.bus.nextId)
        { host with bus := (host.bus.listen kind delivery).1 }
  | timer (period : Duration) (schema : EventSchema) :
      Feeding host kind (.timer period schema none) host
  | started (period : Duration) (schema : EventSchema) (name : String) (owner : Option String)
      (work : Work) :
      Feeding host kind (.timer period schema (some host.supervisor.nextId))
        (after (spawn name host.generation owner work) host)

theorem Feeding.managers {host opened : Host} {kind : EventKind} {feed : Feed}
    (opens : Feeding host kind feed opened) :
    opened.registry = host.registry ∧ opened.gates = host.gates := by
  cases opens with
  | listener delivery => exact ⟨rfl, rfl⟩
  | timer period schema => exact ⟨rfl, rfl⟩
  | started period schema name owner work =>
      rw [spawn, after_get_bind, if_pos rfl]
      exact ⟨rfl, rfl⟩

/-- A timer is started unless its manager belongs to an earlier generation. -/
private theorem startTimer_opened (manager : Manager) (id : Nat) (kind : EventKind)
    (period : Duration) (schema : EventSchema) (host : Host) :
    ∃ feed opened, Feeding host kind feed opened ∧
      answer (startTimer manager { id, kind, feed := .timer period schema none }) host =
        { id, kind, feed } ∧
      after (startTimer manager { id, kind, feed := .timer period schema none }) host =
        opened := by
  by_cases current : host.generation = manager.generation
  · obtain ⟨spawned, -⟩ := spawn_current host kind.render none
      (.timer manager.gate schema kind period) current
    refine ⟨_, _, .started period schema kind.render none (.timer manager.gate schema kind period),
      ?_, ?_⟩
    · simp only [startTimer, answer_bind, answer_pure, spawned, Option.map_some]
    · simp only [startTimer, after_bind, after_pure, current]
  · obtain ⟨refused, untouched⟩ := spawn_refused host kind.render none
      (.timer manager.gate schema kind period) current
    refine ⟨_, _, .timer period schema, ?_, ?_⟩
    · simp only [startTimer, answer_bind, answer_pure, refused, Option.map_none]
    · simp only [startTimer, after_bind, after_pure, untouched]

/-- A subscription is refused and nothing happens, or the manager gets one more. -/
theorem subscribe_spec (managerKind : ManagerKind) (kind : EventKind) (schema : EventSchema)
    (host : Host) :
    ((∃ error, answer (subscribe managerKind kind schema) host = .error error) ∧
        after (subscribe managerKind kind schema) host = host) ∨
      ∃ manager feed opened, host.registry.manager? managerKind = some manager ∧
        Feeding host kind feed opened ∧
        (feed.task? = none ∨ (host.gate manager.gate).isOpen = true) ∧
        answer (subscribe managerKind kind schema) host = .ok {
          id := manager.nextId, manager := managerKind, kind
          generation := manager.generation } ∧
        after (subscribe managerKind kind schema) host = { opened with
          registry := host.registry.update { manager with
            nextId := manager.nextId + 1
            subscriptions := manager.subscriptions ++ [{ id := manager.nextId, kind, feed }] } } := by
  rw [subscribe, after_get_bind, answer_get_bind]
  cases found : host.registry.manager? managerKind with
  | none => exact .inl ⟨⟨_, rfl⟩, rfl⟩
  | some manager =>
      dsimp only
      split
      case isTrue => exact .inl ⟨⟨_, rfl⟩, rfl⟩
      split
      case isTrue => exact .inl ⟨⟨_, rfl⟩, rfl⟩
      right
      cases kind with
      | interval period =>
          split
          case isFalse => exact ⟨manager, _, _, rfl, .timer period schema, .inl rfl, rfl, rfl⟩
          case isTrue delivers =>
            obtain ⟨feed, opened, opens, given, reached⟩ := startTimer_opened manager
              manager.nextId (.interval period) period schema host
            refine ⟨manager, feed, opened, rfl, opens, .inr delivers, rfl, ?_⟩
            simp only [openFeed, after_bind, after_pure, answer_pure, given, reached, after_modify,
              opens.managers.1]
      | stateChanged entity =>
          split
          · exact ⟨manager, _, _, rfl, .listener _, .inl rfl, rfl, rfl⟩
          · exact ⟨manager, _, _, rfl, .listener _, .inl rfl, rfl, rfl⟩
      | bus name =>
          split
          · exact ⟨manager, _, _, rfl, .listener _, .inl rfl, rfl, rfl⟩
          · exact ⟨manager, _, _, rfl, .listener _, .inl rfl, rfl, rfl⟩

/-! ## What changes with one manager -/

section Update

variable {host : Host} {kind : ManagerKind} {manager : Manager} (next : Manager) (later : Host)
  (found : host.registry.manager? kind = some manager) (same : next.kind = kind)
  (updated : later.registry = host.registry.update next)
include found same updated

theorem manager?_updated (other : ManagerKind) :
    later.registry.manager? other =
      if other = kind then some next else host.registry.manager? other := by
  rw [updated]
  exact Registry.manager?_update found same other

private theorem subscriptions_updated (other : ManagerKind) :
    later.subscriptions other =
      if other = kind then next.subscriptions else host.subscriptions other := by
  rw [subscriptions, manager?_updated next later found same updated]
  split <;> rfl

private theorem number_updated (other : ManagerKind) :
    later.number other = if other = kind then next.nextId else host.number other := by
  rw [number, manager?_updated next later found same updated]
  split <;> rfl

/-- The manager of a handle is still there, with the same generation. -/
private theorem known_updated (aged : next.generation = manager.generation) {handle : Handle}
    (known : ∃ owner, host.registry.manager? handle.manager = some owner ∧
      owner.generation = handle.generation) :
    ∃ owner, later.registry.manager? handle.manager = some owner ∧
      owner.generation = handle.generation := by
  rw [manager?_updated next later found same updated]
  split
  case isFalse => exact known
  case isTrue here =>
    obtain ⟨owner, held, generation⟩ := known
    rw [here, found] at held
    cases held
    exact ⟨next, rfl, aged.trans generation⟩

variable {base : Host}

private theorem fresh_gained {gained : Subscription}
    (grown : next.subscriptions = manager.subscriptions ++ [gained])
    (since : base.number kind ≤ gained.id) {other : ManagerKind} {subscription : Subscription} :
    Fresh base later other subscription ↔
      Fresh base host other subscription ∨ other = kind ∧ subscription = gained := by
  have old := subscriptions_of_manager? found
  have lives := subscriptions_updated next later found same updated other
  constructor
  · rintro ⟨live, issued⟩
    rw [lives] at live
    split at live
    case isFalse => exact .inl ⟨live, issued⟩
    case isTrue here =>
      subst here
      rw [grown, ← old] at live
      rcases List.mem_append.mp live with before | last
      · exact .inl ⟨before, issued⟩
      · exact .inr ⟨rfl, List.mem_singleton.mp last⟩
  · rintro (⟨live, issued⟩ | ⟨rfl, rfl⟩)
    · refine ⟨?_, issued⟩
      rw [lives]
      split
      case isFalse => exact live
      case isTrue here =>
        subst here
        rw [grown, ← old]
        exact List.mem_append_left _ live
    · refine ⟨?_, since⟩
      rw [lives, if_pos rfl, grown]
      exact List.mem_append_right _ List.mem_cons_self

private theorem fresh_lost {id : Nat}
    (shrunk : next.subscriptions = manager.subscriptions.filter (·.id ≠ id)) {other : ManagerKind}
    {subscription : Subscription} :
    Fresh base later other subscription ↔
      Fresh base host other subscription ∧ (other = kind → subscription.id ≠ id) := by
  have old := subscriptions_of_manager? found
  have lives := subscriptions_updated next later found same updated other
  constructor
  · rintro ⟨live, issued⟩
    rw [lives] at live
    split at live
    case isFalse apart => exact ⟨⟨live, issued⟩, fun here => absurd here apart⟩
    case isTrue here =>
      subst here
      rw [shrunk, ← old] at live
      obtain ⟨before, apart⟩ := List.mem_filter.mp live
      exact ⟨⟨before, issued⟩, fun _ => of_decide_eq_true apart⟩
  · rintro ⟨⟨live, issued⟩, apart⟩
    refine ⟨?_, issued⟩
    rw [lives]
    split
    case isFalse => exact live
    case isTrue here =>
      subst here
      rw [shrunk, ← old]
      exact List.mem_filter.mpr ⟨live, decide_eq_true (apart rfl)⟩

end Update

section Accounts

variable {base host : Host} {held : List Handle} {tasks : List TaskId}

section Feeding

variable {kind : EventKind} {feed : Feed} {opened : Host} (opens : Feeding host kind feed opened)
include opens

theorem Feeding.spares (spared : Spared base host) :
    base.bus.nextId ≤ opened.bus.nextId ∧ base.supervisor.nextId ≤ opened.supervisor.nextId ∧
      opened.bus.listeners.filter (·.id < base.bus.nextId) = base.bus.listeners ∧
      opened.running.filter (·.id < base.supervisor.nextId) = base.running ∧
      Since base feed := by
  have listening := spared.nextListener
  have issued := spared.nextTask
  cases opens with
  | listener delivery =>
      refine ⟨Nat.le_succ_of_le listening, issued, ?_, spared.running, ?_, ?_⟩
      · rw [← spared.listeners]
        exact filter_concat_of_not (decide_eq_false (Nat.not_lt_of_le listening))
      · rintro id ⟨⟩
        exact listening
      · rintro id ⟨⟩
  | timer period schema =>
      refine ⟨listening, issued, spared.listeners, spared.running, ?_, ?_⟩
      · rintro id ⟨⟩
      · rintro id ⟨⟩
  | started period schema name owner work =>
      obtain ⟨-, supervisor, bus, -⟩ := spawn_current host name owner work rfl
      refine ⟨bus ▸ listening, ?_, bus ▸ spared.listeners, ?_, ?_, ?_⟩
      · rw [supervisor]
        exact Nat.le_succ_of_le issued
      · rw [running, supervisor, Supervisor.running_add, ← spared.running]
        exact filter_concat_of_not (decide_eq_false (Nat.not_lt_of_le issued))
      · rintro id ⟨⟩
      · rintro id ⟨⟩
        exact issued

theorem Feeding.heard {listener : Listener Delivery} (member : listener ∈ opened.bus.listeners) :
    listener ∈ host.bus.listeners ∨ feed.listener? = some listener.id := by
  cases opens with
  | listener delivery =>
      rcases List.mem_append.mp member with old | new
      · exact .inl old
      · rw [List.mem_singleton.mp new]
        exact .inr rfl
  | timer period schema => exact .inl member
  | started period schema name owner work =>
      obtain ⟨-, -, bus, -⟩ := spawn_current host name owner work rfl
      exact .inl (bus ▸ member)

theorem Feeding.tracked {task : Task} (member : task ∈ opened.supervisor.tasks) :
    task ∈ host.supervisor.tasks ∨ feed.task? = some task.id := by
  cases opens with
  | listener delivery => exact .inl member
  | timer period schema => exact .inl member
  | started period schema name owner work =>
      obtain ⟨-, supervisor, -⟩ := spawn_current host name owner work rfl
      rw [supervisor, Supervisor.add_tasks] at member
      rcases List.mem_append.mp member with old | new
      · exact .inl (List.mem_of_mem_filter old)
      · rw [List.mem_singleton.mp new]
        exact .inr rfl

end Feeding

private theorem Spared.gained (spared : Spared base host) {kind : EventKind}
    {source : ManagerKind} {manager : Manager} {feed : Feed} {opened later : Host} (next : Manager)
    (found : host.registry.manager? source = some manager) (same : next.kind = source)
    (updated : later.registry = host.registry.update next)
    (grown : next.subscriptions = manager.subscriptions ++ [{ id := manager.nextId, kind, feed }])
    (counted : manager.nextId ≤ next.nextId) (opens : Feeding host kind feed opened)
    (bus : later.bus = opened.bus) (supervisor : later.supervisor = opened.supervisor) :
    Spared base later := by
  have since : base.number source ≤ manager.nextId :=
    number_of_manager? found ▸ spared.number source
  obtain ⟨nextListener, nextTask, listeners, running, -⟩ := opens.spares spared
  refine ⟨fun other => ?_, bus ▸ nextListener, supervisor ▸ nextTask, fun other => ?_,
    bus ▸ listeners, ?_⟩
  · rw [number_updated next later found same updated]
    split
    case isTrue here => exact here ▸ Nat.le_trans since counted
    case isFalse => exact spared.number other
  · rw [subscriptions_updated next later found same updated]
    split
    case isFalse => exact spared.subscriptions other
    case isTrue here =>
      subst here
      rw [← spared.subscriptions other, subscriptions_of_manager? found, grown]
      exact filter_concat_of_not (decide_eq_false (Nat.not_lt_of_le since))
  · rw [Host.running, supervisor]
    exact running

/-- A new subscription is accounted for by its handle. -/
theorem Accounted.subscribe (accounted : Accounted base held tasks host) {kind : EventKind}
    {source : ManagerKind} {manager : Manager} {feed : Feed} {opened : Host}
    (found : host.registry.manager? source = some manager)
    (opens : Feeding host kind feed opened) :
    Accounted base (held ++ [{
        id := manager.nextId, manager := source, kind, generation := manager.generation }]) tasks
      { opened with registry := host.registry.update { manager with
          nextId := manager.nextId + 1
          subscriptions := manager.subscriptions ++ [{ id := manager.nextId, kind, feed }] } } := by
  have named : manager.kind = source := (Registry.of_manager? found).2
  have since : base.number source ≤ manager.nextId :=
    number_of_manager? found ▸ accounted.number source
  set gained : Subscription := { id := manager.nextId, kind, feed }
  set next : Manager := { manager with
    nextId := manager.nextId + 1, subscriptions := manager.subscriptions ++ [gained] }
  set later : Host := { opened with registry := host.registry.update next }
  have fresh {other : ManagerKind} {subscription : Subscription} :
      Fresh base later other subscription ↔
        Fresh base host other subscription ∨ other = source ∧ subscription = gained :=
    fresh_gained next later found named rfl rfl since
  have own : Fresh base later source gained := fresh.mpr (.inr ⟨rfl, rfl⟩)
  constructor
  · exact accounted.toSpared.gained next found named rfl rfl (Nat.le_succ _) opens rfl rfl
  · intro handle member
    rcases List.mem_append.mp member with before | last
    · obtain ⟨issued, known⟩ := accounted.known handle before
      exact ⟨issued, known_updated next later found named rfl rfl known⟩
    · rw [List.mem_singleton.mp last]
      refine ⟨since, known_updated next later found named rfl rfl ⟨manager, found, rfl⟩⟩
  · exact accounted.issued
  · intro other subscription newer
    rcases fresh.mp newer with older | ⟨rfl, rfl⟩
    · obtain ⟨handle, member, names⟩ := accounted.named other subscription older
      exact ⟨handle, List.mem_append_left _ member, names⟩
    · exact ⟨_, List.mem_append_right _ List.mem_cons_self, rfl, rfl⟩
  · intro other subscription newer
    rcases fresh.mp newer with older | ⟨rfl, rfl⟩
    · exact accounted.fed other subscription older
    · exact (opens.spares accounted.toSpared).2.2.2.2
  · intro listener member issued
    rcases opens.heard member with before | new
    · obtain ⟨other, subscription, older, fed⟩ := accounted.heard listener before issued
      exact ⟨other, subscription, fresh.mpr (.inl older), fed⟩
    · exact ⟨source, gained, own, new⟩
  · intro task member issued
    rcases opens.tracked member with before | new
    · rcases accounted.tracked task before issued with spawned | timed
      · exact .inl spawned
      · obtain ⟨other, subscription, older, fed⟩ := timed
        exact .inr ⟨other, subscription, fresh.mpr (.inl older), fed⟩
    · exact .inr ⟨source, gained, own, new⟩

/-! ## Giving back -/

/-- A closed feed takes its listener or its task along. -/
theorem closeFeed_spec (feed : Feed) (host : Host) :
    (after (closeFeed feed) host).registry = host.registry ∧
      (after (closeFeed feed) host).bus = { host.bus with
        listeners := host.bus.listeners.filter fun listener =>
          feed.listener? ≠ some listener.id } ∧
      (after (closeFeed feed) host).supervisor = { host.supervisor with
        tasks := host.supervisor.tasks.filter fun task => feed.task? ≠ some task.id } := by
  cases feed with
  | listener id =>
      simp [closeFeed, unlisten, Bus.unlisten, Feed.listener?, Feed.task?, eq_comm]
  | timer period schema task? =>
      cases task? with
      | none => simp [closeFeed, Feed.listener?, Feed.task?]
      | some id =>
          simp [closeFeed, cancelTask, Supervisor.cancel, Feed.listener?, Feed.task?, eq_comm]

theorem after_release {handle : Handle} {manager : Manager}
    (found : host.registry.manager? handle.manager = some manager)
    (aged : manager.generation = handle.generation) :
    after (release handle) host = match manager.subscriptions.find? (·.id = handle.id) with
      | none => host
      | some subscription => after (closeFeed subscription.feed) { host with
          registry := host.registry.update { manager with
            subscriptions := manager.subscriptions.filter (·.id ≠ handle.id) } } := by
  rw [release, after_get_bind, found]
  dsimp only
  rw [if_pos aged, unsubscribe, after_get_bind, found]
  cases present : manager.subscriptions.find? (·.id = handle.id) with
  | none => simp only [present]; rfl
  | some subscription => simp only [present]; rfl

private theorem Spared.lost (spared : Spared base host) {source : ManagerKind}
    {manager : Manager} {id : Nat} {feed : Feed} {later : Host} (next : Manager)
    (found : host.registry.manager? source = some manager) (same : next.kind = source)
    (updated : later.registry = host.registry.update next)
    (shrunk : next.subscriptions = manager.subscriptions.filter (·.id ≠ id))
    (counted : next.nextId = manager.nextId) (issued : base.number source ≤ id)
    (fed : Since base feed)
    (bus : later.bus = { host.bus with
      listeners := host.bus.listeners.filter fun listener => feed.listener? ≠ some listener.id })
    (supervisor : later.supervisor = { host.supervisor with
      tasks := host.supervisor.tasks.filter fun task => feed.task? ≠ some task.id }) :
    Spared base later := by
  constructor
  · intro kind
    rw [number_updated next later found same updated]
    split
    case isTrue here =>
      subst here
      rw [counted, ← number_of_manager? found]
      exact spared.number kind
    case isFalse => exact spared.number kind
  · rw [bus]
    exact spared.nextListener
  · rw [supervisor]
    exact spared.nextTask
  · intro kind
    rw [subscriptions_updated next later found same updated]
    split
    case isFalse => exact spared.subscriptions kind
    case isTrue here =>
      subst here
      rw [← spared.subscriptions kind, subscriptions_of_manager? found, shrunk]
      refine filter_filter_of_imp fun other earlier => decide_eq_true ?_
      exact Nat.ne_of_lt (Nat.lt_of_lt_of_le (of_decide_eq_true earlier) issued)
  · rw [bus, ← spared.listeners]
    refine filter_filter_of_imp fun listener earlier => decide_eq_true fun heard => ?_
    exact Nat.not_lt_of_le (fed.listener _ heard) (of_decide_eq_true earlier)
  · rw [Host.running, supervisor, Supervisor.running_drop, ← spared.running]
    refine filter_filter_of_imp fun task earlier => decide_eq_true fun timed => ?_
    exact Nat.not_lt_of_le (fed.task _ timed) (of_decide_eq_true earlier)

/-- A subscription that is dropped takes along what feeds it. -/
private theorem Accounted.drop {handle : Handle} (sound : host.wiring.Sound)
    (accounted : Accounted base (handle :: held) tasks host) {manager : Manager}
    (found : host.registry.manager? handle.manager = some manager) {subscription : Subscription}
    (present : manager.subscriptions.find? (·.id = handle.id) = some subscription) {later : Host}
    (registry : later.registry = host.registry.update { manager with
      subscriptions := manager.subscriptions.filter (·.id ≠ handle.id) })
    (bus : later.bus = { host.bus with
      listeners := host.bus.listeners.filter fun listener =>
        subscription.feed.listener? ≠ some listener.id })
    (supervisor : later.supervisor = { host.supervisor with
      tasks := host.supervisor.tasks.filter fun task =>
        subscription.feed.task? ≠ some task.id }) :
    Accounted base held tasks later := by
  have named : manager.kind = handle.manager := (Registry.of_manager? found).2
  obtain ⟨member, names⟩ := of_find?_key present
  have since := (accounted.known handle List.mem_cons_self).1
  have old := subscriptions_of_manager? found
  have fed := accounted.fed _ _ ⟨old ▸ member, names ▸ since⟩
  let next : Manager := { manager with
    subscriptions := manager.subscriptions.filter (·.id ≠ handle.id) }
  have fresh {kind : ManagerKind} {other : Subscription} : Fresh base later kind other ↔
      Fresh base host kind other ∧ (kind = handle.manager → other.id ≠ handle.id) :=
    fresh_lost next later found named registry rfl
  -- No other subscription of the manager has the number that is struck, so one that is fed
  -- otherwise is still there.
  have spares {kind : ManagerKind} {other : Subscription} (older : Fresh base host kind other)
      (apart : other.feed ≠ subscription.feed) : Fresh base later kind other := by
    refine fresh.mpr ⟨older, ?_⟩
    rintro rfl same
    have live : other ∈ manager.subscriptions := old ▸ older.live
    refine apart (congrArg _ (List.inj_on_of_nodup_map (distinct_subscriptions sound found) live
      member ?_))
    exact same.trans names.symm
  constructor
  · exact accounted.toSpared.lost next found named registry rfl rfl since fed bus supervisor
  · intro other member
    obtain ⟨issued, known⟩ := accounted.known other (List.mem_cons_of_mem handle member)
    exact ⟨issued, known_updated next later found named registry rfl known⟩
  · exact accounted.issued
  · intro kind other newer
    obtain ⟨older, apart⟩ := fresh.mp newer
    obtain ⟨holder, held, source, same⟩ := accounted.named kind other older
    rcases List.mem_cons.mp held with rfl | rest
    · exact absurd same.symm (apart source.symm)
    · exact ⟨holder, rest, source, same⟩
  · exact fun kind other newer => accounted.fed kind other (fresh.mp newer).1
  · intro listener left issued
    rw [bus] at left
    obtain ⟨before, apart⟩ := List.mem_filter.mp left
    obtain ⟨kind, other, older, heard⟩ := accounted.heard listener before issued
    refine ⟨kind, other, spares older fun same => of_decide_eq_true apart ?_, heard⟩
    rw [← same, heard]
  · intro task left issued
    rw [supervisor] at left
    obtain ⟨before, apart⟩ := List.mem_filter.mp left
    rcases accounted.tracked task before issued with spawned | timed
    · exact .inl spawned
    · obtain ⟨kind, other, older, ticks⟩ := timed
      refine .inr ⟨kind, other, spares older fun same => of_decide_eq_true apart ?_, ticks⟩
      rw [← same, ticks]

/-- A handle that is given back takes along all that it accounts for. -/
theorem Accounted.release {handle : Handle} (sound : host.wiring.Sound)
    (accounted : Accounted base (handle :: held) tasks host) :
    Accounted base held tasks (after (release handle) host) := by
  obtain ⟨-, manager, found, aged⟩ := accounted.known handle List.mem_cons_self
  rw [after_release found aged]
  cases present : manager.subscriptions.find? (·.id = handle.id) with
  | none =>
      have known := fun other member => accounted.known other (List.mem_cons_of_mem handle member)
      refine { accounted with known, named := fun kind subscription fresh => ?_ }
      obtain ⟨other, member, placed, names⟩ := accounted.named kind subscription fresh
      rcases List.mem_cons.mp member with rfl | rest
      · subst placed
        have live := fresh.live
        rw [subscriptions_of_manager? found] at live
        exact absurd names.symm (by simpa using List.find?_eq_none.mp present subscription live)
      · exact ⟨other, rest, placed, names⟩
  | some subscription =>
      obtain ⟨registry, bus, supervisor⟩ := closeFeed_spec subscription.feed { host with
        registry := host.registry.update { manager with
          subscriptions := manager.subscriptions.filter (·.id ≠ handle.id) } }
      exact accounted.drop sound found present registry bus supervisor

theorem Accounted.releaseAll {handles : List Handle} (sound : host.wiring.Sound)
    (accounted : Accounted base (handles ++ held) tasks host) :
    Accounted base held tasks (after (releaseAll handles) host) := by
  change Accounted base held tasks (after (handles.mapM Host.release) host)
  induction handles generalizing host with
  | nil => exact accounted
  | cons handle rest previous =>
      have kept : Reaches true host (after (Host.release handle) host) :=
        reaches_striking.release handle host .refl
      rw [List.mapM_cons]
      exact previous (kept.sound sound) (Accounted.release sound accounted)

/-! ## Tasks -/

/-- Tasks come and go without the managers. -/
private theorem Accounted.retask (accounted : Accounted base held tasks host) {next : Host}
    {others : List TaskId} (registry : next.registry = host.registry) (bus : next.bus = host.bus)
    (nextTask : base.supervisor.nextId ≤ next.supervisor.nextId)
    (running : next.running.filter (·.id < base.supervisor.nextId) = base.running)
    (issued : ∀ id ∈ others, base.supervisor.nextId ≤ id)
    (tracked : ∀ task ∈ next.supervisor.tasks, base.supervisor.nextId ≤ task.id →
      task.id ∈ others ∨ task.id ∉ tasks ∧ task.id ∈ host.supervisor.tasks.map (·.id)) :
    Accounted base held others next := by
  have subscriptions : next.subscriptions = host.subscriptions := by
    funext kind
    rw [Host.subscriptions, registry]
    rfl
  have number : next.number = host.number := by
    funext kind
    rw [Host.number, registry]
    rfl
  have same (kind : ManagerKind) (subscription : Subscription) :
      Fresh base next kind subscription ↔ Fresh base host kind subscription :=
    ⟨fun fresh => ⟨subscriptions ▸ fresh.live, fresh.since⟩,
      fun fresh => ⟨subscriptions ▸ fresh.live, fresh.since⟩⟩
  constructor
  · refine ⟨number ▸ accounted.number, bus ▸ accounted.nextListener, nextTask,
      subscriptions ▸ accounted.subscriptions, bus ▸ accounted.listeners, running⟩
  · exact registry ▸ accounted.known
  · exact issued
  · simpa only [same] using accounted.named
  · simpa only [same] using accounted.fed
  · simpa only [same, bus] using accounted.heard
  · intro task member since
    simp only [same]
    rcases tracked task member since with own | ⟨foreign, present⟩
    · exact .inl own
    · obtain ⟨old, before, named⟩ := List.mem_map.mp present
      rw [← named] at since foreign ⊢
      exact (accounted.tracked old before since).imp_left fun spawned => absurd spawned foreign

theorem Accounted.spawn (accounted : Accounted base held tasks host) (name : String)
    (generation : Generation) (owner : Option String) (work : Work) :
    Accounted base held
      (tasks ++ (answer (spawn name generation owner work) host).toList.map (·.id))
      (after (spawn name generation owner work) host) := by
  by_cases current : host.generation = generation
  · obtain ⟨given, supervisor, bus, registry⟩ := spawn_current host name owner work current
    have issued := accounted.nextTask
    rw [given]
    refine accounted.retask registry bus ?_ ?_ (fun id member => ?_) fun task member since => ?_
    · rw [supervisor]
      exact Nat.le_succ_of_le issued
    · rw [running, supervisor, Supervisor.running_add, ← accounted.running]
      exact filter_concat_of_not (decide_eq_false (Nat.not_lt_of_le issued))
    · rcases List.mem_append.mp member with old | new
      · exact accounted.issued id old
      · rw [List.mem_singleton.mp new]
        exact issued
    · rw [supervisor, Supervisor.add_tasks] at member
      rcases List.mem_append.mp member with old | new
      · by_cases own : task.id ∈ tasks
        · exact .inl (List.mem_append_left _ own)
        · exact .inr ⟨own, List.mem_map_of_mem (List.mem_of_mem_filter old)⟩
      · rw [List.mem_singleton.mp new]
        exact .inl (List.mem_append_right _ List.mem_cons_self)
  · obtain ⟨refused, untouched⟩ := spawn_refused host name owner work current
    rw [refused, untouched, Option.toList_none, List.map_nil, List.append_nil]
    exact accounted

theorem Accounted.cancel {id : TaskId} (accounted : Accounted base held (id :: tasks) host) :
    Accounted base held tasks (after (cancelTask id) host) := by
  have since := accounted.issued id List.mem_cons_self
  have dropped : (after (cancelTask id) host).supervisor =
      { host.supervisor with tasks := host.supervisor.tasks.filter (·.id ≠ id) } := rfl
  refine accounted.retask rfl rfl accounted.nextTask ?_
    (fun other member => accounted.issued other (List.mem_cons_of_mem id member))
    fun task member _ => ?_
  · rw [running, dropped, Supervisor.running_drop, ← accounted.running]
    refine filter_filter_of_imp fun task earlier => decide_eq_true fun same => ?_
    exact Nat.not_lt_of_le since (same ▸ of_decide_eq_true earlier)
  · rw [dropped] at member
    obtain ⟨before, apart⟩ := List.mem_filter.mp member
    by_cases own : task.id ∈ tasks
    · exact .inl own
    · refine .inr ⟨fun either => ?_, List.mem_map_of_mem before⟩
      rcases List.mem_cons.mp either with same | rest
      · exact of_decide_eq_true apart same
      · exact own rest

end Accounts

/-! ## The beginning -/

theorem Bounded.of_sound {host : Host} (sound : host.wiring.Sound)
    (numbered : host.supervisor.Numbered) : host.Bounded where
  subscriptions kind subscription member := by
    cases found : host.registry.manager? kind with
    | none => simp [Host.subscriptions, found] at member
    | some manager =>
        rw [subscriptions_of_manager? found] at member
        rw [number_of_manager? found]
        have present := List.mem_of_find?_eq_some found
        exact (sound.managers manager.bare (List.mem_map_of_mem present)).bounded
          subscription.bare (List.mem_map_of_mem member)
  listeners := sound.bus.bounded
  tasks := numbered.below

end Host

end HomeRules
