import HomeRules.Proofs.Host.Registering

/-!
# Giving handles back

A handle refers to at most one live subscription. Handles that are given back take just these
subscriptions along, with the listeners and the timers that feed them, and what is answered is
how many there were.
-/

set_option autoImplicit false

namespace HomeRules

/-! ## What is left -/

namespace Manager

/-- The live subscriptions, each by its handle and by what feeds it. -/
def live (manager : Manager) : List (Handle × Feed) :=
  manager.subscriptions.map fun subscription => (manager.handle subscription, subscription.feed)

/-- What is left of a manager when handles are given back. -/
def without (manager : Manager) (handles : List Handle) : Manager :=
  { manager with subscriptions := manager.subscriptions.filter (manager.handle · ∉ handles) }

variable {manager : Manager}

@[simp] theorem handle_without (handles : List Handle) :
    (manager.without handles).handle = manager.handle :=
  rfl

@[simp] theorem subscriptions_without (handles : List Handle) :
    (manager.without handles).subscriptions =
      manager.subscriptions.filter (manager.handle · ∉ handles) :=
  rfl

theorem live_without (handles : List Handle) :
    (manager.without handles).live = manager.live.filter (·.1 ∉ handles) := by
  simp only [live, handle_without, subscriptions_without, List.filter_map, Function.comp_def]

theorem without_without (first second : List Handle) :
    (manager.without first).without second = manager.without (first ++ second) := by
  have twice : ((manager.without first).without second).subscriptions =
      (manager.without (first ++ second)).subscriptions := by
    rw [subscriptions_without, subscriptions_without, subscriptions_without, handle_without,
      List.filter_filter]
    simp [Bool.and_comm]
  exact congrArg (fun subscriptions => { manager with subscriptions }) twice

theorem without_eq_self {handles : List Handle}
    (apart : ∀ subscription ∈ manager.subscriptions, manager.handle subscription ∉ handles) :
    manager.without handles = manager := by
  have all : manager.subscriptions.filter (manager.handle · ∉ handles) = manager.subscriptions := by
    rw [List.filter_eq_self]
    exact fun subscription member => decide_eq_true (apart subscription member)
  rw [without, all]

end Manager

namespace Registry

def live (registry : Registry) : List (Handle × Feed) :=
  registry.managers.flatMap Manager.live

def handles (registry : Registry) : List Handle :=
  registry.live.map (·.1)

/-- What feeds the subscriptions that handles refer to. -/
def feeds (registry : Registry) (handles : List Handle) : List Feed :=
  (registry.live.filter (·.1 ∈ handles)).map (·.2)

def without (registry : Registry) (handles : List Handle) : Registry :=
  { registry with managers := registry.managers.map (·.without handles) }

variable {registry : Registry}

theorem mem_live {handle : Handle} {feed : Feed} :
    (handle, feed) ∈ registry.live ↔ ∃ manager ∈ registry.managers,
      ∃ subscription ∈ manager.subscriptions,
        manager.handle subscription = handle ∧ subscription.feed = feed := by
  simp [live, Manager.live]

theorem mem_handles {handle : Handle} :
    handle ∈ registry.handles ↔ ∃ manager ∈ registry.managers,
      ∃ subscription ∈ manager.subscriptions, manager.handle subscription = handle := by
  simp [handles, live, Manager.live]

theorem mem_feeds {handles : List Handle} {feed : Feed} :
    feed ∈ registry.feeds handles ↔ ∃ handle ∈ handles, (handle, feed) ∈ registry.live := by
  simp [feeds, and_comm]

theorem live_without (handles : List Handle) :
    (registry.without handles).live = registry.live.filter (·.1 ∉ handles) := by
  simp only [live, without, List.flatMap_map, List.filter_flatMap, Manager.live_without]

theorem handles_without (given : List Handle) :
    (registry.without given).handles = registry.handles.filter (· ∉ given) := by
  simp only [handles, live_without, List.filter_map, Function.comp_def]

theorem without_without (first second : List Handle) :
    (registry.without first).without second = registry.without (first ++ second) := by
  simp [without, Function.comp_def, Manager.without_without]

/-- What feeds the subscriptions that two lists of handles refer to, the second after the first
was given back. -/
theorem mem_feeds_append {first second : List Handle} {feed : Feed} :
    feed ∈ registry.feeds (first ++ second) ↔
      feed ∈ registry.feeds first ∨ feed ∈ (registry.without first).feeds second := by
  simp only [mem_feeds, live_without, List.mem_filter, List.mem_append, decide_eq_true_eq]
  constructor
  · rintro ⟨handle, given, live⟩
    by_cases early : handle ∈ first
    · exact .inl ⟨handle, early, live⟩
    · exact .inr ⟨handle, given.resolve_left early, live, early⟩
  · rintro (⟨handle, early, live⟩ | ⟨handle, late, live, -⟩)
    · exact ⟨handle, .inl early, live⟩
    · exact ⟨handle, .inr late, live⟩

/-- Where every feed has something of its own, what feeds a subscription that stays is not given
up with the others. -/
theorem spares {part : Feed → Option Nat} (distinct : (registry.live.filterMap (part ·.2)).Nodup)
    {handle : Handle} {feed : Feed} (live : (handle, feed) ∈ registry.live)
    {handles : List Handle} (stays : handle ∉ handles) {id : Nat} (own : part feed = some id) :
    id ∉ (registry.feeds handles).filterMap part := by
  have parted := List.filter_append_perm (·.1 ∈ handles) registry.live
  have apart := (parted.filterMap (part ·.2)).nodup_iff.mpr distinct
  rw [List.filterMap_append, List.nodup_append] at apart
  intro dropped
  rw [feeds, List.filterMap_map] at dropped
  have kept : id ∈ (registry.live.filter fun entry => !decide (entry.1 ∈ handles)).filterMap
      (part ·.2) := by
    refine List.mem_filterMap.mpr ⟨_, List.mem_filter.mpr ⟨live, ?_⟩, own⟩
    simpa using stays
  exact apart.2.2 id dropped id kept rfl

end Registry

/-- The tasks of timers are gone when these do not feed a subscription any more. -/
def Supervisor.without (supervisor : Supervisor) (feeds : List Feed) : Supervisor :=
  { supervisor with
    tasks := supervisor.tasks.filter fun task => task.id ∉ feeds.filterMap Feed.task? }

namespace Host

/-- A host to which handles were given back, whatever is recorded of them. -/
def without (host : Host) (handles : List Handle) : Host :=
  { host with
    bus := Wiring.without host.bus (host.registry.feeds handles)
    supervisor := host.supervisor.without (host.registry.feeds handles)
    registry := host.registry.without handles }

section Feeds

variable {first second : List Feed}

theorem bus_without_congr (same : ∀ feed, feed ∈ first ↔ feed ∈ second) (bus : Bus Delivery) :
    Wiring.without bus first = Wiring.without bus second := by
  simp only [Wiring.without, List.mem_filterMap, same]

theorem supervisor_without_congr (same : ∀ feed, feed ∈ first ↔ feed ∈ second)
    (supervisor : Supervisor) : supervisor.without first = supervisor.without second := by
  simp only [Supervisor.without, List.mem_filterMap, same]

theorem bus_without_append (bus : Bus Delivery) :
    Wiring.without (Wiring.without bus first) second = Wiring.without bus (first ++ second) := by
  simp [Wiring.without, List.filter_filter, Bool.and_comm]

theorem supervisor_without_append (supervisor : Supervisor) :
    (supervisor.without first).without second = supervisor.without (first ++ second) := by
  simp [Supervisor.without, List.filter_filter, Bool.and_comm]

end Feeds

theorem without_without (host : Host) (first second : List Handle) :
    (host.without first).without second = host.without (first ++ second) := by
  have fed (feed : Feed) : feed ∈ host.registry.feeds (first ++ second) ↔
      feed ∈ host.registry.feeds first ++ (host.registry.without first).feeds second := by
    rw [List.mem_append, Registry.mem_feeds_append]
  simp only [without, Registry.without_without, bus_without_append, supervisor_without_append,
    bus_without_congr fed, supervisor_without_congr fed]

/-! ## One handle -/

/-- What a handle says is told by its number: a live subscription with that number, of that
manager and generation, is the one the handle was given for. -/
def Genuine (host : Host) (handle : Handle) : Prop :=
  ∀ live ∈ host.registry.handles, live.manager = handle.manager →
    live.generation = handle.generation → live.id = handle.id → live = handle

theorem Genuine.without {host : Host} {handle : Handle} (genuine : host.Genuine handle)
    (handles : List Handle) : (host.without handles).Genuine handle := by
  intro live member
  rw [Host.without, Registry.handles_without] at member
  exact genuine live (List.mem_of_mem_filter member)

theorem without_eq_self {host : Host} {handles : List Handle}
    (apart : ∀ handle ∈ host.registry.handles, handle ∉ handles) : host.without handles = host := by
  have unfed : host.registry.feeds handles = [] := by
    rw [List.eq_nil_iff_forall_not_mem]
    intro feed member
    obtain ⟨handle, given, live⟩ := Registry.mem_feeds.mp member
    exact apart handle (List.mem_map_of_mem live) given
  have managers : host.registry.managers.map (·.without handles) = host.registry.managers := by
    refine (List.map_congr_left fun manager present => ?_).trans (List.map_id _)
    refine Manager.without_eq_self fun subscription live => apart _ ?_
    exact Registry.mem_handles.mpr ⟨manager, present, subscription, live, rfl⟩
  simp [without, unfed, Registry.without, managers, Wiring.without, Supervisor.without]

theorem after_closeFeed (feed : Feed) (host : Host) :
    after (closeFeed feed) host = { host with
      bus := Wiring.without host.bus [feed], supervisor := host.supervisor.without [feed] } := by
  cases feed with
  | listener id =>
      simp [closeFeed, unlisten, Bus.unlisten, Wiring.without, Supervisor.without, Feed.listener?,
        Feed.task?]
  | timer period schema task? =>
      cases task? <;> simp [closeFeed, cancelTask, Supervisor.cancel, Wiring.without,
        Supervisor.without, Feed.listener?, Feed.task?]

theorem wiring_handles (host : Host) : host.wiring.handles = host.registry.handles := by
  have bare (manager : Manager) : manager.bare.handles = manager.live.map (·.1) := by
    simp only [Manager.handles, Manager.live, Manager.bare, List.map_map]
    rfl
  simp only [Wiring.handles, wiring, Registry.bare, Registry.handles, Registry.live,
    List.flatMap_map, List.map_flatMap, bare]

section Sound

variable {host : Host} (sound : host.wiring.Sound)
include sound

theorem handles_nodup : host.registry.handles.Nodup := by
  have distinct := sound.handles_nodup
  rwa [wiring_handles] at distinct

/-- Two live subscriptions with the same handle are one. -/
theorem handle_injective {manager other : Manager} (present : manager ∈ host.registry.managers)
    (beside : other ∈ host.registry.managers) {subscription second : Subscription}
    (live : subscription ∈ manager.subscriptions) (again : second ∈ other.subscriptions)
    (same : other.handle second = manager.handle subscription) :
    other = manager ∧ second = subscription := by
  have kinds : other.kind = manager.kind := congrArg Handle.manager same
  have found := manager?_eq sound present
  obtain rfl : other = manager :=
    Option.some.inj ((manager?_eq sound beside).symm.trans (kinds ▸ found))
  exact ⟨rfl, List.inj_on_of_nodup_map (distinct_subscriptions sound found) again live
    (congrArg Handle.id same)⟩

/-- The feed of a live subscription is there: its listener is known to the platform. -/
theorem answer_closeFeed {manager : Manager} (present : manager ∈ host.registry.managers)
    {subscription : Subscription} (live : subscription ∈ manager.subscriptions)
    (registry : Registry) :
    answer (closeFeed subscription.feed) { host with registry } = true := by
  cases fed : subscription.feed with
  | timer period schema task? => cases task? <;> rfl
  | listener id =>
      have line : manager.bare.line? subscription.bare = some {
          id, kind := subscription.kind, gate := manager.gate
          generation := manager.generation } := by
        simp [Manager.line?, Subscription.bare, Feed.bare, Feed.listener?, fed, Manager.bare]
      have listed : _ ∈ host.wiring.lines := List.mem_flatMap.mpr ⟨manager.bare,
        List.mem_map_of_mem present,
        List.mem_filterMap.mpr ⟨subscription.bare, List.mem_map_of_mem live, line⟩⟩
      obtain ⟨listener, listening, same⟩ := List.mem_map.mp (sound.heard.mem_iff.mpr listed)
      have numbered : listener.id = id := congrArg Line.id same
      refine List.any_eq_true.mpr ⟨listener, listening, ?_⟩
      exact decide_eq_true numbered

/-- A live subscription is found under its number. -/
private theorem find?_live {manager : Manager} (present : manager ∈ host.registry.managers)
    {subscription : Subscription} (live : subscription ∈ manager.subscriptions) :
    manager.subscriptions.find? (·.id = subscription.id) = some subscription :=
  find?_key (distinct_subscriptions sound (manager?_eq sound present)) live

/-- Without the subscription of a handle, its manager has all others, and the other managers
are as they were. -/
private theorem update_eq_without {manager : Manager} (present : manager ∈ host.registry.managers)
    {subscription : Subscription} (live : subscription ∈ manager.subscriptions) {handle : Handle}
    (named : manager.handle subscription = handle) :
    host.registry.update { manager with
      subscriptions := manager.subscriptions.filter (·.id ≠ handle.id) } =
      host.registry.without [handle] := by
  subst named
  refine congrArg (fun managers => { host.registry with managers }) ?_
  refine List.map_congr_left fun other beside => ?_
  dsimp only
  split
  case isTrue same =>
    obtain rfl : other = manager := Option.some.inj
      ((manager?_eq sound beside).symm.trans (same ▸ manager?_eq sound present))
    have alone : other.subscriptions.filter (·.id ≠ (other.handle subscription).id) =
        other.subscriptions.filter (other.handle · ∉ [other.handle subscription]) := by
      refine List.filter_congr fun second again => decide_eq_decide.mpr (not_congr ?_)
      rw [List.mem_singleton]
      constructor
      · intro numbered
        rw [List.inj_on_of_nodup_map (distinct_subscriptions sound (manager?_eq sound present))
          again live numbered]
      · exact congrArg Handle.id
    rw [alone]
    rfl
  case isFalse apart =>
    refine (Manager.without_eq_self fun second _ => ?_).symm
    rw [List.mem_singleton]
    exact fun same => apart (congrArg Handle.manager same)

/-- The handle of a live subscription drops that one and what feeds it. -/
private theorem release_live {manager : Manager} (present : manager ∈ host.registry.managers)
    {subscription : Subscription} (live : subscription ∈ manager.subscriptions) {handle : Handle}
    (named : manager.handle subscription = handle) :
    after (release handle) host = host.without [handle] ∧ answer (release handle) host = true := by
  have found : host.registry.manager? handle.manager = some manager :=
    named ▸ manager?_eq sound present
  have aged : manager.generation = handle.generation := congrArg Handle.generation named
  have searched : manager.subscriptions.find? (·.id = handle.id) = some subscription :=
    named ▸ find?_live sound present live
  have fed (feed : Feed) : feed ∈ host.registry.feeds [handle] ↔ feed ∈ [subscription.feed] := by
    simp only [Registry.mem_feeds, List.mem_singleton, exists_eq_left, Registry.mem_live]
    constructor
    · rintro ⟨other, beside, second, again, given, rfl⟩
      rw [(handle_injective sound present beside live again (given.trans named.symm)).2]
    · rintro rfl
      exact ⟨manager, present, subscription, live, named, rfl⟩
  constructor
  · rw [after_release found aged]
    simp only [searched]
    rw [after_closeFeed, update_eq_without sound present live named, without,
      bus_without_congr fed, supervisor_without_congr fed]
  · rw [release, answer_get_bind, found]
    dsimp only
    rw [if_pos aged, unsubscribe, answer_get_bind, found]
    simp only [searched]
    exact answer_closeFeed sound present live _

/-- A handle that is given back takes along the subscription that it refers to, if it is live. -/
theorem release_spec {handle : Handle} (genuine : host.Genuine handle) :
    after (release handle) host = host.without [handle] ∧
      answer (release handle) host = decide (handle ∈ host.registry.handles) := by
  by_cases live : handle ∈ host.registry.handles
  · obtain ⟨manager, present, subscription, inside, rfl⟩ := Registry.mem_handles.mp live
    simpa [live] using release_live sound present inside rfl
  have kept : host.without [handle] = host := by
    refine without_eq_self fun other listed given => live ?_
    rwa [← List.mem_singleton.mp given]
  rw [kept, decide_eq_false live]
  cases found : host.registry.manager? handle.manager with
  | none => simp [release, found]
  | some manager =>
      by_cases aged : manager.generation = handle.generation
      · have named : manager.kind = handle.manager := (Registry.of_manager? found).2
        have searched : manager.subscriptions.find? (·.id = handle.id) = none := by
          rw [List.find?_eq_none]
          intro subscription inside numbered
          have listed : manager.handle subscription ∈ host.registry.handles :=
            Registry.mem_handles.mpr
              ⟨manager, List.mem_of_find?_eq_some found, subscription, inside, rfl⟩
          refine live ?_
          rwa [← genuine _ listed named aged (of_decide_eq_true numbered)]
        simp [release, unsubscribe, found, aged, searched]
      · simp [release, found, aged]

end Sound

/-! ## Several handles -/

/-- Live subscriptions are counted by what a first handle refers to and by what the others refer to
without it. -/
private theorem count_cons {handles : List Handle} (distinct : handles.Nodup) (handle : Handle)
    (rest : List Handle) :
    (handles.filter (· ∈ handle :: rest)).length =
      (if handle ∈ handles then 1 else 0) +
        ((handles.filter (· ∉ [handle])).filter (· ∈ rest)).length := by
  have own : (handles.filter (· ∈ handle :: rest)).filter (· == handle) =
      handles.filter (· == handle) := by
    rw [List.filter_filter]
    refine List.filter_congr fun other _ => ?_
    by_cases same : other = handle <;> simp [same]
  have others : (handles.filter (· ∈ handle :: rest)).filter (!· == handle) =
      (handles.filter (· ∉ [handle])).filter (· ∈ rest) := by
    rw [List.filter_filter, List.filter_filter]
    refine List.filter_congr fun other _ => ?_
    by_cases same : other = handle <;> simp [same]
  rw [List.length_eq_length_filter_add (· == handle), own, others, ← List.count_eq_length_filter,
    distinct.count]

/-- Handles that are given back one after the other are given back together. -/
theorem releaseAll_spec {host : Host} (sound : host.wiring.Sound) {handles : List Handle}
    (genuine : ∀ handle ∈ handles, host.Genuine handle) :
    after (releaseAll handles) host = host.without handles ∧
      answer (releaseAll handles) host = (host.registry.handles.filter (· ∈ handles)).length := by
  change after (handles.mapM release) host = host.without handles ∧
    ((answer (handles.mapM release) host).filter id).length = _
  induction handles generalizing host with
  | nil => simp [without_eq_self]
  | cons handle rest previous =>
      obtain ⟨reached, given⟩ := release_spec sound (genuine handle List.mem_cons_self)
      have path : Reaches true host (after (release handle) host) :=
        reaches_striking.release handle host .refl
      have released := path.sound sound
      rw [reached] at released
      obtain ⟨others, count⟩ := previous released fun other member =>
        (genuine other (List.mem_cons_of_mem handle member)).without [handle]
      rw [List.mapM_cons]
      simp only [after_bind, after_pure, answer_bind, answer_pure, reached, given]
      constructor
      · rw [others, without_without]
        rfl
      · rw [count_cons (handles_nodup sound), ← Registry.handles_without]
        change _ = _ + ((host.without [handle]).registry.handles.filter (· ∈ rest)).length
        rw [← count]
        by_cases live : handle ∈ host.registry.handles
        · simp [live, Nat.add_comm]
        · simp [live]

/-- The handles of a script are given back, and struck from what is recorded. -/
theorem unregister_spec {host : Host} (sound : host.wiring.Sound) (script : String)
    {handles : List Handle} (genuine : ∀ handle ∈ handles, host.Genuine handle) :
    after (unregister script handles) host = { host.without handles with
        registry := (host.registry.without handles).strike script handles } ∧
      answer (unregister script handles) host =
        (host.registry.handles.filter (· ∈ handles)).length := by
  obtain ⟨reached, count⟩ := releaseAll_spec sound genuine
  rw [unregister, after_bind, answer_bind, reached, count]
  exact ⟨rfl, rfl⟩

/-- A host whose tasks with some numbers were ended. -/
def dismiss (host : Host) (ids : List TaskId) : Host :=
  { host with supervisor := { host.supervisor with
      tasks := host.supervisor.tasks.filter (·.id ∉ ids) } }

/-- A load that is withdrawn gives its handles back, and then its tasks are ended. -/
theorem after_retract (context : LoadContext) (host : Host) :
    after (retract context) host = (after (unregister context.script context.handles) host).dismiss
      (context.tasks.map (·.id)) := by
  have cancelled (tasks : List TaskHandle) (host : Host) :
      after (tasks.forM fun task => do
        let _ ← cancelTask task.id
        return ()) host = host.dismiss (tasks.map (·.id)) := by
    induction tasks generalizing host with
    | nil => simp [dismiss]
    | cons task rest previous =>
        refine (previous (after (cancelTask task.id) host)).trans ?_
        simp [dismiss, cancelTask, Supervisor.cancel, List.filter_filter, Bool.and_comm]
  rw [retract, after_bind, cancelled]

end Host

end HomeRules
