import HomeRules.Proofs.Dictionary
import HomeRules.Proofs.Host.Step
import Mathlib.Data.List.Perm.Basic

/-!
# Wiring

The managers, their gates, and the listeners they have with the platform. The tasks
of running timers are left out: with them gone, every operation on managers is a
function of the wiring alone.
-/

set_option autoImplicit false

namespace HomeRules

/-! ## Without tasks -/

def Feed.bare : Feed → Feed
  | .timer period schema _ => .timer period schema none
  | feed => feed

def Subscription.bare (subscription : Subscription) : Subscription :=
  { subscription with feed := subscription.feed.bare }

/-- A manager without the tasks of its timers. -/
def Manager.bare (manager : Manager) : Manager :=
  { manager with subscriptions := manager.subscriptions.map Subscription.bare }

namespace Registry

theorem of_manager? {registry : Registry} {kind : ManagerKind} {manager : Manager}
    (found : registry.manager? kind = some manager) :
    manager ∈ registry.managers ∧ manager.kind = kind :=
  of_find?_key found

theorem manager?_eq {registry : Registry} (distinct : (registry.managers.map (·.kind)).Nodup)
    {manager : Manager} (member : manager ∈ registry.managers) :
    registry.manager? manager.kind = some manager :=
  find?_key distinct member

def bare (registry : Registry) : Registry :=
  { registry with managers := registry.managers.map Manager.bare }

theorem bare_manager? (registry : Registry) (kind : ManagerKind) :
    registry.bare.manager? kind = (registry.manager? kind).map Manager.bare := by
  simp only [manager?, bare, List.find?_map]
  rfl

theorem bare_update (registry : Registry) (manager : Manager) :
    (registry.update manager).bare = registry.bare.update manager.bare := by
  simp only [bare, update, List.map_map]
  congr 1
  refine List.map_congr_left fun old _ => ?_
  by_cases same : old.kind = manager.kind <;> simp [Manager.bare, same]

theorem bare_add (registry : Registry) (manager : Manager) :
    (registry.add manager).bare = registry.bare.add manager.bare := by
  have inserted (managers : List Manager) :
      (insertManager manager managers).map Manager.bare =
        insertManager manager.bare (managers.map Manager.bare) := by
    induction managers with
    | nil => rfl
    | cons first rest previous =>
        by_cases before : rank manager.kind < rank first.kind
        · simp [insertManager, Manager.bare, before]
        · simp [insertManager, Manager.bare, before, previous]
  simp only [bare, add, inserted]

theorem insertManager_perm (manager : Manager) (managers : List Manager) :
    (insertManager manager managers).Perm (manager :: managers) := by
  induction managers with
  | nil => exact .refl _
  | cons first rest previous =>
      unfold insertManager
      split
      · exact .refl _
      · exact (previous.cons first).trans (.swap _ _ _)

end Registry

namespace Host

/-- The managers, their gates, and the listeners of the platform. -/
structure Wiring where
  bus : Bus Delivery := {}
  gates : List Gate := []
  registry : Registry := {}

def wiring (host : Host) : Wiring where
  bus := host.bus
  gates := host.gates
  registry := host.registry.bare

namespace Wiring

/-! ## Operations -/

def gate (wiring : Wiring) (id : GateId) : Gate :=
  wiring.gates.getD id {}

def changeGate (wiring : Wiring) (id : GateId) (change : Gate → Gate) : Wiring :=
  { wiring with gates := wiring.gates.modify id change }

def update (wiring : Wiring) (manager : Manager) : Wiring :=
  { wiring with registry := wiring.registry.update manager }

def close (wiring : Wiring) : Feed → Wiring
  | .listener id => { wiring with bus := (wiring.bus.unlisten id).1 }
  | .timer _ _ _ => wiring

def resume (wiring : Wiring) (kind : ManagerKind) : Wiring :=
  match wiring.registry.manager? kind with
  | none => wiring
  | some manager =>
    let opened := wiring.changeGate manager.gate Gate.opening
    if (opened.gate manager.gate).isOpen then opened.update manager else opened

def stop (wiring : Wiring) (kind : ManagerKind) : Wiring :=
  match wiring.registry.manager? kind with
  | none => wiring
  | some manager =>
    (manager.subscriptions.map (·.feed)).foldl close
      ((wiring.changeGate manager.gate Gate.closing).update { manager with subscriptions := [] })

/-- Drops the subscription with an id from a manager. -/
def unsubscribe (wiring : Wiring) (kind : ManagerKind) (id : Nat) : Wiring :=
  match wiring.registry.manager? kind with
  | none => wiring
  | some manager =>
    match manager.subscriptions.find? (·.id = id) with
    | none => wiring
    | some subscription =>
      (wiring.update
        { manager with subscriptions := manager.subscriptions.filter (·.id ≠ id) }).close
        subscription.feed

/-- Drops the subscription a handle refers to. -/
def release (wiring : Wiring) (handle : Handle) : Wiring :=
  match wiring.registry.manager? handle.manager with
  | none => wiring
  | some manager =>
    if manager.generation = handle.generation then wiring.unsubscribe handle.manager handle.id
    else wiring

/-- Adds the manager of a source, with a gate of its own. -/
def add (wiring : Wiring) (kind : ManagerKind) (generation : Generation) : Wiring :=
  { wiring with
    gates := wiring.gates ++ [{}]
    registry := wiring.registry.add { kind, generation, gate := wiring.gates.length } }

/-- Adds the manager of a source, which delivers at once if the others do. -/
def create (wiring : Wiring) (kind : ManagerKind) (generation : Generation) : Wiring :=
  let added := wiring.add kind generation
  if added.registry.resumed then added.resume kind else added

/-- Makes sure that a source has a manager for a generation. -/
def need (wiring : Wiring) (current : Generation) (kind : ManagerKind) (generation : Generation) :
    Except HostError Unit × Wiring :=
  if current ≠ generation then (.error (.staleGeneration generation), wiring)
  else if (wiring.registry.manager? kind).any (·.generation = generation) then (.ok (), wiring)
  else if wiring.registry.generation ≠ generation && !wiring.registry.managers.isEmpty then
    (.error (.uncleared wiring.registry.generation generation), wiring)
  else if wiring.registry.generation ≠ generation then
    (.ok (), { wiring with registry := { generation } : Wiring }.create kind generation)
  else (.ok (), wiring.create kind generation)

def feed (wiring : Wiring) (manager : Manager) (kind : EventKind) (schema : EventSchema) :
    Feed × Wiring :=
  match kind with
  | .interval period => (.timer period schema none, wiring)
  | _ =>
    let (bus, id) := wiring.bus.listen kind
      { gate := manager.gate, generation := manager.generation, schema, kind }
    (.listener id, { wiring with bus })

/-- Subscribes the entry of a schema for a kind of event with a manager. -/
def subscribe (wiring : Wiring) (current : Generation) (managerKind : ManagerKind)
    (kind : EventKind) (schema : EventSchema) : Except HostError Handle × Wiring :=
  match wiring.registry.manager? managerKind with
  | none => (.error (.staleGeneration current), wiring)
  | some manager =>
    if kind.manager ≠ managerKind then (.error (.wrongManager managerKind kind), wiring)
    else if (wiring.gate manager.gate).isClosed then
      (.error (.staleGeneration manager.generation), wiring)
    else
      let (feed, fed) := wiring.feed manager kind schema
      (.ok {
          id := manager.nextId, manager := managerKind, kind, generation := manager.generation },
        fed.update { manager with
          nextId := manager.nextId + 1
          subscriptions := manager.subscriptions ++ [{ id := manager.nextId, kind, feed }] })

/-! ## Without subscriptions -/

/-- No live manager has a subscription. -/
def Unsubscribed (wiring : Wiring) : Prop :=
  ∀ manager ∈ wiring.registry.managers, manager.subscriptions = []

section Unsubscribed

variable {wiring : Wiring}

private theorem update_unsubscribed (unsubscribed : wiring.Unsubscribed) {manager : Manager}
    (empty : manager.subscriptions = []) : (wiring.update manager).Unsubscribed := by
  intro other member
  obtain ⟨old, present, rfl⟩ := List.mem_map.mp member
  split
  · exact empty
  · exact unsubscribed old present

theorem closeAll_registry (wiring : Wiring) (feeds : List Feed) :
    (feeds.foldl close wiring).registry = wiring.registry := by
  induction feeds generalizing wiring with
  | nil => rfl
  | cons feed rest previous =>
      rw [List.foldl_cons, previous]
      cases feed <;> rfl

theorem Unsubscribed.resume (unsubscribed : wiring.Unsubscribed) (kind : ManagerKind) :
    (wiring.resume kind).Unsubscribed := by
  unfold Wiring.resume
  cases found : wiring.registry.manager? kind with
  | none => exact unsubscribed
  | some manager =>
      have empty := unsubscribed manager (List.mem_of_find?_eq_some found)
      dsimp only
      split
      · have opened : (wiring.changeGate manager.gate Gate.opening).Unsubscribed := unsubscribed
        exact update_unsubscribed opened empty
      · exact unsubscribed

theorem Unsubscribed.unsubscribe (unsubscribed : wiring.Unsubscribed) (kind : ManagerKind)
    (id : Nat) : (wiring.unsubscribe kind id).Unsubscribed := by
  unfold Wiring.unsubscribe
  cases found : wiring.registry.manager? kind with
  | none => exact unsubscribed
  | some manager =>
      have empty := unsubscribed manager (List.mem_of_find?_eq_some found)
      simp only [empty, List.find?_nil]
      exact unsubscribed

theorem Unsubscribed.add (unsubscribed : wiring.Unsubscribed) (kind : ManagerKind)
    (generation : Generation) : (wiring.add kind generation).Unsubscribed := by
  intro manager member
  rcases List.mem_cons.mp ((Registry.insertManager_perm _ _).mem_iff.mp member) with rfl | old
  · rfl
  · exact unsubscribed manager old

theorem Unsubscribed.need (unsubscribed : wiring.Unsubscribed) (current : Generation)
    (kind : ManagerKind) (generation : Generation) :
    (wiring.need current kind generation).2.Unsubscribed := by
  have created {wiring : Wiring} (unsubscribed : wiring.Unsubscribed) :
      (wiring.create kind generation).Unsubscribed := by
    have added := unsubscribed.add kind generation
    unfold Wiring.create
    dsimp only
    split
    · exact added.resume kind
    · exact added
  unfold Wiring.need
  split
  · exact unsubscribed
  split
  · exact unsubscribed
  split
  · exact unsubscribed
  split
  · exact created fun manager member => absurd member List.not_mem_nil
  · exact created unsubscribed

/-- Stopping a manager leaves one source less with subscriptions. -/
private theorem stop_rest {kind : ManagerKind} {rest : List ManagerKind}
    (others : ∀ manager ∈ wiring.registry.managers,
      manager.kind ∈ kind :: rest ∨ manager.subscriptions = []) :
    ∀ manager ∈ (wiring.stop kind).registry.managers,
      manager.kind ∈ rest ∨ manager.subscriptions = [] := by
  unfold Wiring.stop
  cases found : wiring.registry.manager? kind with
  | none =>
      intro manager member
      have apart : manager.kind ≠ kind := by
        simpa using List.find?_eq_none.mp found manager member
      simpa [apart] using others manager member
  | some stopped =>
      have named : stopped.kind = kind := (Registry.of_manager? found).2
      dsimp only
      rw [closeAll_registry]
      intro manager member
      obtain ⟨old, present, rfl⟩ := List.mem_map.mp member
      split
      case isTrue => exact .inr rfl
      case isFalse apart =>
        have apart : old.kind ≠ kind := named ▸ apart
        simpa [apart] using others old present

/-- When every source was stopped, no subscription is left. -/
theorem stopAll_unsubscribed (kinds : List ManagerKind)
    (all : ∀ manager ∈ wiring.registry.managers,
      manager.kind ∈ kinds ∨ manager.subscriptions = []) :
    (kinds.foldl stop wiring).Unsubscribed := by
  induction kinds generalizing wiring with
  | nil => exact fun manager member => (all manager member).resolve_left List.not_mem_nil
  | cons kind rest previous => exact previous (stop_rest all)

theorem Unsubscribed.stop (unsubscribed : wiring.Unsubscribed) (kind : ManagerKind) :
    (wiring.stop kind).Unsubscribed :=
  stopAll_unsubscribed [kind] fun manager member => .inr (unsubscribed manager member)

end Unsubscribed

end Wiring

/-! ## The operations of a host -/

/-- A step acts on the wiring as a function does. -/
def Rewires {α : Type} (change : Wiring → Wiring) (step : Step α) : Prop :=
  ∀ host, (after step host).wiring = change host.wiring

theorem Rewires.keeps {α : Type} {step : Step α} (same : Rewires id step) (wiring : Wiring) :
    Keeps (fun host => host.wiring = wiring) step :=
  fun host holds => (same host).trans holds

theorem spawn_wiring (name : String) (generation : Generation) (owner : Option String)
    (work : Work) : Rewires id (spawn name generation owner work) := by
  intro host
  have kept : Keeps (fun later => later.wiring = host.wiring)
      (spawn name generation owner work) := by
    refine .get fun current holds => ?_
    split <;> exact holds
  exact kept host rfl

private theorem warn_wiring (text : String) : Rewires id (warn text) :=
  fun _ => rfl

theorem startTimer_wiring (manager : Manager) (subscription : Subscription) :
    Rewires id (startTimer manager subscription) := by
  intro host
  unfold startTimer
  split
  · exact spawn_wiring _ _ _ _ host
  · rfl

theorem startTimer_bare (manager : Manager) (subscription : Subscription) (host : Host) :
    (answer (startTimer manager subscription) host).bare = subscription.bare := by
  unfold startTimer
  split
  · rename_i period schema fed
    simp [Subscription.bare, fed, Feed.bare]
  · rfl

theorem startTimers_wiring (manager : Manager) (subscriptions : List Subscription) :
    Rewires id (subscriptions.mapM (startTimer manager)) := by
  intro host
  have kept := Keeps.mapM (fun subscription =>
    (startTimer_wiring manager subscription).keeps host.wiring) subscriptions
  exact kept host rfl

theorem startTimers_bare (manager : Manager) (subscriptions : List Subscription) (host : Host) :
    (answer (subscriptions.mapM (startTimer manager)) host).map Subscription.bare =
      subscriptions.map Subscription.bare := by
  induction subscriptions generalizing host with
  | nil => rfl
  | cons subscription rest previous =>
      rw [List.mapM_cons]
      simp only [answer_bind, answer_pure, List.map_cons, startTimer_bare, previous]

/-- Replacing a manager in the registry replaces it in the wiring. -/
theorem update_wiring (manager : Manager) (host : Host) :
    ({ host with registry := host.registry.update manager } : Host).wiring =
      host.wiring.update manager.bare := by
  simp only [wiring, Wiring.update, Registry.bare_update]

@[simp] theorem wiring_manager? (host : Host) (kind : ManagerKind) :
    host.wiring.registry.manager? kind = (host.registry.manager? kind).map Manager.bare :=
  Registry.bare_manager? _ _

theorem resumeManager_wiring (kind : ManagerKind) :
    Rewires (·.resume kind) (resumeManager kind) := by
  intro host
  cases found : host.registry.manager? kind with
  | none => simp [resumeManager, Wiring.resume, found]
  | some manager =>
      simp only [resumeManager, Wiring.resume, found, wiring_manager?, after_bind, answer_get,
        after_get, Option.map_some]
      rw [show (host.wiring.changeGate manager.bare.gate Gate.opening) =
        (after (changeGate manager.gate Gate.opening) host).wiring from rfl]
      generalize after (changeGate manager.gate Gate.opening) host = opened
      by_cases admits : (opened.gate manager.gate).isOpen
      · have admitted : (opened.wiring.gate manager.bare.gate).isOpen := admits
        have started := startTimers_wiring manager manager.subscriptions opened
        simp only [admits, admitted, if_true, after_bind, after_modify, update_wiring, started, id]
        congr 1
        simp only [Manager.bare, startTimers_bare]
      · have refused : ¬(opened.wiring.gate manager.bare.gate).isOpen := admits
        simp [admits, refused]

theorem closeFeed_wiring (feed : Feed) : Rewires (·.close feed.bare) (closeFeed feed) := by
  intro host
  cases feed with
  | listener id => rfl
  | timer schema period task? => cases task? <;> rfl

theorem closeFeeds_wiring (subscriptions : List Subscription) :
    Rewires (fun wiring => ((subscriptions.map Subscription.bare).map (·.feed)).foldl
        Wiring.close wiring)
      (subscriptions.forM fun subscription => do
        let _ ← closeFeed subscription.feed
        return ()) := by
  intro host
  induction subscriptions generalizing host with
  | nil => rfl
  | cons subscription rest previous =>
      have closed := previous (after (closeFeed subscription.feed) host)
      rw [closeFeed_wiring] at closed
      exact closed

theorem unsubscribe_wiring (kind : ManagerKind) (id : Nat) :
    Rewires (·.unsubscribe kind id) (unsubscribe kind id) := by
  intro host
  cases found : host.registry.manager? kind with
  | none => simp [unsubscribe, Wiring.unsubscribe, found]
  | some manager =>
      have searched : manager.bare.subscriptions.find? (·.id = id) =
          (manager.subscriptions.find? (·.id = id)).map Subscription.bare := by
        simp only [Manager.bare, List.find?_map]
        rfl
      simp only [unsubscribe, Wiring.unsubscribe, found, wiring_manager?, after_bind, answer_get,
        after_get, Option.map_some, searched]
      cases manager.subscriptions.find? (·.id = id) with
      | none => rfl
      | some subscription =>
          simp only [after_bind, after_modify, Option.map_some]
          rw [closeFeed_wiring, update_wiring]
          simp only [Manager.bare, List.filter_map]
          rfl

theorem release_wiring (handle : Handle) : Rewires (·.release handle) (release handle) := by
  intro host
  cases found : host.registry.manager? handle.manager with
  | none => simp [release, Wiring.release, found]
  | some manager =>
      have aged : manager.bare.generation = manager.generation := rfl
      simp only [release, Wiring.release, found, wiring_manager?, Option.map_some, aged,
        after_bind, answer_get, after_get]
      by_cases same : manager.generation = handle.generation
      · rw [if_pos same, if_pos same, unsubscribe_wiring]
      · rw [if_neg same, if_neg same, after_pure]

theorem stopManager_wiring (kind : ManagerKind) :
    Rewires (·.stop kind) (stopManager kind) := by
  intro host
  cases found : host.registry.manager? kind with
  | none => simp [stopManager, Wiring.stop, found]
  | some manager =>
      simp only [stopManager, Wiring.stop, found, wiring_manager?, after_bind, answer_get,
        after_get, Option.map_some, after_pure]
      rw [closeFeeds_wiring]
      simp only [after_modify, update_wiring]
      rw [Keeps.forM (fun timeout : StopTimeout =>
        (warn_wiring timeout.message).keeps _) _ _ rfl]
      rfl

theorem stopRegistry_wiring (host : Host) :
    (after stopRegistry host).wiring = (managerKinds host).foldl Wiring.stop host.wiring := by
  have stopped (kinds : List ManagerKind) (host : Host) :
      (after (kinds.mapM stopManager) host).wiring = kinds.foldl Wiring.stop host.wiring := by
    induction kinds generalizing host with
    | nil => rfl
    | cons kind rest previous =>
        rw [List.mapM_cons]
        simp only [after_bind, after_pure, previous, List.foldl_cons]
        rw [stopManager_wiring]
  simp only [stopRegistry, after_bind, after_pure, stopped, after_get, answer_get]

theorem stopRegistry_unsubscribed (host : Host) :
    (after stopRegistry host).wiring.Unsubscribed := by
  rw [stopRegistry_wiring]
  refine Wiring.stopAll_unsubscribed _ fun manager member => .inl ?_
  obtain ⟨old, present, rfl⟩ := List.mem_map.mp member
  exact List.mem_map.mpr ⟨old, present, rfl⟩

/-- A host to which the manager of a source is added, with a gate of its own. -/
def addManager (host : Host) (kind : ManagerKind) (generation : Generation) : Host :=
  { host with
    gates := host.gates ++ [{}]
    registry := host.registry.add { kind, generation, gate := host.gates.length } }

theorem addManager_wiring (kind : ManagerKind) (generation : Generation) (host : Host) :
    (host.addManager kind generation).wiring = host.wiring.add kind generation := by
  simp only [addManager, wiring, Wiring.add, Registry.bare_add]
  rfl

theorem after_createManager (kind : ManagerKind) (generation : Generation) (host : Host) :
    after (createManager kind generation) host =
      after (if (host.addManager kind generation).registry.resumed then resumeManager kind
        else pure ()) (host.addManager kind generation) :=
  rfl

theorem createManager_wiring (kind : ManagerKind) (generation : Generation) :
    Rewires (·.create kind generation) (createManager kind generation) := by
  intro host
  simp only [Wiring.create, ← addManager_wiring]
  rw [after_createManager]
  by_cases resumed : (host.addManager kind generation).registry.resumed
  · have delivers : (host.addManager kind generation).wiring.registry.resumed := resumed
    rw [if_pos resumed, if_pos delivers, resumeManager_wiring]
  · have waits : ¬(host.addManager kind generation).wiring.registry.resumed := resumed
    rw [if_neg resumed, if_neg waits, after_pure]

theorem needManager_wiring (kind : ManagerKind) (generation : Generation) (host : Host) :
    (answer (needManager kind generation) host, (after (needManager kind generation) host).wiring) =
      host.wiring.need host.generation kind generation := by
  have live : (host.wiring.registry.manager? kind).any (·.generation = generation) =
      (host.registry.manager? kind).any (·.generation = generation) := by
    simp only [wiring_manager?, Option.any_map]
    rfl
  have lone : host.wiring.registry.managers.isEmpty = host.registry.managers.isEmpty :=
    List.isEmpty_map
  have named : host.wiring.registry.generation = host.registry.generation := rfl
  simp only [needManager, Wiring.need, live, lone, named, after_get_bind, answer_get_bind]
  by_cases stale : host.generation ≠ generation
  · simp only [if_pos stale, answer_pure, after_pure]
  by_cases present : (host.registry.manager? kind).any (·.generation = generation)
  · simp only [if_neg stale, if_pos present, answer_pure, after_pure]
  by_cases uncleared : host.registry.generation ≠ generation && !host.registry.managers.isEmpty
  · simp only [if_neg stale, if_neg present, if_pos uncleared, answer_pure, after_pure]
  by_cases moved : host.registry.generation ≠ generation
  · simp only [if_neg stale, if_neg present, if_neg uncleared, if_pos moved, answer_bind,
      answer_pure, after_bind, after_pure, after_set, createManager_wiring kind generation _]
    rfl
  · simp only [if_neg stale, if_neg present, if_neg uncleared, if_neg moved, answer_bind,
      answer_pure, after_bind, after_pure, createManager_wiring kind generation _]

theorem openFeed_wiring (manager : Manager) (kind : EventKind) (schema : EventSchema)
    (host : Host) :
    (answer (openFeed manager kind schema) host,
        (after (openFeed manager kind schema) host).wiring) =
      host.wiring.feed manager kind schema := by
  cases kind <;> rfl

private theorem openFeed_bare (manager : Manager) (kind : EventKind) (schema : EventSchema)
    (host : Host) :
    (answer (openFeed manager kind schema) host).bare =
      answer (openFeed manager kind schema) host := by
  cases kind <;> rfl

private theorem bind_wiring (host : Host) (manager : Manager) (subscription : Subscription) :
    ({ host with
        registry := host.registry.update { manager with
          nextId := manager.nextId + 1
          subscriptions := manager.subscriptions ++ [subscription] } } : Host).wiring =
      host.wiring.update { manager.bare with
        nextId := manager.bare.nextId + 1
        subscriptions := manager.bare.subscriptions ++ [subscription.bare] } := by
  rw [update_wiring]
  simp only [Manager.bare, List.map_append, List.map_cons, List.map_nil]

theorem subscribe_wiring (managerKind : ManagerKind) (kind : EventKind) (schema : EventSchema)
    (host : Host) :
    (answer (subscribe managerKind kind schema) host,
        (after (subscribe managerKind kind schema) host).wiring) =
      host.wiring.subscribe host.generation managerKind kind schema := by
  cases found : host.registry.manager? managerKind with
  | none => simp [subscribe, Wiring.subscribe, found]
  | some manager =>
      have gated : (host.wiring.gate manager.bare.gate).isClosed =
        (host.gate manager.gate).isClosed := rfl
      simp only [subscribe, Wiring.subscribe, found, wiring_manager?, Option.map_some, gated,
        after_get_bind, answer_get_bind]
      by_cases wrong : kind.manager ≠ managerKind
      · simp only [if_pos wrong, answer_pure, after_pure]
      by_cases closed : (host.gate manager.gate).isClosed
      · simp only [if_neg wrong, if_pos closed, answer_pure, after_pure]
        rfl
      have fed := openFeed_wiring manager kind schema host
      have plain := openFeed_bare manager kind schema host
      rw [show host.wiring.feed manager.bare kind schema = host.wiring.feed manager kind schema
        from rfl, ← fed]
      simp only [if_neg wrong, if_neg closed, answer_bind, after_bind]
      generalize answer (openFeed manager kind schema) host = feed at plain
      generalize after (openFeed manager kind schema) host = listening
      let fresh : Subscription := { id := manager.nextId, kind, feed }
      have bare : fresh.bare = fresh := by simp only [fresh, Subscription.bare, plain]
      -- A timer that starts at once changes neither the wiring nor the bare subscription.
      by_cases delivers : (host.gate manager.gate).isOpen
      · simp only [if_pos delivers, answer_bind, after_bind, answer_pure, after_pure,
          after_modify, bind_wiring, startTimer_bare]
        rw [startTimer_wiring, show ({ id := manager.nextId, kind, feed } : Subscription).bare =
          fresh from bare]
        rfl
      · simp only [if_neg delivers, answer_bind, after_bind, answer_pure, after_pure,
          after_modify, bind_wiring]
        rw [show ({ id := manager.nextId, kind, feed } : Subscription).bare = fresh from bare]
        rfl

end Host

end HomeRules
