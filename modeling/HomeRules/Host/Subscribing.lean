import HomeRules.Host.State

/-! # Subscribing

What managers do: they subscribe schemas to events, start delivering, and stop.
A manager of pushed events adds a listener for each subscription; the manager of
intervals spawns a timer for each, as soon as it delivers. -/

set_option autoImplicit false

namespace HomeRules.Host

/-! ## One manager -/

/-- Starts the timer of a subscription that is not running. -/
def startTimer (manager : Manager) (subscription : Subscription) : Step Subscription :=
  match subscription.feed with
  | .timer period schema none => do
    let handle ← spawn subscription.kind.render manager.generation none
      (.timer manager.gate schema subscription.kind period)
    return { subscription with feed := .timer period schema (handle.map (·.id)) }
  | _ => pure subscription

/-- Lets a manager deliver, unless it was stopped. -/
def resumeManager (kind : ManagerKind) : Step Unit := do
  match (← get).registry.manager? kind with
  | none => pure ()
  | some manager => do
    changeGate manager.gate Gate.opening
    if ((← get).gate manager.gate).isOpen then
      let subscriptions ← manager.subscriptions.mapM (startTimer manager)
      modify fun host =>
        { host with registry := host.registry.update { manager with subscriptions } }

def openFeed (manager : Manager) (kind : EventKind) (schema : EventSchema) : Step Feed :=
  match kind with
  | .interval period => pure (.timer period schema none)
  | _ => do
    let id ← listen kind
      { gate := manager.gate, generation := manager.generation, schema, kind }
    return .listener id

/-- Subscribes the entry of a schema for a kind of event with a manager. -/
def subscribe (managerKind : ManagerKind) (kind : EventKind) (schema : EventSchema) :
    Step (Except HostError Handle) := do
  let host ← get
  match host.registry.manager? managerKind with
  | none => return .error (.staleGeneration host.generation)
  | some manager =>
    if kind.manager ≠ managerKind then return .error (.wrongManager managerKind kind)
    else if (host.gate manager.gate).isClosed then
      return .error (.staleGeneration manager.generation)
    else do
      let feed ← openFeed manager kind schema
      let fresh : Subscription := { id := manager.nextId, kind, feed }
      let subscription ←
        if (host.gate manager.gate).isOpen then startTimer manager fresh else pure fresh
      modify fun host =>
        { host with
          registry := host.registry.update
            { manager with
              nextId := manager.nextId + 1
              subscriptions := manager.subscriptions ++ [subscription] } }
      return .ok {
        id := manager.nextId, manager := managerKind, kind, generation := manager.generation }

/-- Releases what feeds a subscription, and says whether it was there. -/
def closeFeed : Feed → Step Bool
  | .listener id => unlisten id
  | .timer _ _ none => pure true
  | .timer _ _ (some task) => do
    let _ ← cancelTask task
    return true

/-- Drops the subscription with an id from a manager, and says whether it was live. -/
def unsubscribe (kind : ManagerKind) (id : Nat) : Step Bool := do
  match (← get).registry.manager? kind with
  | none => return false
  | some manager =>
    match manager.subscriptions.find? (·.id = id) with
    | none => return false
    | some subscription => do
      modify fun host =>
        { host with
          registry := host.registry.update
            { manager with subscriptions := manager.subscriptions.filter (·.id ≠ id) } }
      closeFeed subscription.feed

/-- What the dispatches of a manager are called when they do not end. -/
def dispatchName (kind : ManagerKind) (inFlight : Nat) : String :=
  (match kind with
    | .time => "timer"
    | kind => kind.name) ++ " dispatch (" ++ Text.numeral inFlight ++ " in flight)"

/-- Stops a manager for good: closes its gate, reports the dispatches still inside,
and drops its subscriptions. -/
def stopManager (kind : ManagerKind) : Step (List StopTimeout) := do
  match (← get).registry.manager? kind with
  | none => return []
  | some manager => do
    changeGate manager.gate Gate.closing
    let host ← get
    let inFlight := (host.gate manager.gate).inFlight
    let timeouts : List StopTimeout :=
      if inFlight = 0 then []
      else [{
        task := dispatchName kind inFlight
        generation := manager.generation
        grace := host.reloading.stopGrace }]
    timeouts.forM fun timeout => warn timeout.message
    modify fun host =>
      { host with registry := host.registry.update { manager with subscriptions := [] } }
    manager.subscriptions.forM fun subscription => do
      let _ ← closeFeed subscription.feed
      return ()
    return timeouts

/-! ## All managers -/

/-- Adds the manager of a source to the registry. -/
def createManager (kind : ManagerKind) (generation : Generation) : Step Unit := do
  let gate ← addGate
  modify fun host => { host with registry := host.registry.add { kind, generation, gate } }
  if (← get).registry.resumed then resumeManager kind

/-- Makes sure that a source has a manager for a generation, which must be the
current one. -/
def needManager (kind : ManagerKind) (generation : Generation) : Step (Except HostError Unit) := do
  let host ← get
  if host.generation ≠ generation then return .error (.staleGeneration generation)
  else if (host.registry.manager? kind).any (·.generation = generation) then return .ok ()
  else if host.registry.generation ≠ generation && !host.registry.managers.isEmpty then
    return .error (.uncleared host.registry.generation generation)
  else do
    if host.registry.generation ≠ generation then
      set { host with registry := { generation } }
    createManager kind generation
    return .ok ()

/-- The manager of a source for a generation. -/
def manager (kind : ManagerKind) (generation : Generation) : Step (Except HostError Manager) := do
  match ← needManager kind generation with
  | .error error => return .error error
  | .ok () =>
    match (← get).registry.manager? kind with
    | some manager => return .ok manager
    | none => return .error (.staleGeneration generation)

/-- Drops the subscription a handle refers to, and says whether it was live. -/
def release (handle : Handle) : Step Bool := do
  match (← get).registry.manager? handle.manager with
  | none => return false
  | some manager =>
    if manager.generation = handle.generation then unsubscribe handle.manager handle.id
    else return false

/-- Releases several handles, and gives the number that were live. -/
def releaseAll (handles : List Handle) : Step Nat := do
  let released ← handles.mapM release
  return (released.filter id).length

/-- Subscribes the entry of a schema for a kind of event with the manager of a source,
which is added when it is missing. -/
def subscribeWith (generation : Generation) (schema : EventSchema) (managerKind : ManagerKind)
    (kind : EventKind) : Step (Except HostError Handle) := do
  match ← needManager managerKind generation with
  | .error error => return .error error
  | .ok () => subscribe managerKind kind schema

/-- Subscribes a schema to several kinds of events. `held` are the handles so far,
which are released when one cannot be subscribed. -/
def subscribeAll (generation : Generation) (schema : EventSchema) (held : List Handle) :
    List EventKind → Step (Except HostError (List Handle))
  | [] => return .ok held
  | kind :: rest => do
    match ← subscribeWith generation schema kind.manager kind with
    | .ok handle => subscribeAll generation schema (held ++ [handle]) rest
    | .error error => do
      let _ ← releaseAll held
      return .error error

/-- Subscribes every entry of a schema for a script, or none. -/
def register (script : String) (generation : Generation) (schema : EventSchema) :
    Step (Except HostError (List Handle)) := do
  match ← subscribeAll generation (schema.withOwner script) [] schema.kinds with
  | .error error => return .error error
  | .ok handles => do
    modify fun host => { host with registry := host.registry.record script generation handles }
    return .ok handles

/-- Drops handles of a script, and gives the number that were live. -/
def unregister (script : String) (handles : List Handle) : Step Nat := do
  let count ← releaseAll handles
  modify fun host => { host with registry := host.registry.strike script handles }
  return count

/-- The sources that have a manager, in order. -/
def managerKinds (host : Host) : List ManagerKind :=
  host.registry.managers.map (·.kind)

/-- Lets the managers of a generation deliver, now and when they are added later. -/
def resumeRegistry (generation : Generation) : Step Unit := do
  let host ← get
  if host.registry.generation = generation then
    set { host with registry := { host.registry with resumed := true } }
    (managerKinds host).forM resumeManager

def stopRegistry : Step (List StopTimeout) := do
  let host ← get
  let timeouts ← (managerKinds host).mapM stopManager
  return timeouts.flatten

/-- Forgets every manager and every registration. -/
def clearRegistry : Step Unit :=
  modify fun host => { host with registry := { generation := host.generation } }

end HomeRules.Host
