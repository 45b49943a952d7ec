import HomeRules.Host.Supervisor

/-! # The registry of managers

A manager binds the events of one source to schemas, for one generation. Its
subscriptions to pushed events are listeners of the platform; those to intervals
are timers, which run once the manager delivers. The registry also records which
script registered what. -/

set_option autoImplicit false

namespace HomeRules

abbrev GateId := Nat

/-- Where the events of a subscription come from. -/
inductive Feed where
  | listener (id : Nat)
  | timer (period : Duration) (schema : EventSchema) (task : Option TaskId)
  deriving Repr, Inhabited

structure Subscription where
  id : Nat
  kind : EventKind
  feed : Feed
  deriving Repr, Inhabited

/-- A reference to a subscription, given to the script that registered it. -/
structure Handle where
  id : Nat
  manager : ManagerKind
  kind : EventKind
  generation : Generation
  deriving DecidableEq, Repr, Inhabited

/-- The manager of one source of events for one generation. -/
structure Manager where
  kind : ManagerKind
  generation : Generation
  gate : GateId
  nextId : Nat := 0
  subscriptions : List Subscription := []
  deriving Repr, Inhabited

structure Registration where
  script : String
  handles : List Handle
  deriving Repr, Inhabited

/-- The managers of a generation, in the order state, bus, time, and the record of
registrations. Once it is resumed, new managers deliver at once. -/
structure Registry where
  generation : Generation := 0
  managers : List Manager := []
  registrations : List Registration := []
  resumed : Bool := false
  deriving Repr, Inhabited

namespace Registry

def manager? (registry : Registry) (kind : ManagerKind) : Option Manager :=
  registry.managers.find? (·.kind = kind)

/-- The place of a source in the order of managers. -/
def rank : ManagerKind → Nat
  | .state => 0
  | .bus => 1
  | .time => 2

/-- Puts a manager into its place among others of different sources. -/
def insertManager (manager : Manager) : List Manager → List Manager
  | [] => [manager]
  | first :: rest =>
    if rank manager.kind < rank first.kind then manager :: first :: rest
    else first :: insertManager manager rest

/-- Adds the manager of a source that has none. -/
def add (registry : Registry) (manager : Manager) : Registry :=
  { registry with managers := insertManager manager registry.managers }

def update (registry : Registry) (manager : Manager) : Registry :=
  { registry with
    managers := registry.managers.map fun old => if old.kind = manager.kind then manager else old }

def subscriptionCount (registry : Registry) : Nat :=
  (registry.managers.flatMap (·.subscriptions)).length

/-- Records what a script registered under a generation, unless the registry has
moved on. -/
def record (registry : Registry) (script : String) (generation : Generation)
    (handles : List Handle) : Registry :=
  if registry.generation = generation then
    { registry with registrations := registry.registrations ++ [⟨script, handles⟩] }
  else registry

/-- Strikes handles from the registrations of a script. Registrations without
handles are dropped, whoever made them. -/
def strike (registry : Registry) (script : String) (handles : List Handle) : Registry :=
  let registrations := registry.registrations.map fun registration =>
    if registration.script = script then
      { registration with handles := registration.handles.filter (!handles.contains ·) }
    else registration
  { registry with registrations := registrations.filter (!·.handles.isEmpty) }

end Registry

end HomeRules
