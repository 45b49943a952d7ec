import HomeRules.Event.Description
import HomeRules.Host.Subscribing
import HomeRules.Schema.Selection

/-! # Dispatching

What a host does with an event: it delivers it to the listeners of its kind, each
of which dispatches an entry of a schema. A dispatch evaluates the guards, then
drops what its owner has pending if the entry restarts it, then runs the selected
actions in order. Calls that fail or panic are warned about and skipped; a task
that panics when it is asked for its work takes the dispatch with it. -/

set_option autoImplicit false

namespace HomeRules

/-- A change of a host that a panic can cut short. What was done before the panic
stays done. -/
abbrev Run := ExceptT Failure Step

structure Outcome where
  /-- The dispatch was for a generation that is over, and nothing ran. -/
  stale : Bool := false
  /-- Action lists that were selected. -/
  matched : Nat := 0
  /-- Calls that completed. -/
  executed : Nat := 0
  /-- Guards and calls that failed. -/
  failed : Nat := 0
  /-- Actions handed to the supervisor. -/
  deferred : Nat := 0
  /-- Pending work of the owner that was dropped. -/
  cancelled : Nat := 0
  deriving DecidableEq, Repr, Inhabited

/-- What the actions of a dispatch have in common: the generation, the owner of the
schema, and the payload of the event. -/
structure Occasion where
  generation : Generation
  owner : Option String := none
  payload : Payload := .none
  deriving Repr, Inhabited

/-- How an action publishes an event, with the number of listeners as the result. -/
abbrev Publisher := Event → Run Nat

namespace Host

/-! ## Actions -/

def changeWorld (change : World → World) : Step Unit :=
  modify fun host => { host with world := change host.world }

def perform (publish : Publisher) (name : String) (payload : Payload) : Command → Run Unit
  | .report => note (.ran name)
  | .display => note (.shown name payload)
  | .inform text => note (.information text)
  | .describe => note (.information ("Event: " ++ payload.describe))
  | .setFlag flag value => changeWorld (·.setFlag flag value)
  | .setState entity state => changeWorld (·.setState entity state)
  | .publish event => do
    let count ← publish event
    note (.delivered count)
  | .requestReload => requestReload
  | .stopManagers => do
    let timeouts ← stopRegistry
    note (.stopped timeouts)
  | .fail failure => throw failure

/-- Runs a call, and gives its failure if it fails. -/
def attempt (run : Run Unit) : Step (Option Failure) := do
  match ← run.run with
  | .ok () => return none
  | .error failure => return some failure

/-- Hands work to the supervisor, and counts it if it was accepted. -/
def defer (occasion : Occasion) (name : String) (work : Work) (outcome : Outcome) :
    Step Outcome := do
  match ← spawn name occasion.generation occasion.owner work with
  | some _ => return { outcome with deferred := outcome.deferred + 1 }
  | none => return outcome

mutual

/-- Runs one action, and adds what happened to an outcome. -/
def execute (publish : Publisher) (occasion : Occasion) : Action → Outcome → Run Outcome
  | .call name commands, outcome => do
    mark (.called occasion.generation name)
    match ← attempt (commands.forM (perform publish name occasion.payload)) with
    | none => return { outcome with executed := outcome.executed + 1 }
    | some failure => do
      warn (ActionFailure.message ⟨name, failure⟩)
      return { outcome with failed := outcome.failed + 1 }
  | .task name source, outcome => do
    mark (.called occasion.generation name)
    match source with
    | .job job => defer occasion name (.job job occasion.payload) outcome
    | .panics message => throw (.panic message)
  | .group _ members, outcome => executeAll publish occasion members outcome
  | .after delay actions, outcome =>
    defer occasion (Action.after delay actions).name
      (.delayed delay actions occasion.payload) outcome

def executeAll (publish : Publisher) (occasion : Occasion) : List Action → Outcome → Run Outcome
  | [], outcome => pure outcome
  | action :: rest, outcome => do
    let outcome ← execute publish occasion action outcome
    executeAll publish occasion rest outcome

end

/-! ## Entries -/

def noteAsked (verdict : Verdict) : Step Unit :=
  (verdict.asked.filter (·.announced)).forM fun probe => note (.asked probe.name)

/-- Notes the probes a guard of a generation asked, and warns if it failed. -/
def announce (generation : Generation) (reached : Reached) : Step Unit := do
  mark (.asked generation)
  noteAsked reached.verdict
  match reached.failure? with
  | some failure => warn (failure.message ++ "; treating as false")
  | none => pure ()

/-- Drops the pending work of an owner, if there is an owner, and gives its amount. -/
def restartOwner (owner : Option String) : Step Nat :=
  match owner with
  | some owner => cancelOwner owner
  | none => pure 0

def runEntry (publish : Publisher) (occasion : Occasion) (restart : Bool)
    (body : ConditionSchema) : Run Outcome := do
  let host ← getThe Host
  if host.generation ≠ occasion.generation then return { stale := true }
  else do
    let reached := body.reach (Condition.evaluateIn host.world occasion.payload)
    reached.forM fun item => announce occasion.generation item
    let selected := body.selected reached
    let cancelled ←
      if restart && !selected.isEmpty then restartOwner occasion.owner else pure 0
    executeAll publish occasion selected.flatten {
      matched := selected.length
      failed := (reached.filter (·.failure?.isSome)).length
      cancelled }

/-- Runs the entry of a schema for a kind of event, if there is one. -/
def dispatch (publish : Publisher) (generation : Generation) (schema : EventSchema)
    (kind : EventKind) (payload : Payload) : Run Outcome :=
  match schema.entry? kind with
  | none => pure {}
  | some entry =>
    runEntry publish { generation, owner := schema.owner, payload } (entry.mode = .restart)
      entry.body

/-- Runs the body of an entry on its own: nobody owns it, and nothing restarts. -/
def evaluate (publish : Publisher) (generation : Generation) (body : ConditionSchema)
    (payload : Payload) : Run Outcome :=
  runEntry publish { generation, payload } false body

/-! ## Events -/

/-- Dispatches inside a gate, if it admits the dispatch, which leaves the gate also
when it panics. -/
def dispatchInside (publish : Publisher) (delivery : Delivery) (payload : Payload) : Run Unit := do
  let host ← getThe Host
  match (host.gate delivery.gate).enter? with
  | none => return ()
  | some entered => do
    changeGate delivery.gate fun _ => entered
    let failure ← attempt do
      let _ ← dispatch publish delivery.generation delivery.schema delivery.kind payload
      return ()
    changeGate delivery.gate Gate.leave
    failure.forM throw

def deliver (publish : Publisher) (listeners : List (Listener Delivery)) (payload : Payload) :
    Run Unit :=
  listeners.forM fun listener => dispatchInside publish listener.target payload

/-- Publishes an event to the listeners that are there when it begins. The events
that actions publish may nest `depth` deep; one level more is a panic. -/
def publishWithin : Nat → Publisher
  | 0, _ => throw (.panic (some "events are nested too deep"))
  | depth + 1, event => do
    let host ← getThe Host
    let listeners := host.bus.listenersTo event.kind
    deliver (publishWithin depth) listeners event.payload
    return listeners.length

/-- The depth to which published events may nest. -/
def nestingLimit : Nat := 1000

/-- Publishes an event, and gives the number of listeners. -/
def publish : Publisher :=
  publishWithin nestingLimit

end Host

end HomeRules
