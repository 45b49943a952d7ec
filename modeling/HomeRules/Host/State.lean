import HomeRules.Bus
import HomeRules.Config
import HomeRules.Host.Deed
import HomeRules.Host.Gate
import HomeRules.Host.Journal
import HomeRules.Host.ReloadLoops
import HomeRules.Scanner
import HomeRules.Vocabulary

/-! # The state of a host

All that a host knows, as one value. Steps change it; none of them can fail. -/

set_option autoImplicit false

namespace HomeRules

/-- What a manager does with a pushed event: it dispatches a schema's entry for a
kind through its gate, under its generation. -/
structure Delivery where
  gate : GateId
  generation : Generation
  schema : EventSchema
  kind : EventKind
  deriving Repr, Inhabited

/-- Background activities other than tasks are the reload loops, the watcher of the
script directory and the runner. -/
inductive Worker where
  | task (id : TaskId)
  | reloadLoop (id : LoopId)
  | watcher
  | runner
  deriving DecidableEq, Repr, Inhabited

/-- The workers that can go on now, and those that wait for a time. Both are in
the order they came. -/
structure Agenda where
  ready : List Worker := []
  sleeping : List (Nat × Worker) := []
  deriving Repr, Inhabited

structure LoadedScript where
  id : String
  instance? : Option NativeScript

structure CycleReport where
  generation : Generation
  loaded : List String
  failed : List LoadError
  timeouts : List StopTimeout

inductive CyclePhase where
  | idle
  | stopping
  | unloading
  | loading
  deriving DecidableEq, Repr, Inhabited

/-- What the host publishes about its load cycles. -/
structure HostStatus where
  phase : CyclePhase := .idle
  generation : Generation := 0
  cycles : Nat := 0
  lastReport : Option CycleReport := none
  deriving Inhabited

structure ReloadSettings where
  directory : String := ""
  config : ScriptConfig := []
  stopGrace : Duration := .ofMilliseconds 2000
  debounce : Duration := .zero

def ReloadSettings.ofConfig (config : ScriptingConfig) (dataDirectory : String) :
    ReloadSettings where
  directory := config.directory dataDirectory
  config := config.config
  stopGrace := .ofMilliseconds config.stopGrace
  debounce := .ofMilliseconds config.reloadDebounce

/-- Watches the script directory at a fixed interval. -/
structure Watcher where
  scanner : Scanner
  interval : Nat
  due : Nat

inductive RunnerPoint where
  | absent
  | fresh
  /-- Scripting is disabled; only a stop is awaited. -/
  | disabled
  | serving (loop : LoopId)
  /-- The host is shut down; the end of the runner's reload loop is awaited. -/
  | draining (loop : LoopId)
  | finished
  deriving DecidableEq, Repr, Inhabited

/-- The runner: how it was configured, whether it was asked to stop, and the error
that ended it. -/
structure Runner where
  config : ScriptingConfig := {}
  point : RunnerPoint := .absent
  stopRequested : Bool := false
  outcome : Option HostError := none
  deriving Inhabited

structure Host where
  clock : Nat := 0
  world : World := {}
  tree : FileTree := {}
  vocabulary : Vocabulary := {}
  shelf : ScriptShelf := []
  reloading : ReloadSettings := {}
  generation : Generation := 0
  bus : Bus Delivery := {}
  gates : List Gate := []
  supervisor : Supervisor := {}
  registry : Registry := {}
  agenda : Agenda := {}
  loops : ReloadLoops := {}
  status : HostStatus := {}
  arena : List LoadedScript := []
  requests : Dictionary Nat := []
  watcher : Option Watcher := none
  runner : Runner := {}
  journal : Journal := []
  /-- What was done, latest first. -/
  deeds : List Deed := []

instance : Inhabited Host := ⟨{}⟩

/-- A host that has loaded nothing yet. -/
def Host.create (config : ScriptingConfig) (dataDirectory : String) (tree : FileTree)
    (vocabulary : Vocabulary) (shelf : ScriptShelf) : Host where
  tree
  vocabulary
  shelf
  reloading := .ofConfig config dataDirectory
  runner := { config }

/-- A change of a host with a result. -/
abbrev Step := StateM Host

namespace Host

/-! ## The journal -/

def note (note : Note) : Step Unit :=
  modify fun host => { host with journal := ⟨host.clock, note⟩ :: host.journal }

/-- Takes the entries of the journal, in the order they were noted. -/
def takeJournal : Step (List JournalEntry) :=
  modifyGet fun host => (host.journal.reverse, { host with journal := [] })

def warn (text : String) : Step Unit :=
  note (.warning text)

def mark (deed : Deed) : Step Unit :=
  modify fun host => { host with deeds := deed :: host.deeds }

/-! ## The agenda -/

/-- Lets a worker go on after those that already can. -/
def wake (worker : Worker) : Step Unit :=
  modify fun host =>
    { host with agenda := { host.agenda with ready := host.agenda.ready ++ [worker] } }

def wakeFirst (worker : Worker) : Step Unit :=
  modify fun host =>
    { host with agenda := { host.agenda with ready := worker :: host.agenda.ready } }

def sleepUntil (due : Nat) (worker : Worker) : Step Unit :=
  modify fun host =>
    { host with agenda := { host.agenda with sleeping := host.agenda.sleeping ++ [(due, worker)] } }

/-! ## Tasks -/

/-- Spawns a task under a generation, if that is the current one. -/
def spawn (name : String) (generation : Generation) (owner : Option String) (work : Work) :
    Step (Option TaskHandle) := do
  let host ← get
  if host.generation = generation then
    let (supervisor, handle) := host.supervisor.add name generation owner work
    set { host with supervisor }
    mark (.accepted generation handle.id)
    wake (.task handle.id)
    return some handle
  else return none

/-- Ends a task, and says whether it was still running. -/
def cancelTask (id : TaskId) : Step Bool :=
  modifyGet fun host =>
    let (supervisor, running) := host.supervisor.cancel id
    (running, { host with supervisor })

/-- Ends the tasks of an owner, and gives the number that were still running. -/
def cancelOwner (owner : String) : Step Nat :=
  modifyGet fun host =>
    let (supervisor, count) := host.supervisor.cancelOwner owner
    (count, { host with supervisor })

/-- Warns about a cancelled task that had panicked, and about one that is given up. -/
def warnOfTask (grace : Duration) (task : Task) : Step Unit :=
  if task.progress = .crashed then warn ("Task '" ++ task.name ++ "' panicked")
  else (task.timeout? grace).forM fun timeout => warn timeout.message

/-- Ends all tasks, and waits no longer than `grace` for them. Gives the number that
stopped, and those that were given up. -/
def cancelAll (grace : Duration) : Step (Nat × List StopTimeout) := do
  let tasks ← modifyGet fun host =>
    let (supervisor, tasks) := host.supervisor.cancelAll
    (tasks, { host with supervisor })
  tasks.forM (warnOfTask grace)
  let timeouts := tasks.filterMap (Task.timeout? grace)
  return (tasks.length - timeouts.length, timeouts)

/-! ## Gates and listeners -/

def addGate : Step GateId :=
  modifyGet fun host => (host.gates.length, { host with gates := host.gates ++ [{}] })

def gate (host : Host) (id : GateId) : Gate :=
  host.gates.getD id {}

def changeGate (id : GateId) (change : Gate → Gate) : Step Unit :=
  modify fun host => { host with gates := host.gates.modify id change }

def listen (kind : EventKind) (delivery : Delivery) : Step Nat :=
  modifyGet fun host =>
    let (bus, id) := host.bus.listen kind delivery
    (id, { host with bus })

/-- Removes a listener, and says whether there was one. -/
def unlisten (id : Nat) : Step Bool :=
  modifyGet fun host =>
    let (bus, removed) := host.bus.unlisten id
    (removed, { host with bus })

/-! ## Requests -/

/-- Changes the state of the reload loops, and lets the one go on that this wakes. -/
def changeLoops (change : ReloadLoops → ReloadLoops × Option LoopId) : Step Unit := do
  let woken ← modifyGet fun host =>
    let (loops, woken) := change host.loops
    (woken, { host with loops })
  woken.forM fun id => wake (.reloadLoop id)

def requestReload : Step Unit :=
  changeLoops ReloadLoops.request

end Host

end HomeRules
