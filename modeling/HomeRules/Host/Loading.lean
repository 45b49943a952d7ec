import HomeRules.Host.Dispatch
import HomeRules.Host.Source
import HomeRules.Schema.Build

/-! # Loading scripts

A script file is loaded in three parts: its rules are looked up, they are
registered, and its native script, if it names one, takes its steps. What a script
acquires on the way is withdrawn when any part fails, so that a failed script
leaves nothing behind and the others do not notice. -/

set_option autoImplicit false

namespace HomeRules

/-- What a script knows and has acquired while it loads. -/
structure LoadContext where
  script : String
  generation : Generation
  settings : Toml.Table := []
  handles : List Handle := []
  tasks : List TaskHandle := []
  deriving Inhabited

/-- A part of a load, which may fail with an error of type `ε`. What was acquired
before the failure stays known. -/
abbrev Load (ε : Type) := ExceptT ε (StateT LoadContext Step)

namespace Host

/-- Withdraws what a script has registered and spawned. -/
def retract (context : LoadContext) : Step Unit := do
  let _ ← unregister context.script context.handles
  context.tasks.forM fun task => do
    let _ ← cancelTask task.id
    return ()

/-! ## Acquiring -/

/-- Registers a schema for the script that loads, and gives the number of events
it was bound to. -/
def addSchema (draft : EventDraft) : StateT LoadContext Step (Except HostError Nat) := do
  match EventDraft.build draft with
  | .error cause => return .error (.schema cause)
  | .ok schema => do
    let context ← getThe LoadContext
    match ← (register context.script context.generation schema : Step _) with
    | .error error => return .error error
    | .ok handles => do
      set { context with handles := context.handles ++ handles }
      return .ok handles.length

def addTask (name : String) (job : Job) : StateT LoadContext Step (Option TaskHandle) := do
  let context ← getThe LoadContext
  let spawned ← (spawn (context.script ++ "/" ++ name) context.generation none
    (.job job .none) : Step _)
  set { context with tasks := context.tasks ++ spawned.toList }
  return spawned

def withdraw : StateT LoadContext Step Unit := do
  let context ← getThe LoadContext
  (retract context : Step Unit)
  set { context with handles := [], tasks := [] }

/-- Requests a reload for a native script, unless all such scripts of its name have
made `times` requests. -/
def requestOnce (name : String) (times : Nat) : Step Unit := do
  let host ← get
  let made := (host.requests.get? name).getD 0
  if made < times then
    set { host with requests := host.requests.insert name (made + 1) }
    note .requested
    requestReload

/-! ## Native scripts -/

/-- A draft whose names were all known. -/
def known (draft : Except SchemaError EventDraft) : Load Failure EventDraft :=
  match draft with
  | .ok draft => pure draft
  | .error error => throw (.error error.chain)

/-- One step of a native script of a name. -/
def loadStep (name : String) : LoadStep → Load Failure Unit
  | .say text => note (.said text)
  | .showSettings => do
    let context ← getThe LoadContext
    note (.settings context.settings)
  | .showContext => do
    let context ← getThe LoadContext
    note (.context context.script context.generation context.handles)
  | .register announced draft => do
    let draft ← known draft
    match ← (liftM (addSchema draft) : Load Failure _) with
    | .error error => throw (.error error.chain)
    | .ok count => if announced then note (.bound (.ok count))
  | .tryRegister draft => do
    let draft ← known draft
    let result ← (liftM (addSchema draft) : Load Failure _)
    note (.bound result)
  | .spawn announced task job => do
    let spawned ← (liftM (addTask task job) : Load Failure _)
    if announced then note (.spawned (spawned.map (·.name)))
  | .retract => do
    withdraw
    let context ← getThe LoadContext
    note (.retracted context.handles.length)
  | .requestReload times => requestOnce name times
  | .stopManagers => do
    let timeouts ← stopRegistry
    note (.stopped timeouts)
  | .askManager kind => do
    let context ← getThe LoadContext
    let answer ← (liftM (manager kind context.generation : Step _) : Load Failure _)
    note (.askedManager (answer.map (·.generation)))
  | .publish event => do
    match ← (liftM ((publish event).run : Step _) : Load Failure (Except Failure Nat)) with
    | .ok count => note (.delivered count)
    | .error failure => throw failure
  | .fail failure => throw failure

/-- How the failure of a native script is reported. -/
def nativeError (script : String) : Failure → LoadError
  | .error chain => .failed script (Text.joined ": " chain)
  | .panic message => .panicked script (Failure.panicText message)

def loadNative (native : NativeScript) : Load LoadError Unit := do
  let context ← getThe LoadContext
  ExceptT.adapt (nativeError context.script)
    ((native.onLoad context.settings).forM (loadStep native.name))

/-! ## Script files -/

/-- Registers the rules of a script, if there are any. -/
def loadRules (draft : EventDraft) : Load LoadError Unit := do
  if draft.isEmpty then return ()
  else do
    let context ← getThe LoadContext
    match ← (liftM (addSchema draft) : Load LoadError _) with
    | .error (.schema cause) => throw (.schema context.script cause)
    | .error cause => throw (.host context.script cause)
    | .ok _ => return ()

/-- Loads a script source, and gives its native script if it has one. -/
def loadSource (source : ScriptSource) : Load LoadError (Option NativeScript) := do
  let host ← getThe Host
  let rules ← liftExcept (source.rules host.vocabulary)
  modifyThe LoadContext fun context =>
    { context with settings := context.settings.extend rules.settings }
  loadRules rules.draft
  match rules.script with
  | none => return none
  | some name =>
    match host.shelf.get? name with
    | none => throw (.unknownScript source.id name)
    | some native => do
      loadNative native
      return some native

def settingsFor (config : ScriptConfig) (id : String) : Toml.Table :=
  ((config.get? id).bind Toml.Value.table?).getD []

def loadFile (generation : Generation) (path : String) : Step (Except LoadError LoadedScript) := do
  let host ← get
  match ScriptSource.read host.tree path with
  | .error error => do
    warn error.message
    return .error error
  | .ok source => do
    let context : LoadContext := {
      script := source.id, generation
      settings := settingsFor host.reloading.config source.id }
    let (result, acquired) ← ((loadSource source).run).run context
    match result with
    | .ok instance? => return .ok { id := source.id, instance? }
    | .error error => do
      retract acquired
      warn ("Failed to load script '" ++ source.id ++ "': " ++ error.message)
      return .error error

/-- The scripts among the results of loading, and the errors. -/
def sortLoaded : List (Except LoadError LoadedScript) → List LoadedScript × List LoadError
  | [] => ([], [])
  | .ok script :: rest =>
    let (scripts, errors) := sortLoaded rest
    (script :: scripts, errors)
  | .error error :: rest =>
    let (scripts, errors) := sortLoaded rest
    (scripts, error :: errors)

/-- The paths of the scripts in the script directory, in order. -/
def scriptPaths (host : Host) : List String :=
  (discover host.tree host.reloading.directory host.reloading.config).map
    (Path.inside host.reloading.directory)

/-- Loads every script of the script directory into a generation. -/
def loadAll (generation : Generation) : Step (List LoadedScript × List LoadError) := do
  let results ← (scriptPaths (← get)).mapM (loadFile generation)
  return sortLoaded results

end Host

end HomeRules
