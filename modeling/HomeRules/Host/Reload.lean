import HomeRules.Host.Background
import HomeRules.Host.Loading

/-! # Load cycles

A cycle retires one generation of scripts and loads the next: the managers stop,
background work is cancelled, the scripts are unloaded, the files of the script
directory are loaded, and the new managers begin to deliver. Background work that
can go on does so while the managers stop and while scripts load; the first argument
bounds how often. -/

set_option autoImplicit false

namespace HomeRules.Host

def enterPhase (phase : CyclePhase) : Step Unit :=
  modify fun host =>
    { host with status := { host.status with phase, generation := host.generation } }

def advanceGeneration : Step Generation := do
  let generation := (← get).generation + 1
  modify fun host => { host with generation }
  mark (.advanced generation)
  return generation

/-! ## Stopping and unloading -/

/-- Stops the managers and cancels all background work, and gives what did not stop. -/
def stop (budget : Nat) : Step (List StopTimeout) := do
  let inFlight ← stopRegistry
  runReady budget
  let (_, detached) ← cancelAll (← get).reloading.stopGrace
  mark (.halted (← get).generation)
  return inFlight ++ detached

/-- One step of a native script that is unloaded. -/
def unloadStep : UnloadStep → Run Unit
  | .say text => note (.said text)
  | .publish event => do
    let count ← publish event
    note (.delivered count)
  | .askManager kind => do
    let host ← getThe Host
    let answer ← (liftM (manager kind host.generation : Step _) : Run _)
    note (.askedManager (answer.map (·.generation)))
  | .panic message => throw (.panic message)

/-- Unloads one script. A panic ends its steps. -/
def unloadScript (script : LoadedScript) : Step Unit := do
  match script.instance? with
  | none => pure ()
  | some native =>
    match ← attempt (native.onUnload.forM unloadStep) with
    | some (.panic message) =>
      warn ("Script '" ++ script.id ++ "' panicked while unloading: " ++
        Failure.panicText message)
    | _ => pure ()

/-- Unloads the live scripts in the order they were loaded. -/
def unloadAll : Step Unit := do
  let scripts := (← get).arena
  modify fun host => { host with arena := [] }
  scripts.forM unloadScript
  clearRegistry

/-! ## A whole cycle -/

def warnOf (report : CycleReport) : Step Unit := do
  unless report.failed.isEmpty do
    warn (Text.numeral report.failed.length ++ " script(s) failed to load into " ++
      generationText report.generation)
  unless report.timeouts.isEmpty do
    warn (Text.numeral report.timeouts.length ++ " task(s) were detached while stopping")
  if report.loaded.isEmpty && report.failed.isEmpty then
    warn "No scripts loaded after reload"

def finishCycle (report : CycleReport) : Step Unit := do
  warnOf report
  enterPhase .idle
  modify fun host =>
    { host with
      status := { host.status with
        cycles := host.status.cycles + 1
        lastReport := some report } }

/-- Runs one cycle. An error that breaks every later cycle leaves it unfinished. -/
def runCycle (budget : Nat) : Step (Except HostError CycleReport) := do
  if (← get).loops.shutDown then return .error .shutDown
  else do
    let generation ← advanceGeneration
    enterPhase .stopping
    let timeouts ← stop budget
    enterPhase .unloading
    unloadAll
    enterPhase .loading
    let (scripts, failed) ← loadAll generation
    runReady budget
    match failed.findSome? LoadError.fatal? with
    | some error => return .error error
    | none => do
      modify fun host => { host with arena := scripts }
      resumeRegistry generation
      let report : CycleReport :=
        { generation, loaded := scripts.map (·.id), failed, timeouts }
      finishCycle report
      return .ok report

/-- Runs one cycle, and then lets in the reload loop that has stood in line longest. -/
def reload (budget : Nat) : Step (Except HostError CycleReport) := do
  changeLoops ReloadLoops.occupy
  let result ← runCycle budget
  changeLoops ReloadLoops.release
  return result

/-- Stops and unloads the live generation for good. -/
def shutDown (budget : Nat) : Step Unit := do
  changeLoops ReloadLoops.retire
  let _ ← advanceGeneration
  enterPhase .stopping
  let _ ← stop budget
  enterPhase .unloading
  unloadAll
  enterPhase .idle

end HomeRules.Host
