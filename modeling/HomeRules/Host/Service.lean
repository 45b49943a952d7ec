import HomeRules.Host.Reload

/-! # The reload loops, the watcher and the runner

What the workers that are not tasks do each time they are given control. A loop
serves reload requests, the watcher requests a reload when the script directory
has changed, and the runner loads the scripts, starts one of each, and shuts the
host down when it is asked to stop. -/

set_option autoImplicit false

namespace HomeRules.Host

/-! ## The reload loops -/

/-- Starts to serve reload requests, and gives the number of the loop that does. -/
def startLoop : Step LoopId := do
  let id ← modifyGet fun host =>
    let (loops, id) := host.loops.start
    (id, { host with loops })
  wake (.reloadLoop id)
  return id

/-- Ends a loop with a fatal error. -/
def abortLoop (id : LoopId) (error : HostError) : Step Unit := do
  modify fun host => { host with loops := host.loops.finish id (some error) }
  wake .runner

/-- Gives control to a reload loop. A cycle that fails for other than fatal reasons
does not end it. -/
def runLoop (budget : Nat) (id : LoopId) : Step Unit := do
  if ← continueLoop id then
    match ← reload budget with
    | .error error => if error.isFatal then abortLoop id error else wakeFirst (.reloadLoop id)
    | .ok _ => wakeFirst (.reloadLoop id)

/-! ## The watcher -/

/-- Puts the watcher to sleep until its next scan. -/
def sleepWatcher (watcher : Watcher) : Step Unit := do
  modify fun host => { host with watcher := some watcher }
  sleepUntil watcher.due .watcher

/-- Starts to watch, if there is a scanner and its interval is not zero. -/
def startWatcher (scanner : Option Scanner) (interval : Nat) : Step Unit := do
  match scanner with
  | none => pure ()
  | some scanner =>
    if interval = 0 then pure ()
    else
      let due := wakeTime (← get).clock (.ofMilliseconds interval)
      sleepWatcher { scanner, interval, due }

/-- Gives control to the watcher, which ends when the host is shut down. -/
def runWatcher : Step Unit := do
  let host ← get
  match host.watcher with
  | none => pure ()
  | some watcher =>
    if host.loops.shutDown then set { host with watcher := none }
    else
      let (scanner, result) := watcher.scanner.scan host.tree
      if result.hasChanges then requestReload
      sleepWatcher { watcher with
        scanner, due := wakeTime watcher.due (.ofMilliseconds watcher.interval) }

/-! ## The runner -/

def moveRunner (point : RunnerPoint) : Step Unit :=
  modify fun host => { host with runner := { host.runner with point } }

def finishRunner (outcome : Option HostError) : Step Unit :=
  modify fun host => { host with runner := { host.runner with point := .finished, outcome } }

/-- Waits until the host is to be shut down, and shuts it down. The runner then
waits for its reload loop. -/
def serve (budget : Nat) (loop : LoopId) : Step Unit := do
  let host ← get
  if host.loops.isFinished loop || host.runner.stopRequested then
    shutDown budget
    modify fun host => { host with watcher := none }
    match host.loops.ending? loop with
    | some outcome => finishRunner outcome
    | none => do
      moveRunner (.draining loop)
      wake .runner
  else pure ()

/-- Ends the runner once its reload loop has ended. -/
def drain (loop : LoopId) : Step Unit := do
  let host ← get
  (host.loops.ending? loop).forM finishRunner

/-- Waits for a stop where scripting is disabled. -/
def idle : Step Unit := do
  if (← get).runner.stopRequested then finishRunner none else pure ()

/-- The scanner of a runner, which knows the directory as it was before the first
load. Without hot reload there is none. -/
def initialScanner (host : Host) : Option Scanner :=
  if host.runner.config.hotReload then
    some (Scanner.create host.tree host.reloading.directory [ruleExtension])
  else none

/-- Loads the scripts and starts the loop and the watcher. -/
def openService (budget : Nat) : Step Unit := do
  let host ← get
  let scanner := initialScanner host
  match ← reload budget with
  | .error error => finishRunner (some error)
  | .ok _ => do
    let loop ← startLoop
    startWatcher scanner host.runner.config.hotReloadInterval
    moveRunner (.serving loop)
    wake .runner

def runRunner (budget : Nat) : Step Unit := do
  let runner := (← get).runner
  match runner.point with
  | .fresh =>
    if runner.config.enabled then openService budget
    else do
      moveRunner .disabled
      wake .runner
  | .disabled => idle
  | .serving loop => serve budget loop
  | .draining loop => drain loop
  | _ => pure ()

def startRunner : Step Unit := do
  moveRunner .fresh
  wake .runner

def requestStop : Step Unit := do
  modify fun host => { host with runner := { host.runner with stopRequested := true } }
  wake .runner

end HomeRules.Host
