import HomeRules.Host.Service

/-! # The schedule

How background work goes on. Workers that can go on are given control one after the
other; when there is none, time passes to the next moment at which one wakes up.
Every function is bounded by a budget of such steps; where it is used up, the work
that is left stays where it is. -/

set_option autoImplicit false

namespace HomeRules.Host

def runWorker (budget : Nat) : Worker → Step Unit
  | .task id => runTask id
  | .reloadLoop id => runLoop budget id
  | .watcher => runWatcher
  | .runner => runRunner budget

/-- Takes the first worker that can go on from the agenda. -/
def takeReady : Step (Option Worker) :=
  modifyGet fun host =>
    match host.agenda.ready with
    | [] => (none, host)
    | worker :: rest => (some worker, { host with agenda := { host.agenda with ready := rest } })

/-- The next time at which a worker wakes up. -/
def nextDue (host : Host) : Option Nat :=
  (host.agenda.sleeping.map (·.1)).min?

/-- Lets time pass, and wakes the workers whose sleep is over. Time never goes back. -/
def passTo (time : Nat) : Step Unit :=
  modify fun host =>
    let (awake, asleep) := host.agenda.sleeping.partition (·.1 ≤ time)
    { host with
      clock := max host.clock time
      agenda := { ready := host.agenda.ready ++ awake.map (·.2), sleeping := asleep } }

/-- Lets everything that can go on do so, without letting time pass. -/
def settle : Nat → Step Unit
  | 0 => pure ()
  | budget + 1 => do
    match ← takeReady with
    | some worker => do
      runWorker budget worker
      settle budget
    | none => pure ()

/-- Lets time pass up to `target`. What is due then is included. -/
def advanceTo (target : Nat) : Nat → Step Unit
  | 0 => pure ()
  | budget + 1 => do
    match ← takeReady with
    | some worker => do
      runWorker budget worker
      advanceTo target budget
    | none =>
      match nextDue (← get) with
      | some due =>
        if due ≤ target then do
          passTo due
          advanceTo target budget
        else passTo target
      | none => passTo target

def advance (budget milliseconds : Nat) : Step Unit := do
  let host ← get
  advanceTo (host.clock + milliseconds) budget

/-- Lets time pass until the runner has finished, as far as anything ever wakes up. -/
def awaitRunner : Nat → Step Unit
  | 0 => pure ()
  | budget + 1 => do
    match ← takeReady with
    | some worker => do
      runWorker budget worker
      awaitRunner budget
    | none => do
      let host ← get
      match nextDue host with
      | some due =>
        if host.runner.point = .finished then pure ()
        else do
          passTo due
          awaitRunner budget
      | none => pure ()

end HomeRules.Host
