import HomeRules.Host.Tasks

/-! # Background work beside a load cycle

While a cycle waits for managers to stop or for scripts to load, tasks go on as far
as they can, and so do the reload loops, except that none of them begins another
cycle. -/

set_option autoImplicit false

namespace HomeRules.Host

/-- Gives control to a reload loop, and says whether its cycle comes now. -/
def continueLoop (id : LoopId) : Step Bool := do
  let host ← get
  let (loops, move) := host.loops.step id !host.reloading.debounce.isZero
  set { host with loops }
  match move with
  | .wait => pure ()
  | .finish => wake .runner
  | .sleep => sleepUntil (wakeTime host.clock host.reloading.debounce) (.reloadLoop id)
  | .continue => wakeFirst (.reloadLoop id)
  | .cycle => pure ()
  return move = .cycle

/-- Whether a worker goes on while a cycle runs. A loop that was let in waits for its
turn. -/
def runsBesideCycle (loops : ReloadLoops) : Worker → Bool
  | .task _ => true
  | .reloadLoop id => !loops.isAdmitted id
  | _ => false

/-- Takes the first worker from the agenda that goes on while a cycle runs. -/
def takeBesideCycle : Step (Option Worker) :=
  modifyGet fun host =>
    let found := host.agenda.ready.find? (runsBesideCycle host.loops)
    let ready := found.elim host.agenda.ready host.agenda.ready.erase
    (found, { host with agenda := { host.agenda with ready } })

/-- Gives control to the tasks and reload loops that can go on, and to those that
they wake, at most so many times. The cycle that runs keeps every loop from
beginning one. -/
def runReady : Nat → Step Unit
  | 0 => pure ()
  | budget + 1 => do
    match ← takeBesideCycle with
    | some (.task id) => do
      runTask id
      runReady budget
    | some (.reloadLoop id) => do
      let _ ← continueLoop id
      runReady budget
    | _ => pure ()

end HomeRules.Host
