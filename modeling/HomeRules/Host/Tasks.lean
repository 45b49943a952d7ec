import HomeRules.Host.Dispatch

/-! # Running tasks

What a task does each time it is given control. A task that was cancelled is no
longer tracked and does nothing. A panic ends the task it happens in and nothing
else. -/

set_option autoImplicit false

namespace HomeRules.Host

/-! ## Sleeping -/

/-- The seconds a clock can count. -/
def clockRange : Nat := 0x8000000000000000

/-- The seconds a clock has counted when a host is created. It has run for a while
by then, here for a day. -/
def clockStart : Nat := 86400

/-- Whether a clock can tell when a length of time that starts at `now` is over. -/
def isTellable (now : Nat) (delay : Duration) : Bool :=
  clockStart + (now * 1000000 + delay.nanoseconds) / 1000000000 < clockRange

/-- How long a sleep lasts whose end no clock can tell: thirty years of 365 days. -/
def longSleep : Nat := 30 * 365 * 86400 * 1000

/-- The millisecond at which a sleep that starts at `now` is over. -/
def wakeTime (now : Nat) (delay : Duration) : Nat :=
  if isTellable now delay then now + (delay.nanoseconds + 999999) / 1000000
  else now + longSleep

def progress (id : TaskId) (progress : Progress) : Step Unit :=
  modify fun host => { host with supervisor := host.supervisor.advance id progress }

def sleepTask (id : TaskId) (due rounds : Nat) : Step Unit := do
  progress id (.waiting due rounds)
  sleepUntil due (.task id)

/-! ## The three kinds of work -/

/-- Runs delayed actions, unless their generation is over, and ends their task. -/
def finishDelayed (task : Task) (actions : List Action) (payload : Payload) : Step Unit := do
  let host ← get
  if host.generation = task.generation then
    let occasion : Occasion := { generation := task.generation, owner := task.owner, payload }
    match ← attempt do
        let _ ← executeAll publish occasion actions {}
        return () with
    | none => progress task.id .ended
    | some _ => progress task.id .crashed
  else progress task.id .ended

def finishJob (task : Task) (job : Job) : Step Unit := do
  job.closing.forM fun name => note (.ended name)
  match job.ending with
  | .completed => progress task.id .ended
  | .failed chain => do
    warn ("Task '" ++ task.name ++ "' failed: " ++ Text.joined ": " chain)
    progress task.id .ended
  | .panicked _ => progress task.id .crashed
  | .never => progress task.id .stalled

/-- Dispatches the next tick of a timer, and waits for the one after it. A timer
whose gate admits nothing ends. -/
def tick (task : Task) (delivery : Delivery) (period : Duration) (due rounds : Nat) :
    Step Unit := do
  let host ← get
  match (host.gate delivery.gate).enter? with
  | none => progress task.id .ended
  | some _ =>
    match ← attempt (dispatchInside publish delivery (.tick (rounds + 1))) with
    | some _ => progress task.id .crashed
    | none => sleepTask task.id (wakeTime due period) (rounds + 1)

/-! ## Giving control to a task -/

/-- The first steps of a task. A delay of zero is no wait at all. -/
def beginTask (task : Task) : Step Unit := do
  let now := (← get).clock
  match task.work with
  | .delayed delay actions payload =>
    if delay.isZero then finishDelayed task actions payload
    else sleepTask task.id (wakeTime now delay) 0
  | .job job payload => do
    job.opening.forM fun name => note (.began name payload)
    if job.delay.isZero then finishJob task job
    else sleepTask task.id (wakeTime now job.delay) 0
  | .timer _ _ _ period =>
    if isTellable now period then sleepTask task.id (wakeTime now period) 0
    else progress task.id .crashed

/-- The steps of a task after a wait. -/
def continueTask (task : Task) (due rounds : Nat) : Step Unit :=
  match task.work with
  | .delayed _ actions payload => finishDelayed task actions payload
  | .job job _ => finishJob task job
  | .timer gate schema kind period =>
    tick task { gate, generation := task.generation, schema, kind } period due rounds

def runTask (id : TaskId) : Step Unit := do
  match (← get).supervisor.task? id with
  | none => pure ()
  | some task =>
    match task.progress with
    | .fresh => do
      mark (.resumed task.generation id)
      beginTask task
    | .waiting due rounds => do
      mark (.resumed task.generation id)
      continueTask task due rounds
    | _ => pure ()

end HomeRules.Host
