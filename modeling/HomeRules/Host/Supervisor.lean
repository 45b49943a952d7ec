import HomeRules.Host.Error
import HomeRules.Schema

/-! # The supervisor

Every piece of background work is a task with an id, the generation it was
spawned under, and possibly an owner. Tasks are tracked from their spawn until
they are cancelled, or until the next spawn after they have ended. -/

set_option autoImplicit false

namespace HomeRules

/-- The number of a task. Ids are never used twice. -/
abbrev TaskId := Nat

inductive Work where
  /-- Runs actions after a delay. -/
  | delayed (delay : Duration) (actions : List Action) (payload : Payload)
  /-- Does a job. -/
  | job (job : Job) (payload : Payload)
  /-- Dispatches a tick through a gate again and again. -/
  | timer (gate : Nat) (schema : EventSchema) (kind : EventKind) (period : Duration)
  deriving Repr, Inhabited

inductive Progress where
  /-- Not started. -/
  | fresh
  /-- Waiting for a time; `rounds` waits are over. -/
  | waiting (due rounds : Nat)
  /-- Started, and never going to end. -/
  | stalled
  | ended
  | crashed
  deriving DecidableEq, Repr, Inhabited

/-- Whether a task has ended, by itself or by a panic. -/
def Progress.isOver : Progress → Bool
  | .ended => true
  | .crashed => true
  | _ => false

structure Task where
  id : TaskId
  name : String
  generation : Generation
  owner : Option String
  work : Work
  progress : Progress := .fresh
  deriving Repr, Inhabited

/-- The report of a cancelled task that is given up. It would end as soon as it is
given control, so only a host that does not wait at all gives it up. -/
def Task.timeout? (grace : Duration) (task : Task) : Option StopTimeout :=
  if grace.isZero && !task.progress.isOver then
    some { task := task.name, generation := task.generation, grace }
  else none

/-- A reference to a task, given to whoever spawned it. -/
structure TaskHandle where
  id : TaskId
  name : String
  generation : Generation
  deriving DecidableEq, Repr, Inhabited

/-- The tracked tasks in the order they were spawned. -/
structure Supervisor where
  nextId : TaskId := 0
  tasks : List Task := []
  deriving Repr, Inhabited

namespace Supervisor

def task? (supervisor : Supervisor) (id : TaskId) : Option Task :=
  supervisor.tasks.find? (·.id = id)

/-- Tracks a new task, and stops tracking those that have ended. -/
def add (supervisor : Supervisor) (name : String) (generation : Generation)
    (owner : Option String) (work : Work) : Supervisor × TaskHandle :=
  let task : Task := { id := supervisor.nextId, name, generation, owner, work }
  ({ nextId := supervisor.nextId + 1
     tasks := supervisor.tasks.filter (!·.progress.isOver) ++ [task] },
    { id := task.id, name, generation })

def advance (supervisor : Supervisor) (id : TaskId) (progress : Progress) : Supervisor :=
  { supervisor with
    tasks := supervisor.tasks.map fun task =>
      if task.id = id then { task with progress } else task }

/-- The number of tasks of a list that are still running. -/
def unfinished (tasks : List Task) : Nat :=
  (tasks.filter (!·.progress.isOver)).length

/-- Ends one task, and says whether it was still running. -/
def cancel (supervisor : Supervisor) (id : TaskId) : Supervisor × Bool :=
  ({ supervisor with tasks := supervisor.tasks.filter (·.id ≠ id) },
    (supervisor.task? id).any (!·.progress.isOver))

/-- Ends the tasks of an owner, and gives the number that were still running. -/
def cancelOwner (supervisor : Supervisor) (owner : String) : Supervisor × Nat :=
  ({ supervisor with tasks := supervisor.tasks.filter (·.owner ≠ some owner) },
    unfinished (supervisor.tasks.filter (·.owner = some owner)))

/-- Ends all tasks, and gives those that were tracked. -/
def cancelAll (supervisor : Supervisor) : Supervisor × List Task :=
  ({ supervisor with tasks := [] }, supervisor.tasks)

/-- The number of tracked tasks that are still running. -/
def activeCount (supervisor : Supervisor) : Nat :=
  unfinished supervisor.tasks

end Supervisor

end HomeRules
