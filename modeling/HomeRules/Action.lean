import HomeRules.Failure
import HomeRules.World

/-! # Actions

What a rule does when it matches. A call runs at once; a task and a delayed list
are handed to the supervisor; a group stands for its members in order. -/

set_option autoImplicit false

namespace HomeRules

inductive Command where
  /-- Journals the call by its name. -/
  | report
  /-- Journals the call by its name, with the payload. -/
  | display
  /-- Journals a text for the reader. -/
  | inform (text : String)
  /-- Journals a description of the payload. -/
  | describe
  | setFlag (flag : String) (value : Bool)
  | setState (entity state : String)
  | publish (event : Event)
  | requestReload
  | stopManagers
  | fail (failure : Failure)
  deriving DecidableEq, Repr, Inhabited

inductive Ending where
  | completed
  | failed (chain : List String)
  | panicked (message : Option String)
  | never
  deriving DecidableEq, Repr, Inhabited

/-- Work that waits once and ends. The opening and the closing name the journal
entries at its start and after its delay. -/
structure Job where
  opening : Option String := none
  delay : Duration := .zero
  closing : Option String := none
  ending : Ending := .completed
  deriving DecidableEq, Repr, Inhabited

/-- What a task gives when it is asked for its work: a job, or a panic. -/
inductive TaskSource where
  | job (job : Job)
  | panics (message : Option String)
  deriving DecidableEq, Repr, Inhabited

inductive Action where
  | call (name : String) (commands : List Command)
  | task (name : String) (source : TaskSource)
  | group (name : String) (members : List Action)
  | after (delay : Duration) (actions : List Action)
  deriving Repr, Inhabited

namespace Action

/-- The name of an action. A delayed list is named for its delay. -/
def name : Action → String
  | .call name _ => name
  | .task name _ => name
  | .group name _ => name
  | .after delay _ => "after " ++ delay.render

/-- Whether an action is handed to the supervisor. -/
def isDeferred : Action → Bool
  | .task _ _ => true
  | .after _ _ => true
  | _ => false

mutual

/-- The actions a single action stands for, with groups expanded. -/
def leaves : Action → List Action
  | .group _ members => leavesOf members
  | action => [action]

/-- The leaf actions of a list in the order they run. Deferred actions are leaves. -/
def leavesOf : List Action → List Action
  | [] => []
  | action :: rest => action.leaves ++ leavesOf rest

end

/-- The names of the leaf actions of a list. -/
def flatNames (actions : List Action) : List String :=
  (leavesOf actions).map name

end Action

end HomeRules
