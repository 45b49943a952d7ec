import HomeRules.Schema
import HomeRules.Schema.Error

/-! # State machines

Named conditions with side effects that run when they become true. A state says
when that may happen in one of three ways: it is activated by events, it is
affected by events, or it depends on groups of other states. An inverted state takes
its triggers and groups from another state and has none of its own. -/

set_option autoImplicit false

namespace HomeRules

/-- A state change of an entity, with an optional filter on it. -/
structure StateTrigger where
  entity : String
  condition : Option Condition := none
  deriving Repr, Inhabited

namespace StateTrigger

/-- Conjoins a condition with the filter of a trigger. -/
def when (trigger : StateTrigger) (condition : Condition) : StateTrigger :=
  match trigger.condition with
  | some existing => { trigger with condition := some (existing.and condition) }
  | none => { trigger with condition := some condition }

/-- Keeps changes that come from one of `states`. -/
def comingFrom (trigger : StateTrigger) (states : List String) : StateTrigger :=
  trigger.when (Condition.oldStateIn states)

/-- Keeps changes that go to one of `states`. -/
def goingTo (trigger : StateTrigger) (states : List String) : StateTrigger :=
  trigger.when (Condition.newStateIn states)

/-- Conjoins a guard with the filter of a trigger, when there is a guard. -/
def guarded (trigger : StateTrigger) (guard : Option Condition) : StateTrigger :=
  match guard with
  | some condition => trigger.when condition
  | none => trigger

end StateTrigger

/-- The position of a state in its machine. -/
abbrev StateId := Nat

/-- A named condition, what to do when it becomes true, and when that may be. -/
structure State where
  name : String
  condition : Condition
  sideEffects : List Action := []
  activatedBy : List StateTrigger := []
  affectedBy : List StateTrigger := []
  dependsOn : List (List StateId) := []
  inverseOf : Option StateId := none
  deriving Repr, Inhabited

/-- The states of one script, in the order they were added. -/
structure StateMachine where
  states : List State := []
  deriving Repr, Inhabited

namespace StateMachine

/-- The number of states, inverted ones included. -/
def size (machine : StateMachine) : Nat :=
  machine.states.length

def get? (machine : StateMachine) (id : StateId) : Option State :=
  machine.states[id]?

/-- The id of the state with a name, inverted ones included. -/
def find? (machine : StateMachine) (name : String) : Option StateId :=
  machine.states.findIdx? (·.name = name)

/-- The error for an id that no state has. -/
def unknownState (id : StateId) : SchemaError :=
  .unknownName .state ("#" ++ Text.numeral id)

/-- The state with an id, or an error that names the id. -/
def state (machine : StateMachine) (id : StateId) : Except SchemaError State :=
  match machine.get? id with
  | some state => .ok state
  | none => .error (unknownState id)

/-- The state whose triggers and groups a state uses: the one it inverts, or itself. -/
def source (machine : StateMachine) (id : StateId) : StateId :=
  ((machine.get? id).bind (·.inverseOf)).getD id

/-- Checks that a group has members and that every member exists. -/
def checkGroup (machine : StateMachine) (name : String) (group : List StateId) :
    Except SchemaError Unit :=
  if group.isEmpty then .error (.invalid (.emptyDependencyGroup name))
  else group.forM fun member => (machine.state member).map fun _ => ()

def add (machine : StateMachine) (state : State) : Except SchemaError (StateMachine × StateId) :=
  if !state.activatedBy.isEmpty && !state.affectedBy.isEmpty then
    .error (.invalid (.activatedAndAffected state.name))
  else if (machine.find? state.name).isSome then
    .error (.invalid (.repeatedState state.name))
  else do
    state.dependsOn.forM (machine.checkGroup state.name)
    return (⟨machine.states ++ [state]⟩, machine.size)

/-- Adds a group to the state whose groups `id` uses. -/
def addDependency (machine : StateMachine) (id : StateId) (group : List StateId) :
    Except SchemaError StateMachine := do
  let state ← machine.state id
  machine.checkGroup state.name group
  return ⟨machine.states.modify (machine.source id) fun target =>
    { target with dependsOn := target.dependsOn ++ [group] }⟩

/-- The name of the inverted copy of a state. -/
def invertedName (name : String) : String :=
  "NOT " ++ name

/-- The inverted copy of a state, which is made once and found by its name
afterwards. States with side effects have none. -/
def invert (machine : StateMachine) (id : StateId) :
    Except SchemaError (StateMachine × StateId) := do
  let base ← machine.state id
  if !base.sideEffects.isEmpty then .error (.invalid (.invertedSideEffects base.name))
  else
    match machine.find? (invertedName base.name) with
    | some existing => return (machine, existing)
    | none =>
      let inverted : State := {
        name := invertedName base.name
        condition := base.condition.not
        inverseOf := some (machine.source id) }
      return (⟨machine.states ++ [inverted]⟩, machine.size)

end StateMachine

end HomeRules
