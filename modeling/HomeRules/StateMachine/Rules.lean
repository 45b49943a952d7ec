import HomeRules.Schema.Draft
import HomeRules.StateMachine.Resolution

/-! # Rules of a state machine

Each trigger of a state with side effects contributes those effects to a branch
of the rule for its entity. Branches whose guards have the same name are one. -/

set_option autoImplicit false

namespace HomeRules

namespace StateMachine

/-- Branches of one entity: guards and the actions they guard. -/
abbrev Branches := List (Condition × List Action)

/-- Adds actions to the branch whose guard has the name of `guard`, or to a new
last branch. -/
def addBranch (guard : Condition) (actions : List Action) : Branches → Branches
  | [] => [(guard, actions)]
  | (condition, present) :: rest =>
    if condition.name = guard.name then (condition, present ++ actions) :: rest
    else (condition, present) :: addBranch guard actions rest

/-- Adds actions to a branch of an entity, which is new when it was not seen. -/
def addToEntity (entity : String) (guard : Condition) (actions : List Action) :
    List (String × Branches) → List (String × Branches)
  | [] => [(entity, [(guard, actions)])]
  | (name, branches) :: rest =>
    if name = entity then (name, addBranch guard actions branches) :: rest
    else (name, branches) :: addToEntity entity guard actions rest

/-- Adds the side effects of a state for one of its triggers. -/
def addTrigger (state : State) (entities : List (String × Branches)) (trigger : StateTrigger) :
    List (String × Branches) :=
  addToEntity trigger.entity (trigger.condition.getD Condition.always) state.sideEffects entities

/-- Adds the side effects of a state for all its triggers, if it has any. -/
def addState (entities : List (String × Branches)) (state : State)
    (triggers : List StateTrigger) : List (String × Branches) :=
  if state.sideEffects.isEmpty then entities else triggers.foldl (addTrigger state) entities

/-- The branches of every entity, in the order the entities are first triggered. -/
def entities (machine : StateMachine) (keep : StateId → Bool)
    (resolved : List (List StateTrigger)) : List (String × Branches) :=
  ((machine.states.zip resolved).zipIdx).foldl
    (fun result ((state, triggers), id) =>
      if keep id then addState result state triggers else result)
    []

def draftEntry (entity : String) (branches : Branches) : DraftEntry where
  key := "state:" ++ entity
  body := branches.foldl
    (fun draft (condition, actions) => draft.when condition (.ofList actions)) .conditions

/-- The rules of the states that are kept. -/
def draftOf (machine : StateMachine) (keep : StateId → Bool) : Except SchemaError EventDraft := do
  let resolved ← machine.resolve
  return (machine.entities keep resolved).map fun (entity, branches) => draftEntry entity branches

/-- The rules of all states with side effects. -/
def draft (machine : StateMachine) : Except SchemaError EventDraft :=
  machine.draftOf fun _ => true

def draftOnly (machine : StateMachine) (ids : List StateId) : Except SchemaError EventDraft :=
  machine.draftOf fun id => ids.contains id

end StateMachine

end HomeRules
