import HomeRules.StateMachine

/-! # Resolving triggers

The triggers of a state that depends on others are made from the triggers of the
members of its groups. Resolution passes over the states in order until all are
resolved or a whole pass resolves none; each pass but the last resolves a state,
so one pass more than there are states is enough. -/

set_option autoImplicit false

namespace HomeRules

namespace StateMachine

/-- The triggers found so far, by state. -/
abbrev Resolved := List (Option (List StateTrigger))

/-- The triggers of a state as far as they are known. -/
def known? (resolved : Resolved) (id : StateId) : Option (List StateTrigger) :=
  (resolved[id]?).join

def conditionsOf (machine : StateMachine) (ids : List StateId) : List Condition :=
  ids.filterMap fun id => (machine.get? id).map (·.condition)

/-- The conjunction of the conditions of the other members of a group. -/
def guardOf (machine : StateMachine) (others : List StateId) : Option Condition :=
  if others.isEmpty then none else some (Condition.conjunction (machine.conditionsOf others))

/-- The triggers of the members `rest` of a group whose earlier members are
`before`, each guarded by all other members. -/
def memberTriggers (machine : StateMachine) (resolved : Resolved) (before : List StateId) :
    List StateId → Option (List StateTrigger)
  | [] => some []
  | member :: rest => do
    let triggers ← known? resolved member
    let later ← memberTriggers machine resolved (before ++ [member]) rest
    let guard := machine.guardOf (before ++ rest)
    return triggers.map (·.guarded guard) ++ later

/-- The triggers of several groups, group by group. -/
def groupTriggers (machine : StateMachine) (resolved : Resolved) :
    List (List StateId) → Option (List StateTrigger)
  | [] => some []
  | group :: rest => do
    let triggers ← memberTriggers machine resolved [] group
    let later ← groupTriggers machine resolved rest
    return triggers ++ later

/-- The triggers of a state, when those it needs are known. -/
def triggers? (machine : StateMachine) (resolved : Resolved) (state : State) (source : State) :
    Option (List StateTrigger) :=
  if !source.activatedBy.isEmpty then some source.activatedBy
  else if !source.affectedBy.isEmpty then
    some (source.affectedBy.map (·.guarded (some state.condition)))
  else if source.dependsOn.isEmpty then none
  else groupTriggers machine resolved source.dependsOn

def tryResolve (machine : StateMachine) (resolved : Resolved) (id : StateId) :
    Option (List StateTrigger) := do
  let state ← machine.get? id
  let source ← machine.get? (machine.source id)
  machine.triggers? resolved state source

/-- Resolves one state if it is not resolved and can be. -/
def resolveAt (machine : StateMachine) (resolved : Resolved) (id : StateId) : Resolved :=
  match known? resolved id with
  | some _ => resolved
  | none => resolved.set id (machine.tryResolve resolved id)

def pass (machine : StateMachine) (resolved : Resolved) : Resolved :=
  (List.range machine.size).foldl machine.resolveAt resolved

def passes (machine : StateMachine) : Nat → Resolved → Resolved
  | 0, resolved => resolved
  | count + 1, resolved => passes machine count (machine.pass resolved)

/-- What is known after as many passes as there are states. -/
def settled (machine : StateMachine) : Resolved :=
  machine.passes machine.size (List.replicate machine.size none)

/-- The names of the states whose triggers are not known. -/
def stuck (machine : StateMachine) (resolved : Resolved) : List String :=
  (machine.states.zip resolved).filterMap fun (state, triggers) =>
    if triggers.isNone then some state.name else none

/-- The triggers of every state, in the order of the states. -/
def resolve (machine : StateMachine) : Except SchemaError (List (List StateTrigger)) :=
  let resolved := machine.settled
  match machine.stuck resolved with
  | [] => .ok (resolved.filterMap id)
  | names => .error (.invalid (.ungroundedStates names))

end StateMachine

end HomeRules
