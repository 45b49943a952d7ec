import HomeRules.Condition.Expression
import HomeRules.RuleFile.Actions
import HomeRules.StateMachine.Rules

/-! # Resolving rule files

Looks up every name of a rule file and gives the draft of its schema. Groups come
first, in the order of their names and whether or not a rule uses them, then the
rules, then the states. -/

set_option autoImplicit false

namespace HomeRules

/-- A rule file after all its names were looked up. -/
structure ResolvedRules where
  script : Option String := none
  settings : Toml.Table := []
  draft : EventDraft := []
  deriving Inhabited

namespace Scope

mutual

/-- The draft of a branch that lies `depth` branches deep. -/
def branch (scope : Scope) (depth : Nat) : BranchSpec → Except SchemaError BranchDraft
  | .mk condition actions branches =>
    if maxDepth < depth then .error .tooDeep
    else
      match actions, branches with
      | some values, [] => (scope.actions values).map .actions
      | none, inner :: rest => (scope.branches (depth + 1) (inner :: rest)).map .nested
      | some _, _ :: _ => .error (.invalid (.branchWithTwoBodies condition))
      | none, [] => .error (.invalid (.branchWithoutBody condition))

/-- The drafts of branches that lie `depth` branches deep, with their conditions. -/
def branches (scope : Scope) (depth : Nat) :
    List BranchSpec → Except SchemaError (List (Condition × BranchDraft))
  | [] => .ok []
  | .mk text actions inner :: rest => do
    let condition ← scope.vocabulary.expression text
    let draft ← scope.branch depth (.mk text actions inner)
    let drafts ← scope.branches depth rest
    return (condition, draft) :: drafts

end

def rule (scope : Scope) (spec : RuleSpec) : Except SchemaError ConditionDraft := do
  if spec.firstMatch && spec.actions.isSome && !spec.branches.isEmpty then
    throw (.invalid (.firstMatchWithActions spec.event))
  let start ←
    match spec.actions with
    | some values => (scope.actions values).map .unconditional
    | none =>
      if spec.branches.isEmpty then .error (.invalid (.ruleWithoutBody spec.event))
      else .ok .conditions
  let drafts ← scope.branches 1 spec.branches
  let draft := drafts.foldl (fun draft (condition, branch) => draft.push condition branch) start
  return if spec.firstMatch then draft.firstMatch else draft

def ruleEntry (scope : Scope) (spec : RuleSpec) : Except SchemaError DraftEntry := do
  let body ← scope.rule spec
  return { key := spec.event, body, mode := if spec.restart then .restart else .parallel }

def trigger (scope : Scope) (spec : TriggerSpec) : Except SchemaError StateTrigger := do
  let start : StateTrigger := { entity := spec.entity }
  let filtered := if spec.comingFrom.isEmpty then start else start.comingFrom spec.comingFrom
  let filtered := if spec.goingTo.isEmpty then filtered else filtered.goingTo spec.goingTo
  match spec.condition with
  | none => return filtered
  | some text => do
    let condition ← scope.vocabulary.expression text
    return filtered.when condition

/-- A state without its groups. -/
def state (scope : Scope) (spec : StateSpec) : Except SchemaError State := do
  let condition ← scope.vocabulary.expression spec.condition
  let sideEffects ←
    match spec.actions with
    | none => pure []
    | some values => do
      let tree ← scope.actions values
      tree.normalize
  let activatedBy ← spec.activatedBy.mapM scope.trigger
  let affectedBy ← spec.affectedBy.mapM scope.trigger
  return { name := spec.name, condition, sideEffects, activatedBy, affectedBy }

def addStates (scope : Scope) (machine : StateMachine) (specs : List StateSpec) :
    Except SchemaError StateMachine :=
  specs.foldlM
    (fun machine spec => do
      let state ← scope.state spec
      let (machine, _) ← machine.add state
      return machine)
    machine

end Scope

namespace StateMachine

/-- The state a name in a group refers to. The inverted state of `!name` is made
when it is first needed. -/
def reference (machine : StateMachine) (text : String) :
    Except SchemaError (StateMachine × StateId) :=
  let (inverted, name) :=
    match text.toList with
    | '!' :: rest => (true, String.ofList (Text.trim rest))
    | characters => (false, String.ofList (Text.trim characters))
  match machine.find? name with
  | none => .error (.unknownName .state name)
  | some id => if inverted then machine.invert id else .ok (machine, id)

/-- The members of a group by name. -/
def references (machine : StateMachine) :
    List String → Except SchemaError (StateMachine × List StateId)
  | [] => .ok (machine, [])
  | name :: rest => do
    let (machine, id) ← machine.reference name
    let (machine, ids) ← machine.references rest
    return (machine, id :: ids)

/-- Adds the groups of the state with an id. -/
def addGroups (machine : StateMachine) (id : StateId) (groups : List (List String)) :
    Except SchemaError StateMachine :=
  groups.foldlM
    (fun machine names => do
      let (machine, members) ← machine.references names
      machine.addDependency id members)
    machine

end StateMachine

namespace Scope

/-- The state machine of a rule file. Groups may name states declared further
down, so they are added after all states. -/
def machine (scope : Scope) (specs : List StateSpec) : Except SchemaError StateMachine := do
  let machine ← scope.addStates {} specs
  specs.zipIdx.foldlM (fun machine (spec, id) => machine.addGroups id spec.dependsOn) machine

/-- The draft entries of the states of a rule file. -/
def stateEntries (scope : Scope) (specs : List StateSpec) : Except SchemaError EventDraft :=
  if specs.isEmpty then .ok []
  else do
    let machine ← scope.machine specs
    machine.draft

end Scope

def RuleFile.resolve (vocabulary : Vocabulary) (file : RuleFile) :
    Except SchemaError ResolvedRules := do
  let scope : Scope := { vocabulary, groups := file.groups }
  file.groups.keys.forM fun name => do
    let _ ← scope.group name
    return ()
  let rules ← file.rules.mapM scope.ruleEntry
  let states ← scope.stateEntries file.states
  return { script := file.script, settings := file.settings, draft := rules ++ states }

end HomeRules
