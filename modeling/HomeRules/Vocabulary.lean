import HomeRules.Schema
import HomeRules.Schema.Error

/-! # Vocabularies

The named conditions and actions that rules may refer to. -/

set_option autoImplicit false

namespace HomeRules

structure Vocabulary where
  conditions : Dictionary Condition := []
  actions : Dictionary Action := []
  deriving Inhabited

namespace Vocabulary

/-- Adds a condition under its own name, replacing the one that was there. -/
def addCondition (vocabulary : Vocabulary) (condition : Condition) : Vocabulary :=
  { vocabulary with conditions := vocabulary.conditions.insert condition.name condition }

/-- Adds an action under its own name, replacing the one that was there. -/
def addAction (vocabulary : Vocabulary) (action : Action) : Vocabulary :=
  { vocabulary with actions := vocabulary.actions.insert action.name action }

def condition (vocabulary : Vocabulary) (name : String) : Except SchemaError Condition :=
  match vocabulary.conditions.get? name with
  | some condition => .ok condition
  | none => .error (.unknownName .condition name)

def action (vocabulary : Vocabulary) (name : String) : Except SchemaError Action :=
  match vocabulary.actions.get? name with
  | some action => .ok action
  | none => .error (.unknownName .action name)

/-- A vocabulary of lists of conditions and actions; later ones replace earlier
ones of the same name. -/
def ofLists (conditions : List Condition) (actions : List Action) : Vocabulary :=
  actions.foldl addAction (conditions.foldl addCondition {})

end Vocabulary

end HomeRules
