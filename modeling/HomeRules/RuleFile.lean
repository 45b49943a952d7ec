import HomeRules.Toml.Value

/-! # Rule files

What a rule file says, before its names are looked up. A rule binds an event key
to actions or to branches, a state belongs to the state machine of the file, and
a file may name a native script to run with it. -/

set_option autoImplicit false

namespace HomeRules

/-- A branch as it is written: actions or inner branches under a condition. -/
inductive BranchSpec where
  | mk (condition : String) (actions : Option (List Toml.Value)) (branches : List BranchSpec)
  deriving Repr, Inhabited

namespace BranchSpec

def condition : BranchSpec → String
  | .mk condition _ _ => condition

/-- The actions of a branch, if it has an action list. -/
def actions : BranchSpec → Option (List Toml.Value)
  | .mk _ actions _ => actions

def branches : BranchSpec → List BranchSpec
  | .mk _ _ branches => branches

end BranchSpec

structure RuleSpec where
  event : String := ""
  actions : Option (List Toml.Value) := none
  firstMatch : Bool := false
  restart : Bool := true
  branches : List BranchSpec := []
  deriving Repr, Inhabited

/-- A trigger of a state as it is written. -/
structure TriggerSpec where
  entity : String := ""
  comingFrom : List String := []
  goingTo : List String := []
  condition : Option String := none
  deriving Repr, Inhabited

/-- A state as it is written. In a group `!name` is the inverted state. -/
structure StateSpec where
  name : String := ""
  condition : String := ""
  actions : Option (List Toml.Value) := none
  activatedBy : List TriggerSpec := []
  affectedBy : List TriggerSpec := []
  dependsOn : List (List String) := []
  deriving Repr, Inhabited

/-- Named action lists that rules refer to. -/
abbrev Groups := Dictionary (List Toml.Value)

structure RuleFile where
  script : Option String := none
  settings : Toml.Table := []
  groups : Groups := []
  rules : List RuleSpec := []
  states : List StateSpec := []
  deriving Repr, Inhabited

end HomeRules
