import HomeRules.Action.Tree
import HomeRules.RuleFile
import HomeRules.Vocabulary

/-! # Action lists of rule files

The entries of an action list are names of actions, references `@name` to groups,
inner lists, and delays `sleep:<duration>`, which put off the rest of their list.
Inner lists, references and delays each go one level down, and there are
`maxDepth` levels below a list, so looking up names ends even where groups refer
to themselves. -/

set_option autoImplicit false

namespace HomeRules

/-- What the names of a rule file are looked up in. -/
structure Scope where
  vocabulary : Vocabulary
  groups : Groups := []

namespace Scope

/-- Looks up the entries of a list. -/
abbrev ListLookup := List String → List Toml.Value → Except SchemaError ActionTree

/-- The group with a name, whose members are looked up by `inner` and lie one
level below `depth`. `inProgress` are the groups being looked up around it. -/
def groupTree (scope : Scope) (inner : ListLookup) (depth : Nat) (inProgress : List String)
    (name : String) : Except SchemaError ActionTree :=
  if inProgress.contains name then .error (.cycle name)
  else
    match scope.groups.get? name with
    | none => .error (.unknownName .group name)
    | some members => do
      let tree ← inner (inProgress ++ [name]) members
      let actions ← tree.normalizeAt (depth + 1)
      return .one (.group ("@" ++ name) actions)

def nameTree (scope : Scope) (inner : ListLookup) (depth : Nat) (inProgress : List String)
    (name : String) : Except SchemaError ActionTree :=
  match Text.stripBeginning "@" name with
  | some group => scope.groupTree inner depth inProgress group
  | none => (scope.vocabulary.action name).map .one

/-- The entries of a list at a depth. Lists one level down are looked up by
`inner`. -/
def entryTrees (scope : Scope) (inner : ListLookup) (depth : Nat) (inProgress : List String) :
    List Toml.Value → Except SchemaError (List ActionTree)
  | [] => .ok []
  | .string name :: rest =>
    match Text.stripBeginning "sleep:" name with
    | some text =>
      match Duration.parse? text with
      | none => .error (.invalid (.invalidDelay name))
      | some delay => do
        let tree ← inner inProgress rest
        let actions ← tree.normalizeAt (depth + 1)
        return [.one (.after delay actions)]
    | none => do
      let tree ← scope.nameTree inner depth inProgress name
      let trees ← scope.entryTrees inner depth inProgress rest
      return tree :: trees
  | .array items :: rest => do
    let tree ← inner inProgress items
    let trees ← scope.entryTrees inner depth inProgress rest
    return tree :: trees
  | value :: _ => .error (.invalid (.notAnAction value.sort))

/-- Looks up a list that has as many levels at its disposal as the first argument
says, itself included. -/
def listTree (scope : Scope) : Nat → ListLookup
  | 0, _, _ => .error .tooDeep
  | levels + 1, inProgress, values =>
    (scope.entryTrees (scope.listTree levels) (maxDepth - levels) inProgress values).map .many

/-- Looks up the action list of a rule, a branch or a state. -/
def actions (scope : Scope) (values : List Toml.Value) : Except SchemaError ActionTree :=
  scope.listTree (maxDepth + 1) [] values

def group (scope : Scope) (name : String) : Except SchemaError ActionTree :=
  scope.groupTree (scope.listTree maxDepth) 0 [] name

end Scope

end HomeRules
