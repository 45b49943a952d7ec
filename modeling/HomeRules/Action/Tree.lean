import HomeRules.Action
import HomeRules.Schema.Error

/-! # Action trees

Actions as an author writes them: nothing, one action, or a list whose entries
may be lists. Normalizing turns inner lists into groups named after the actions
in them, and rejects lists nested deeper than `maxDepth`. -/

set_option autoImplicit false

namespace HomeRules

/-- Nothing, one action, or a list of action trees. -/
inductive ActionTree where
  | nothing
  | one (action : Action)
  | many (items : List ActionTree)
  deriving Repr, Inhabited

namespace ActionTree

/-- The name of a group made from a nested list. -/
def groupName (members : List Action) : String :=
  "[" ++ Text.joined ", " (Action.flatNames members) ++ "]"

/-- Normalizes the entries of a list that lies `depth` lists deep. -/
def normalizeItems (depth : Nat) : List ActionTree → Except SchemaError (List Action)
  | [] => .ok []
  | .nothing :: rest => normalizeItems depth rest
  | .one action :: rest => do
    let actions ← normalizeItems depth rest
    return action :: actions
  | .many items :: rest =>
    if maxDepth < depth + 1 then .error .tooDeep
    else do
      let members ← normalizeItems (depth + 1) items
      let actions ← normalizeItems depth rest
      return .group (groupName members) members :: actions

/-- Normalizes a tree that lies `depth` lists deep. -/
def normalizeAt (depth : Nat) (tree : ActionTree) : Except SchemaError (List Action) :=
  if maxDepth < depth then .error .tooDeep
  else
    match tree with
    | .nothing => .ok []
    | .one action => .ok [action]
    | .many items => normalizeItems depth items

def normalize (tree : ActionTree) : Except SchemaError (List Action) :=
  tree.normalizeAt 0

def ofList (actions : List Action) : ActionTree :=
  .many (actions.map .one)

end ActionTree

end HomeRules
