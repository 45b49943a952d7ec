import HomeRules.Schema.Draft

/-! # Building schemas

Validates a draft and flattens its nested mappings: each leaf becomes one item,
guarded by the conjunction of the conditions on its path. The first fault in the
order of the draft is reported. -/

set_option autoImplicit false

namespace HomeRules

/-- The items of the branches of a mapping. `path` holds the conditions above
it, outermost first, and `depth` is the number of mappings around it. -/
def flattenBranches (kind : EventKind) (path : List Condition) (depth : Nat) :
    List (Condition × BranchDraft) → Except SchemaError (List GuardedActions)
  | [] => .ok []
  | (condition, .actions tree) :: rest => do
    let actions ← tree.normalizeAt depth
    let items ← flattenBranches kind path depth rest
    return ⟨Condition.conjunction (path ++ [condition]), actions⟩ :: items
  | (condition, .nested inner) :: rest =>
    if maxDepth ≤ depth + 1 then .error .tooDeep
    else if inner.isEmpty then .error (.emptyConditionSchema kind)
    else do
      let nested ← flattenBranches kind (path ++ [condition]) (depth + 1) inner
      let items ← flattenBranches kind path depth rest
      return nested ++ items

def ConditionDraft.build (kind : EventKind) : ConditionDraft → Except SchemaError ConditionSchema
  | .unconditional tree => do
    let actions ← tree.normalize
    return .unconditional actions
  | .conditional branches exclusive =>
    if branches.isEmpty then .error (.emptyConditionSchema kind)
    else do
      let items ← flattenBranches kind [] 0 branches
      return .conditional items exclusive

/-- Builds entries whose kinds must differ from those in `seen`. -/
def buildEntries (seen : List EventKind) : EventDraft → Except SchemaError (List SchemaEntry)
  | [] => .ok []
  | entry :: rest =>
    match EventKind.parse entry.key with
    | .error cause => .error (.unknownEventKind entry.key cause)
    | .ok kind =>
      if seen.contains kind then .error (.duplicateEventKind kind)
      else do
        let body ← entry.body.build kind
        let entries ← buildEntries (kind :: seen) rest
        return ⟨kind, body, entry.mode⟩ :: entries

/-- Builds a schema without an owner. -/
def EventDraft.build (draft : EventDraft) : Except SchemaError EventSchema := do
  let entries ← buildEntries [] draft
  return { entries }

end HomeRules
