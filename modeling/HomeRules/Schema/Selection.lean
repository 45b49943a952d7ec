import HomeRules.Condition.Evaluation
import HomeRules.Schema

/-! # Selection

Which actions of an entry an event selects. The guards are evaluated in declaration
order; an exclusive mapping ends at the first that holds. A guard that fails does
not select its actions and does not end the mapping. -/

set_option autoImplicit false

namespace HomeRules

/-- A guarded action list that was reached, and what its guard answered. -/
structure Reached where
  item : GuardedActions
  verdict : Verdict

namespace Reached

def holds (reached : Reached) : Bool :=
  match reached.verdict.answer with
  | .ok value => value
  | .error _ => false

def failure? (reached : Reached) : Option ConditionFailure :=
  match reached.verdict.answer with
  | .ok _ => none
  | .error failure => some failure

end Reached

/-- The items that are reached when `ask` gives the verdict of a condition. -/
def reachItems (ask : Condition → Verdict) (exclusive : Bool) : List GuardedActions → List Reached
  | [] => []
  | item :: rest =>
    let reached : Reached := ⟨item, ask item.condition⟩
    if exclusive && reached.holds then [reached]
    else reached :: reachItems ask exclusive rest

/-- The guarded items of an entry that are reached. -/
def ConditionSchema.reach (ask : Condition → Verdict) : ConditionSchema → List Reached
  | .unconditional _ => []
  | .conditional items exclusive => reachItems ask exclusive items

/-- The action lists that are selected, given the items that were reached. -/
def ConditionSchema.selected (reached : List Reached) : ConditionSchema → List (List Action)
  | .unconditional actions => [actions]
  | .conditional _ _ => (reached.filter Reached.holds).map (·.item.actions)

end HomeRules
