import HomeRules.Action.Tree
import HomeRules.Schema

/-! # Drafts of schemas

Rules as an author writes them. A condition draft is an action tree that always
runs, or an ordered mapping from conditions to branches, which may nest; an
event draft binds event keys to condition drafts. -/

set_option autoImplicit false

namespace HomeRules

/-- The value of a branch: actions, or an inner mapping. -/
inductive BranchDraft where
  | actions (tree : ActionTree)
  | nested (branches : List (Condition × BranchDraft))
  deriving Inhabited

/-- Actions that always run, or an ordered mapping from conditions to branches. -/
inductive ConditionDraft where
  | unconditional (tree : ActionTree)
  | conditional (branches : List (Condition × BranchDraft)) (exclusive : Bool)
  deriving Inhabited

namespace ConditionDraft

def conditions : ConditionDraft :=
  .conditional [] false

/-- Appends a branch. Actions that always ran become a first branch that always
matches. -/
def push (draft : ConditionDraft) (condition : Condition) (branch : BranchDraft) :
    ConditionDraft :=
  match draft with
  | .unconditional tree =>
    .conditional [(Condition.always, .actions tree), (condition, branch)] false
  | .conditional branches exclusive => .conditional (branches ++ [(condition, branch)]) exclusive

def when (draft : ConditionDraft) (condition : Condition) (tree : ActionTree) : ConditionDraft :=
  draft.push condition (.actions tree)

/-- Appends a branch whose value is itself a draft. Only its branches are kept. -/
def whenNested (draft : ConditionDraft) (condition : Condition) (nested : ConditionDraft) :
    ConditionDraft :=
  match nested with
  | .unconditional tree => draft.push condition (.actions tree)
  | .conditional branches _ => draft.push condition (.nested branches)

/-- Asks for the first matching branch only. Actions that always run stay as they
are. -/
def firstMatch : ConditionDraft → ConditionDraft
  | .conditional branches _ => .conditional branches true
  | draft => draft

end ConditionDraft

structure DraftEntry where
  key : String
  body : ConditionDraft
  mode : TriggerMode := .restart
  deriving Inhabited

/-- Bindings of event keys in the order they were written. -/
abbrev EventDraft := List DraftEntry

end HomeRules
