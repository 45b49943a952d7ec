import HomeRules.Event.Key

/-! # Rejected rule structures

Why a rule structure cannot be built. Defects are faults of the structure itself;
the other errors concern keys, names and nesting. -/

set_option autoImplicit false

namespace HomeRules

/-- The deepest nesting of condition mappings or action lists that is accepted. -/
def maxDepth : Nat := 8

/-- What a name that is not defined was meant to refer to. -/
inductive Referent where
  | condition
  | action
  | group
  | state
  deriving DecidableEq, Repr

/-- The word for what a name was meant to refer to. -/
def Referent.word : Referent → String
  | .condition => "condition"
  | .action => "action"
  | .group => "group"
  | .state => "state"

/-- A fault in the shape of a rule or a state. -/
inductive Defect where
  | firstMatchWithActions (event : String)
  | ruleWithoutBody (event : String)
  | branchWithTwoBodies (condition : String)
  | branchWithoutBody (condition : String)
  | malformedExpression (expression : String)
  | emptyStateName (expression : String)
  | invalidDelay (entry : String)
  | notAnAction (found : String)
  | activatedAndAffected (state : String)
  | repeatedState (state : String)
  | emptyDependencyGroup (state : String)
  | invertedSideEffects (state : String)
  | ungroundedStates (states : List String)
  deriving DecidableEq, Repr

def Defect.message : Defect → String
  | .firstMatchWithActions event =>
    "rule for '" ++ event ++ "' combines first_match with top-level actions"
  | .ruleWithoutBody event => "rule for '" ++ event ++ "' has neither actions nor branches"
  | .branchWithTwoBodies condition =>
    "branch '" ++ condition ++ "' has both actions and nested branches"
  | .branchWithoutBody condition =>
    "branch '" ++ condition ++ "' has neither actions nor nested branches"
  | .malformedExpression expression => "malformed condition expression '" ++ expression ++ "'"
  | .emptyStateName expression => "empty state name in '" ++ expression ++ "'"
  | .invalidDelay entry => "invalid delay in '" ++ entry ++ "'"
  | .notAnAction found => "expected an action name or list, found " ++ found
  | .activatedAndAffected state =>
    "state '" ++ state ++ "' is both activated and affected by events"
  | .repeatedState state => "state '" ++ state ++ "' is declared more than once"
  | .emptyDependencyGroup state => "state '" ++ state ++ "' has an empty dependency group"
  | .invertedSideEffects state =>
    "state '" ++ state ++ "' has side effects and cannot be inverted"
  | .ungroundedStates states =>
    "states without a way to become active: " ++ Text.joined ", " states

inductive SchemaError where
  | unknownEventKind (key : String) (cause : KeyError)
  | duplicateEventKind (kind : EventKind)
  | emptyConditionSchema (kind : EventKind)
  | tooDeep
  | cycle (group : String)
  | unknownName (referent : Referent) (name : String)
  | invalid (defect : Defect)
  deriving DecidableEq, Repr

/-- The wording of a rejected rule structure. -/
def SchemaError.message : SchemaError → String
  | .unknownEventKind key cause => "unrecognized event key '" ++ key ++ "': " ++ cause.message
  | .duplicateEventKind kind => "event '" ++ kind.render ++ "' is declared more than once"
  | .emptyConditionSchema kind => "condition mapping for '" ++ kind.render ++ "' has no entries"
  | .tooDeep => "rule structure nested deeper than " ++ Text.numeral maxDepth ++ " levels"
  | .cycle group => "group '" ++ group ++ "' refers to itself"
  | .unknownName referent name => "unknown " ++ referent.word ++ " '" ++ name ++ "'"
  | .invalid defect => defect.message

/-- The messages of a rejected rule structure and of its cause, outermost first. -/
def SchemaError.chain (rejected : SchemaError) : List String :=
  match rejected with
  | .unknownEventKind _ cause => [rejected.message, cause.message]
  | _ => [rejected.message]

end HomeRules
