import HomeRules.Text.Split

/-! # Failures of user code

Conditions, actions and scripts are supplied by users and may fail in two ways:
they return an error, which names its causes from the outside in, or they panic. -/

set_option autoImplicit false

namespace HomeRules

inductive Failure where
  /-- An error and its causes, outermost first. -/
  | error (chain : List String)
  /-- A panic, whose message is missing when it carried something other than text. -/
  | panic (message : Option String)
  deriving DecidableEq, Repr, Inhabited

namespace Failure

/-- The message of a panic; one without text is named as such. -/
def panicText (message : Option String) : String :=
  message.getD "non-string panic payload"

/-- The wording of a failure where errors and panics are told apart by it. -/
def text : Failure → String
  | .error chain => Text.joined ": " chain
  | .panic message => "panicked: " ++ panicText message

end Failure

/-- A condition that failed, which is neither true nor false. -/
structure ConditionFailure where
  condition : String
  failure : Failure
  deriving DecidableEq, Repr

def ConditionFailure.message (failed : ConditionFailure) : String :=
  "condition '" ++ failed.condition ++ "' failed: " ++ failed.failure.text

structure ActionFailure where
  action : String
  failure : Failure
  deriving DecidableEq, Repr

def ActionFailure.message (failed : ActionFailure) : String :=
  "action '" ++ failed.action ++ "' failed: " ++ failed.failure.text

end HomeRules
