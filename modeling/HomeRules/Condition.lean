import HomeRules.Failure
import HomeRules.World

/-! # Conditions

A condition is a probe or a combination of conditions by negation, conjunction
and disjunction. Combining simplifies: a conjunction absorbs the members of its
conjunctions, a disjunction those of its disjunctions, a conjunction of one is
that one, and a second negation cancels the first. -/

set_option autoImplicit false

namespace HomeRules

inductive Sensor where
  | constant (value : Bool)
  | flag (name : String)
  | entityIs (entity state : String)
  | failing (failure : Failure)
  | newStateIs (state : String)
  | oldStateIs (state : String)
  | newStateIn (states : List String)
  | oldStateIn (states : List String)
  | datumIs (key value : String)
  | tickIs (modulus remainder : Nat)
  deriving DecidableEq, Repr, Inhabited

/-- Whether a callable receives the payload of the event. -/
inductive Arity where
  | nullary
  | unary
  deriving DecidableEq, Repr, Inhabited

/-- A named predicate. An announced one appears in the journal when it is asked. -/
structure Probe where
  name : String
  arity : Arity
  sensor : Sensor
  announced : Bool := false
  deriving DecidableEq, Repr, Inhabited

/-- A predicate on events and the world. -/
inductive Condition where
  | leaf (probe : Probe)
  | negation (inner : Condition)
  | all (members : List Condition)
  | any (members : List Condition)
  deriving Repr, Inhabited

namespace Condition

mutual

/-- The name of a condition, which spells out how it was combined. -/
def name : Condition → String
  | .leaf probe => probe.name
  | .negation inner => "!" ++ inner.name
  | .all members => "(" ++ Text.joined " & " (names members) ++ ")"
  | .any members => "(" ++ Text.joined " | " (names members) ++ ")"

def names : List Condition → List String
  | [] => []
  | member :: rest => member.name :: names rest

end

/-- Whether a condition is a single predicate of the payload. -/
def isUnary : Condition → Bool
  | .leaf probe => probe.arity = .unary
  | _ => false

/-- The members a condition contributes to a conjunction. -/
def conjuncts : Condition → List Condition
  | .all members => members
  | condition => [condition]

/-- The members a condition contributes to a disjunction. -/
def disjuncts : Condition → List Condition
  | .any members => members
  | condition => [condition]

def conjunction (conditions : List Condition) : Condition :=
  match conditions.flatMap conjuncts with
  | [member] => member
  | members => .all members

def disjunction (conditions : List Condition) : Condition :=
  .any (conditions.flatMap disjuncts)

def not : Condition → Condition
  | .negation inner => inner
  | condition => .negation condition

/-- Both conditions, the left one first. -/
def and (left right : Condition) : Condition :=
  conjunction [left, right]

/-- Either condition, the left one first. -/
def or (left right : Condition) : Condition :=
  disjunction [left, right]

/-! ## Conditions every vocabulary can make -/

def always : Condition :=
  .leaf { name := "always", arity := .nullary, sensor := .constant true }

/-- Texts in increasing order without repetition. -/
def sortedStates (states : List String) : List String :=
  (Dictionary.ofList (states.map fun state => (state, ()))).keys

/-- Holds when a state change came from one of `states`. -/
def oldStateIn (states : List String) : Condition :=
  let sorted := sortedStates states
  .leaf {
    name := "old_states[" ++ Text.joined ", " sorted ++ "]", arity := .unary,
    sensor := .oldStateIn sorted }

/-- Holds when a state change went to one of `states`. -/
def newStateIn (states : List String) : Condition :=
  let sorted := sortedStates states
  .leaf {
    name := "new_states[" ++ Text.joined ", " sorted ++ "]", arity := .unary,
    sensor := .newStateIn sorted }

/-- Reads a flag each time it is asked. -/
def flag (name flagName : String) : Condition :=
  .leaf { name, arity := .nullary, sensor := .flag flagName }

end Condition

end HomeRules
