import HomeRules.Condition

/-! # Evaluating conditions

Evaluation goes from left to right and stops as soon as the answer is known. A
probe that fails ends it: the failure is the answer, whatever surrounds it. The
probes asked are part of the verdict, in order. -/

set_option autoImplicit false

namespace HomeRules

/-- What a sensor reports for a payload in a world. -/
def Sensor.read (world : World) (payload : Payload) : Sensor → Except Failure Bool
  | .constant value => .ok value
  | .flag name => .ok (world.flag name)
  | .entityIs entity state => .ok (world.entities.get? entity == some state)
  | .failing failure => .error failure
  | .newStateIs state => .ok (payload.newState == some state)
  | .oldStateIs state => .ok (payload.oldState == some state)
  | .newStateIn states => .ok (payload.newState.any states.contains)
  | .oldStateIn states => .ok (payload.oldState.any states.contains)
  | .datumIs key value => .ok (payload.datum key == some value)
  | .tickIs modulus remainder =>
    match payload with
    | .tick sequence =>
      if modulus = 0 then
        .error (.panic (some "attempt to calculate the remainder with a divisor of zero"))
      else .ok (sequence % modulus == remainder)
    | _ => .ok false

/-- The answer of a condition, and the probes asked to find it. -/
structure Verdict where
  answer : Except ConditionFailure Bool
  asked : List Probe

namespace Verdict

def silent (value : Bool) : Verdict := ⟨.ok value, []⟩

/-- Negates an answer; a failure stays a failure. -/
def negate (verdict : Verdict) : Verdict :=
  { verdict with answer := verdict.answer.map (!·) }

/-- Continues with `next` when the answer is `value`. -/
def andThen (verdict : Verdict) (value : Bool) (next : Verdict) : Verdict :=
  match verdict.answer with
  | .ok answer =>
    if answer = value then ⟨next.answer, verdict.asked ++ next.asked⟩ else verdict
  | .error _ => verdict

end Verdict

/-- What the probes of a condition answer. -/
abbrev Answers := Probe → Except Failure Bool

def Probe.verdict (answers : Answers) (probe : Probe) : Verdict :=
  ⟨(answers probe).mapError fun failure => ⟨probe.name, failure⟩, [probe]⟩

namespace Condition

mutual

/-- Evaluates a condition against the answers of its probes. -/
def evaluate (answers : Answers) : Condition → Verdict
  | .leaf probe => probe.verdict answers
  | .negation inner => (inner.evaluate answers).negate
  | .all members => evaluateAll answers members
  | .any members => evaluateAny answers members

/-- Evaluates members until one does not hold. -/
def evaluateAll (answers : Answers) : List Condition → Verdict
  | [] => .silent true
  | member :: rest => (member.evaluate answers).andThen true (evaluateAll answers rest)

/-- Evaluates members until one holds. -/
def evaluateAny (answers : Answers) : List Condition → Verdict
  | [] => .silent false
  | member :: rest => (member.evaluate answers).andThen false (evaluateAny answers rest)

end

/-- Evaluates a condition for a payload in a world. -/
def evaluateIn (world : World) (payload : Payload) (condition : Condition) : Verdict :=
  condition.evaluate fun probe => probe.sensor.read world payload

end Condition

structure ConditionValue (α : Type) where
  condition : Condition
  onTrue : α
  onFalse : α

/-- The value a condition selects for no event at all; a failure selects the
second one. -/
def ConditionValue.select {α : Type} (value : ConditionValue α) (verdict : Verdict) : α :=
  match verdict.answer with
  | .ok true => value.onTrue
  | _ => value.onFalse

/-- The warning when a value follows a condition that failed. -/
def ConditionValue.warning (failed : ConditionFailure) : String :=
  failed.message ++ "; using false branch"

end HomeRules
