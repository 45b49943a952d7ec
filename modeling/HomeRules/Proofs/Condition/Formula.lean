import HomeRules.Proofs.Condition.Expression

/-!
# Formulas

A formula says how conditions are combined, with nothing simplified. It is read from left to
right, and reading ends as soon as the answer is known. The condition that is made of it asks
the same probes in the same order and answers the same, however much was flattened, collapsed
or cancelled when it was made.
-/

set_option autoImplicit false

namespace HomeRules

inductive Formula where
  | leaf (probe : Probe)
  | not (inner : Formula)
  | and (left right : Formula)
  | or (left right : Formula)
  | all (members : List Formula)
  | any (members : List Formula)

/-- What is asked and answered when a formula is read as it is written. A conjunction goes on
after a member that holds, a disjunction after one that does not; any other answer, a failure
included, is the answer of the whole. A failure is never negated. -/
inductive Reads (answers : Answers) :
    Formula → List Probe → Except ConditionFailure Bool → Prop where
  | replies {probe : Probe} {value : Bool} (answered : answers probe = .ok value) :
      Reads answers (.leaf probe) [probe] (.ok value)
  | fails {probe : Probe} {failure : Failure} (failed : answers probe = .error failure) :
      Reads answers (.leaf probe) [probe] (.error ⟨probe.name, failure⟩)
  | not {inner : Formula} {asked : List Probe} {value : Bool}
      (read : Reads answers inner asked (.ok value)) : Reads answers (.not inner) asked (.ok !value)
  | notFails {inner : Formula} {asked : List Probe} {failure : ConditionFailure}
      (read : Reads answers inner asked (.error failure)) :
      Reads answers (.not inner) asked (.error failure)
  | and {left right : Formula} {asked : List Probe} {answer : Except ConditionFailure Bool}
      (read : Reads answers (.all [left, right]) asked answer) :
      Reads answers (.and left right) asked answer
  | or {left right : Formula} {asked : List Probe} {answer : Except ConditionFailure Bool}
      (read : Reads answers (.any [left, right]) asked answer) :
      Reads answers (.or left right) asked answer
  | allNone : Reads answers (.all []) [] (.ok true)
  | allOn {member : Formula} {rest : List Formula} {asked later : List Probe}
      {answer : Except ConditionFailure Bool} (first : Reads answers member asked (.ok true))
      (others : Reads answers (.all rest) later answer) :
      Reads answers (.all (member :: rest)) (asked ++ later) answer
  | allEnds {member : Formula} {rest : List Formula} {asked : List Probe}
      {answer : Except ConditionFailure Bool} (first : Reads answers member asked answer)
      (ends : answer ≠ .ok true) : Reads answers (.all (member :: rest)) asked answer
  | anyNone : Reads answers (.any []) [] (.ok false)
  | anyOn {member : Formula} {rest : List Formula} {asked later : List Probe}
      {answer : Except ConditionFailure Bool} (first : Reads answers member asked (.ok false))
      (others : Reads answers (.any rest) later answer) :
      Reads answers (.any (member :: rest)) (asked ++ later) answer
  | anyEnds {member : Formula} {rest : List Formula} {asked : List Probe}
      {answer : Except ConditionFailure Bool} (first : Reads answers member asked answer)
      (ends : answer ≠ .ok false) : Reads answers (.any (member :: rest)) asked answer

namespace Formula

mutual

/-- The condition that combining makes of a formula. -/
def condition : Formula → Condition
  | .leaf probe => .leaf probe
  | .not inner => inner.condition.not
  | .and left right => left.condition.and right.condition
  | .or left right => left.condition.or right.condition
  | .all members => .conjunction (conditions members)
  | .any members => .disjunction (conditions members)

def conditions : List Formula → List Condition
  | [] => []
  | member :: rest => member.condition :: conditions rest

end

mutual

/-- A formula as a condition in which nothing is simplified. -/
def literal : Formula → Condition
  | .leaf probe => .leaf probe
  | .not inner => .negation inner.literal
  | .and left right => .all [left.literal, right.literal]
  | .or left right => .any [left.literal, right.literal]
  | .all members => .all (literals members)
  | .any members => .any (literals members)

def literals : List Formula → List Condition
  | [] => []
  | member :: rest => member.literal :: literals rest

end

end Formula

/-! ## Combining two and more -/

namespace Verdict

variable {verdict : Verdict} {value : Bool}

theorem andThen_of_answer (same : verdict.answer = .ok value) (next : Verdict) :
    verdict.andThen value next = ⟨next.answer, verdict.asked ++ next.asked⟩ := by
  simp [andThen, same]

theorem andThen_of_other (other : verdict.answer ≠ .ok value) (next : Verdict) :
    verdict.andThen value next = verdict := by
  obtain ⟨answer, asked⟩ := verdict
  cases answer with
  | error failure => rfl
  | ok answer =>
      have different : answer ≠ value := fun same => other (congrArg _ same)
      simp [andThen, different]

end Verdict

namespace Condition

variable (answers : Answers)

theorem evaluate_conjunction_eq (conditions : List Condition) :
    (conjunction conditions).evaluate answers =
      .inTurn true (conditions.map (·.evaluate answers)) := by
  rw [evaluate_conjunction, evaluateAll_eq]

theorem evaluate_conjunction_cons (first : Condition) (rest : List Condition) :
    (conjunction (first :: rest)).evaluate answers =
      (first.evaluate answers).andThen true ((conjunction rest).evaluate answers) := by
  rw [evaluate_conjunction_eq, List.map_cons, Verdict.inTurn_cons, evaluate_conjunction_eq]

theorem evaluate_disjunction_cons (first : Condition) (rest : List Condition) :
    (disjunction (first :: rest)).evaluate answers =
      (first.evaluate answers).andThen false ((disjunction rest).evaluate answers) := by
  rw [evaluate_disjunction, List.map_cons, Verdict.inTurn_cons, evaluate_disjunction]

end Condition

/-! ## Reading and evaluating -/

section Reading

variable {answers : Answers} {formula : Formula} {asked : List Probe}
  {answer : Except ConditionFailure Bool}

theorem Reads.evaluate (reads : Reads answers formula asked answer) :
    formula.condition.evaluate answers = ⟨answer, asked⟩ := by
  induction reads with
  | replies answered =>
      rw [Formula.condition, Condition.evaluate, Probe.verdict, answered]
      rfl
  | fails failed =>
      rw [Formula.condition, Condition.evaluate, Probe.verdict, failed]
      rfl
  | not _ read =>
      rw [Formula.condition, Condition.evaluate_not, read]
      rfl
  | notFails _ read =>
      rw [Formula.condition, Condition.evaluate_not, read]
      rfl
  | and _ read => exact read
  | or _ read => exact read
  | allNone => rfl
  | allOn _ _ first others =>
      rw [Formula.condition, Formula.conditions, Condition.evaluate_conjunction_cons, first,
        ← Formula.condition, others]
      exact Verdict.andThen_of_answer rfl _
  | allEnds _ ends first =>
      rw [Formula.condition, Formula.conditions, Condition.evaluate_conjunction_cons, first]
      exact Verdict.andThen_of_other ends _
  | anyNone => rfl
  | anyOn _ _ first others =>
      rw [Formula.condition, Formula.conditions, Condition.evaluate_disjunction_cons, first,
        ← Formula.condition, others]
      exact Verdict.andThen_of_answer rfl _
  | anyEnds _ ends first =>
      rw [Formula.condition, Formula.conditions, Condition.evaluate_disjunction_cons, first]
      exact Verdict.andThen_of_other ends _

def Formula.Answered (answers : Answers) (formula : Formula) : Prop :=
  ∃ asked answer, Reads answers formula asked answer

theorem Formula.Answered.all_cons {member : Formula} {rest : List Formula}
    (first : member.Answered answers) (others : (Formula.all rest).Answered answers) :
    (Formula.all (member :: rest)).Answered answers := by
  obtain ⟨asked, answer, first⟩ := first
  obtain ⟨later, other, others⟩ := others
  by_cases on : answer = .ok true
  · subst on
    exact ⟨_, _, .allOn first others⟩
  · exact ⟨_, _, .allEnds first on⟩

theorem Formula.Answered.any_cons {member : Formula} {rest : List Formula}
    (first : member.Answered answers) (others : (Formula.any rest).Answered answers) :
    (Formula.any (member :: rest)).Answered answers := by
  obtain ⟨asked, answer, first⟩ := first
  obtain ⟨later, other, others⟩ := others
  by_cases on : answer = .ok false
  · subst on
    exact ⟨_, _, .anyOn first others⟩
  · exact ⟨_, _, .anyEnds first on⟩

mutual

theorem Formula.answered (answers : Answers) : (formula : Formula) → formula.Answered answers
  | .leaf probe => by
      cases answered : answers probe with
      | ok value => exact ⟨_, _, .replies answered⟩
      | error failure => exact ⟨_, _, .fails answered⟩
  | .not inner => by
      obtain ⟨asked, answer, read⟩ := inner.answered answers
      cases answer with
      | ok value => exact ⟨_, _, .not read⟩
      | error failure => exact ⟨_, _, .notFails read⟩
  | .and left right => by
      have second := (right.answered answers).all_cons ⟨_, _, .allNone⟩
      obtain ⟨asked, answer, read⟩ := (left.answered answers).all_cons second
      exact ⟨asked, answer, .and read⟩
  | .or left right => by
      have second := (right.answered answers).any_cons ⟨_, _, .anyNone⟩
      obtain ⟨asked, answer, read⟩ := (left.answered answers).any_cons second
      exact ⟨asked, answer, .or read⟩
  | .all members => Formula.answered_all answers members
  | .any members => Formula.answered_any answers members

theorem Formula.answered_all (answers : Answers) : (members : List Formula) →
    (Formula.all members).Answered answers
  | [] => ⟨_, _, .allNone⟩
  | member :: rest => (member.answered answers).all_cons (Formula.answered_all answers rest)

theorem Formula.answered_any (answers : Answers) : (members : List Formula) →
    (Formula.any members).Answered answers
  | [] => ⟨_, _, .anyNone⟩
  | member :: rest => (member.answered answers).any_cons (Formula.answered_any answers rest)

end

theorem reads_iff :
    Reads answers formula asked answer ↔ formula.condition.evaluate answers = ⟨answer, asked⟩ := by
  refine ⟨Reads.evaluate, fun evaluated => ?_⟩
  -- Every formula has a reading, and all its readings agree with the one evaluation.
  obtain ⟨asked', answer', read⟩ := formula.answered answers
  cases read.evaluate.symm.trans evaluated
  exact read

/-- A probe that fails when it is asked gives the answer. -/
theorem Reads.failure (reads : Reads answers formula asked answer) {probe : Probe}
    (reached : probe ∈ asked) {failure : Failure} (failed : answers probe = .error failure) :
    answer = .error ⟨probe.name, failure⟩ := by
  induction reads with
  | replies answered =>
      cases List.mem_singleton.mp reached
      cases answered.symm.trans failed
  | fails found =>
      cases List.mem_singleton.mp reached
      cases found.symm.trans failed
      rfl
  | not _ read => cases read reached
  | notFails _ read => exact read reached
  | and _ read => exact read reached
  | or _ read => exact read reached
  | allNone => cases reached
  | allOn _ _ first others =>
      rcases List.mem_append.mp reached with early | late
      · cases first early
      · exact others late
  | allEnds _ _ first => exact first reached
  | anyNone => cases reached
  | anyOn _ _ first others =>
      rcases List.mem_append.mp reached with early | late
      · cases first early
      · exact others late
  | anyEnds _ _ first => exact first reached

end Reading

/-! ## Simplifying -/

mutual

theorem Formula.evaluate_literal (answers : Answers) : (formula : Formula) →
    formula.literal.evaluate answers = formula.condition.evaluate answers
  | .leaf _ => rfl
  | .not inner => by
      rw [literal, condition, Condition.evaluate, Condition.evaluate_not,
        inner.evaluate_literal answers]
  | .and left right => by
      rw [literal, condition, Condition.and, Condition.evaluate, Condition.evaluateAll_eq,
        Condition.evaluate_conjunction_eq]
      simp only [List.map_cons, List.map_nil, left.evaluate_literal answers,
        right.evaluate_literal answers]
  | .or left right => by
      rw [literal, condition, Condition.or, Condition.evaluate, Condition.evaluateAny_eq,
        Condition.evaluate_disjunction]
      simp only [List.map_cons, List.map_nil, left.evaluate_literal answers,
        right.evaluate_literal answers]
  | .all members => by
      rw [literal, condition, Condition.evaluate, Condition.evaluateAll_eq,
        Condition.evaluate_conjunction_eq, Formula.evaluate_literals answers members]
  | .any members => by
      rw [literal, condition, Condition.evaluate, Condition.evaluateAny_eq,
        Condition.evaluate_disjunction, Formula.evaluate_literals answers members]

theorem Formula.evaluate_literals (answers : Answers) : (members : List Formula) →
    (literals members).map (·.evaluate answers) = (conditions members).map (·.evaluate answers)
  | [] => rfl
  | member :: rest => by
      rw [literals, conditions, List.map_cons, List.map_cons, member.evaluate_literal answers,
        Formula.evaluate_literals answers rest]

end

/-- Evaluating what was made of a formula is reading the formula. Nothing that is simplified on
the way shows in an answer or in what is asked for it, and a failure that is reached is the
answer, under whatever negations it stands. -/
theorem Formula.evaluates_as_read (answers : Answers) (formula : Formula) :
    (∀ asked answer, Reads answers formula asked answer ↔
      formula.condition.evaluate answers = ⟨answer, asked⟩) ∧
    formula.condition.evaluate answers = formula.literal.evaluate answers ∧
    ∀ probe ∈ (formula.condition.evaluate answers).asked, ∀ failure,
      answers probe = .error failure →
      (formula.condition.evaluate answers).answer = .error ⟨probe.name, failure⟩ := by
  refine ⟨fun asked answer => reads_iff, (formula.evaluate_literal answers).symm, ?_⟩
  intro probe reached failure failed
  obtain ⟨asked, answer, read⟩ := formula.answered answers
  rw [read.evaluate] at reached ⊢
  exact read.failure reached failed

end HomeRules
