import HomeRules.Condition.Evaluation

/-!
# Conjunctions

A conjunction is simplified when it is made, which changes its name and its tree but not
what it answers nor which probes it asks: its conditions are evaluated one after the other
until one does not hold.
-/

set_option autoImplicit false

namespace HomeRules

namespace Verdict

@[simp] theorem andThen_silent (verdict : Verdict) (value : Bool) :
    verdict.andThen value (.silent value) = verdict := by
  obtain ⟨answer, asked⟩ := verdict
  cases answer with
  | error failure => rfl
  | ok answer =>
      by_cases same : answer = value
      · simp [andThen, silent, same]
      · simp [andThen, same]

@[simp] theorem silent_andThen (value : Bool) (next : Verdict) :
    (Verdict.silent value).andThen value next = next := by
  simp [andThen, silent]

theorem andThen_assoc (first second third : Verdict) (value : Bool) :
    (first.andThen value second).andThen value third =
      first.andThen value (second.andThen value third) := by
  obtain ⟨answer, asked⟩ := first
  obtain ⟨answer', asked'⟩ := second
  cases answer with
  | error failure => rfl
  | ok answer =>
      by_cases same : answer = value
      · cases answer' with
        | error failure => simp [andThen, same]
        | ok answer' => by_cases same' : answer' = value <;> simp [andThen, same, same']
      · simp [andThen, same]

end Verdict

namespace Condition

variable (answers : Answers)

theorem evaluateAll_append (first second : List Condition) :
    evaluateAll answers (first ++ second) =
      (evaluateAll answers first).andThen true (evaluateAll answers second) := by
  induction first with
  | nil => simp [evaluateAll]
  | cons member rest previous =>
      rw [List.cons_append, evaluateAll, previous, evaluateAll, Verdict.andThen_assoc]

theorem evaluateAll_singleton (condition : Condition) :
    evaluateAll answers [condition] = condition.evaluate answers := by
  simp [evaluateAll]

/-- The members that a condition contributes to a conjunction are evaluated as it is. -/
theorem evaluateAll_conjuncts (condition : Condition) :
    evaluateAll answers condition.conjuncts = condition.evaluate answers := by
  cases condition with
  | all members => rw [conjuncts, evaluate]
  | leaf probe => exact evaluateAll_singleton answers _
  | negation inner => exact evaluateAll_singleton answers _
  | any members => exact evaluateAll_singleton answers _

/-- A conjunction is evaluated as its conditions are, one after the other. -/
theorem evaluate_conjunction (conditions : List Condition) :
    (conjunction conditions).evaluate answers = evaluateAll answers conditions := by
  have members : evaluateAll answers (conditions.flatMap conjuncts) =
      evaluateAll answers conditions := by
    induction conditions with
    | nil => rfl
    | cons condition rest previous =>
        rw [List.flatMap_cons, evaluateAll_append, previous, evaluateAll_conjuncts, evaluateAll]
  rw [← members, conjunction]
  split
  case h_1 member only => rw [only, evaluateAll_singleton]
  case h_2 => rw [evaluate]

theorem evaluateIn_conjunction_singleton (world : World) (payload : Payload)
    (condition : Condition) :
    (conjunction [condition]).evaluateIn world payload = condition.evaluateIn world payload := by
  rw [evaluateIn, evaluate_conjunction, evaluateAll_singleton]
  rfl

end Condition

end HomeRules
