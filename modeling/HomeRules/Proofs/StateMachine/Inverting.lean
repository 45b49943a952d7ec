import HomeRules.Proofs.Schema.Reading
import HomeRules.Proofs.StateMachine.Declaring
import HomeRules.Proofs.StateMachine.Resolution

/-!
# When inverted states fire

An inverted state is triggered like the state that it inverts. Where the source of both is
affected by events, its triggers are guarded by the inverted condition, so that none fires
unless the condition of the other state does not hold. Where the source is activated by events
or depends on other states, both states have the very same triggers, and nothing guards them.
-/

set_option autoImplicit false

namespace HomeRules

/-- Whether the filter of a trigger holds; a missing filter does, a failing one does not. -/
def StateTrigger.fires (answers : Answers) (trigger : StateTrigger) : Bool :=
  trigger.condition.all fun condition => (condition.evaluate answers).holds

theorem StateTrigger.fires_when (answers : Answers) (trigger : StateTrigger)
    (condition : Condition) :
    (trigger.when condition).fires answers =
      (trigger.fires answers && (condition.evaluate answers).holds) := by
  rw [fires, fires, when]
  cases trigger.condition with
  | none => exact (Bool.true_and _).symm
  | some existing =>
      have both := Condition.conjunction_holds answers [existing, condition]
      rw [List.all_cons, List.all_cons, List.all_nil, Bool.and_true] at both
      exact both

theorem Condition.not_holds_iff (answers : Answers) (condition : Condition) :
    (condition.not.evaluate answers).holds = true ↔
      (condition.evaluate answers).answer = .ok false := by
  rw [evaluate_not]
  obtain ⟨answer, asked⟩ := condition.evaluate answers
  cases answer with
  | error failure => simp [Verdict.negate, Verdict.holds, Except.map]
  | ok value => cases value <;> simp [Verdict.negate, Verdict.holds, Except.map]

namespace StateMachine

variable {machine inverted later : StateMachine} {id copy : StateId} {state base source : State}

/-! ## What states of one source declare -/

theorem declares_affected {triggers : StateId → List StateTrigger}
    (found : machine.get? id = some state) (sourced : machine.get? (machine.source id) = some source)
    (unactivated : source.activatedBy = []) (affected : source.affectedBy ≠ []) :
    machine.declares triggers id = source.affectedBy.map (·.when state.condition) := by
  simp [declares, found, sourced, unactivated, affected]

/-- States of one source declare alike if the source is not affected by events. -/
theorem declares_unaffected {triggers : StateId → List StateTrigger} {other : StateId}
    {state' : State} (found : machine.get? id = some state)
    (found' : machine.get? other = some state') (same : machine.source other = machine.source id)
    (sourced : machine.get? (machine.source id) = some source)
    (unaffected : source.affectedBy = []) :
    machine.declares triggers other = machine.declares triggers id := by
  simp [declares, found, found', same, sourced, unaffected]

/-! ## Triggers of inverted copies -/

/-- Where a machine resolves, a state that inverting has made takes its triggers from the source
of its original. If no event affects the source, both states have the very same triggers. If
events do, each of the two guards the triggers of the source by its own condition: then, and only
then, one of the copy fires under its own filter when the condition of the original does not
hold. -/
theorem inverted_fires {triggers : List (List StateTrigger)} (reachable : machine.Reachable)
    (made : machine.invert id = .ok (inverted, machine.size)) (steps : Steps inverted later)
    (resolved : later.resolve = .ok triggers) :
    ∃ original copy source, later.get? id = some original ∧
      later.get? machine.size = some copy ∧ copy.condition = original.condition.not ∧
      later.get? (later.source id) = some source ∧
      (source.affectedBy = [] → triggers[machine.size]? = triggers[id]?) ∧
      (source.affectedBy ≠ [] →
        triggers[id]? = some (source.affectedBy.map (·.when original.condition)) ∧
        triggers[machine.size]? = some (source.affectedBy.map (·.when copy.condition)) ∧
        ∀ trigger : StateTrigger, ∀ answers,
          (trigger.when copy.condition).fires answers = true ↔
            trigger.fires answers = true ∧
              (original.condition.evaluate answers).answer = .ok false) := by
  have declared := reachable.declared
  obtain ⟨original, copy, found, copied, inverse⟩ := invert_kept declared made steps
  have same := inverse.source_eq copied
  obtain ⟨all, length_eq, solves⟩ := later.grounded_of_resolve resolved
  obtain ⟨source, sourced, -⟩ := grounded_iff.mp (all id (get?_lt found))
  have given {id : StateId} {state : State} (found : later.get? id = some state) :
      triggers[id]? = some (later.declares (fun id => triggers.getD id []) id) := by
    have inside : id < triggers.length := length_eq ▸ get?_lt found
    have declares : triggers.getD id [] = _ := solves id (get?_lt found)
    rw [List.getD_eq_getElem?_getD, List.getElem?_eq_getElem inside, Option.getD_some] at declares
    rw [List.getElem?_eq_getElem inside, declares]
  refine ⟨original, copy, source, found, copied, inverse.condition, sourced, ?_, ?_⟩
  · intro unaffected
    rw [given found, given copied, declares_unaffected found copied same sourced unaffected]
  · intro affected
    -- A source that is affected by events is not activated, so this is the branch that guards.
    have whole : Steps machine later := .head (.invert made) steps
    have unactivated := ((whole.declared declared).triggered _ _ sourced).resolve_right affected
    rw [given found, given copied, declares_affected found sourced unactivated affected,
      declares_affected copied (same ▸ sourced) unactivated affected]
    refine ⟨rfl, rfl, fun trigger answers => ?_⟩
    rw [StateTrigger.fires_when, Bool.and_eq_true, inverse.condition, Condition.not_holds_iff]

def sunMoves : StateTrigger where
  entity := "sun.sun"

def darkness : State where
  name := "dark"
  condition := .flag "dark" "dark"
  affectedBy := [sunMoves]

def notDark : State where
  name := "NOT dark"
  condition := darkness.condition.not
  inverseOf := some 0

def notNotDark : State where
  name := "NOT NOT dark"
  condition := darkness.condition
  inverseOf := some 0

def blinds : State where
  name := "blinds"
  condition := .flag "blinds" "blinds"
  dependsOn := [[1, 2]]

def dusk : StateMachine where
  states := [darkness, notDark]

def night : StateMachine where
  states := [darkness, notDark, notNotDark, blinds]

def nightTriggers : List (List StateTrigger) := [
  [sunMoves.when darkness.condition],
  [sunMoves.when notDark.condition],
  [sunMoves.when notNotDark.condition],
  [(sunMoves.when notDark.condition).when notNotDark.condition,
    (sunMoves.when notNotDark.condition).when notDark.condition]]

theorem dusk_reachable : dusk.Reachable := by
  have added : StateMachine.add {} darkness = .ok (⟨[darkness]⟩, 0) := by cbv
  have made : StateMachine.invert ⟨[darkness]⟩ 0 = .ok (dusk, 1) := by cbv
  exact .tail (.single (.add rfl added)) (.invert made)

/-- The inverse of an inverse fires when the inverse does not hold. -/
theorem inverted_fires_night :
    night.resolve = .ok nightTriggers ∧
    nightTriggers[2]? = some [sunMoves.when notNotDark.condition] ∧
    ∀ answers, (sunMoves.when notNotDark.condition).fires answers = true ↔
      sunMoves.fires answers = true ∧ (notDark.condition.evaluate answers).answer = .ok false := by
  have resolved : night.resolve = .ok nightTriggers := rfl
  have made : dusk.invert 1 = .ok (⟨[darkness, notDark, notNotDark]⟩, dusk.size) := by cbv
  have added : StateMachine.add ⟨[darkness, notDark, notNotDark]⟩ blinds = .ok (night, 3) := by cbv
  obtain ⟨original, copy, source, found, copied, -, sourced, -, guarded⟩ :=
    inverted_fires dusk_reachable made (.single (.add rfl added)) resolved
  cases found
  cases copied
  cases sourced
  obtain ⟨-, triggers, fires⟩ := guarded (List.cons_ne_nil _ _)
  exact ⟨resolved, triggers, fires sunMoves⟩

def home : State where
  name := "home"
  condition := .always
  activatedBy := [{ entity := "person.me" }]

/-- Somebody who comes home triggers the inverted state as well, although the condition that it
inverts holds. -/
theorem activated_inverse_unguarded :
    ∃ inverted triggers, Reachable ⟨[home]⟩ ∧
      StateMachine.invert ⟨[home]⟩ 0 = .ok (inverted, 1) ∧
      inverted.resolve = .ok triggers ∧ triggers[1]? = some home.activatedBy ∧
      let answers : Answers := fun probe => probe.sensor.read {} .none
      (home.activatedBy.all fun trigger => trigger.fires answers) = true ∧
        (home.condition.evaluate answers).answer = .ok true := by
  have added : StateMachine.add {} home = .ok (⟨[home]⟩, 0) := by cbv
  exact ⟨_, _, .single (.add rfl added), rfl, rfl, rfl, rfl, rfl⟩

end StateMachine

end HomeRules
