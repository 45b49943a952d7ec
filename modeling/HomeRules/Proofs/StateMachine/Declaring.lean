import HomeRules.Proofs.Condition.Expression
import HomeRules.Proofs.Faults
import HomeRules.StateMachine
import Mathlib.Data.List.Nodup
import Mathlib.Logic.Relation

/-!
# How machines come about

A machine is made by adding states and groups and by inverting states. States stay where they
are and only get more groups, names stay distinct, and a state that takes its triggers from
another one is the inverted copy of a state of the machine. A state and its inverted copy are
therefore found again whatever is declared later.
-/

set_option autoImplicit false

namespace HomeRules.StateMachine

/-! ## Steps -/

/-- One more declaration. A state that is added takes its triggers from no other state. -/
inductive Step (machine : StateMachine) : StateMachine → Prop where
  | add {state : State} {later : StateMachine} {id : StateId} (own : state.inverseOf = none)
      (added : machine.add state = .ok (later, id)) : Step machine later
  | addDependency {id : StateId} {group : List StateId} {later : StateMachine}
      (added : machine.addDependency id group = .ok later) : Step machine later
  | invert {id copy : StateId} {later : StateMachine}
      (made : machine.invert id = .ok (later, copy)) : Step machine later

abbrev Steps : StateMachine → StateMachine → Prop :=
  Relation.ReflTransGen Step

def Reachable (machine : StateMachine) : Prop :=
  Steps {} machine

def appended (machine : StateMachine) (state : State) : StateMachine :=
  ⟨machine.states ++ [state]⟩

def grouped (machine : StateMachine) (id : StateId) (group : List StateId) : StateMachine :=
  ⟨machine.states.modify id fun target => { target with dependsOn := target.dependsOn ++ [group] }⟩

/-- The copy that inverting a state appends. -/
def inverse (machine : StateMachine) (id : StateId) (base : State) : State where
  name := invertedName base.name
  condition := base.condition.not
  inverseOf := some (machine.source id)

variable {machine inverted later : StateMachine} {id copy : StateId} {state base : State}

theorem add_eq_ok (added : machine.add state = .ok (later, id)) :
    (state.activatedBy = [] ∨ state.affectedBy = []) ∧ machine.find? state.name = none ∧
      later = machine.appended state ∧ id = machine.size := by
  rw [add] at added
  split at added
  case isTrue => cases added
  case isFalse one =>
    split at added
    case isTrue => cases added
    case isFalse new =>
      obtain ⟨-, -, made⟩ := ok_of_bind added
      cases made
      refine ⟨?_, by simpa using new, rfl, rfl⟩
      simpa [Classical.or_iff_not_imp_left] using one

theorem addDependency_eq_ok {group : List StateId}
    (added : machine.addDependency id group = .ok later) :
    later = machine.grouped (machine.source id) group := by
  obtain ⟨_, -, added⟩ := ok_of_bind added
  obtain ⟨-, -, made⟩ := ok_of_bind added
  cases made
  rfl

theorem state_eq_ok (found : machine.state id = .ok state) : machine.get? id = some state := by
  rw [StateMachine.state] at found
  split at found
  case h_1 known => rw [known, Except.ok.inj found]
  case h_2 => cases found

theorem invert_eq_ok (made : machine.invert id = .ok (later, copy)) :
    ∃ base, machine.get? id = some base ∧ base.sideEffects = [] ∧
      (machine.find? (invertedName base.name) = some copy ∧ later = machine ∨
        machine.find? (invertedName base.name) = none ∧ copy = machine.size ∧
          later = machine.appended (machine.inverse id base)) := by
  obtain ⟨base, found, made⟩ := ok_of_bind made
  refine ⟨base, state_eq_ok found, ?_⟩
  split at made
  case isTrue => cases made
  case isFalse silent =>
    refine ⟨by simpa using silent, ?_⟩
    split at made
    case h_1 existing known =>
      cases made
      exact .inl ⟨known, rfl⟩
    case h_2 new =>
      cases made
      exact .inr ⟨new, rfl, rfl⟩

/-! ## Where states are -/

theorem get?_lt (found : machine.get? id = some state) : id < machine.size :=
  (List.getElem?_eq_some_iff.mp found).1

theorem get?_appended (found : machine.get? id = some state) (added : State) :
    (machine.appended added).get? id = some state := by
  rw [get?, appended, List.getElem?_append_left (get?_lt found)]
  exact found

theorem get?_appended_size (machine : StateMachine) (state : State) :
    (machine.appended state).get? machine.size = some state :=
  List.getElem?_concat_length

theorem get?_of_appended {added : State} (found : (machine.appended added).get? id = some state) :
    machine.get? id = some state ∨ id = machine.size ∧ state = added := by
  rw [get?, appended, List.getElem?_append] at found
  split at found
  case isTrue => exact .inl found
  case isFalse late =>
    obtain ⟨here, same⟩ := List.getElem?_eq_some_iff.mp found
    have place : id = machine.size :=
      Nat.le_antisymm (Nat.le_of_sub_eq_zero (Nat.lt_one_iff.mp here)) (Nat.not_lt.mp late)
    exact .inr ⟨place, by simpa using same.symm⟩

theorem get?_grouped (machine : StateMachine) (target : StateId) (group : List StateId)
    (id : StateId) :
    (machine.grouped target group).get? id = (machine.get? id).map fun state =>
      if target = id then { state with dependsOn := state.dependsOn ++ [group] } else state := by
  rw [get?, grouped, List.getElem?_modify]
  rfl

/-- The states of one machine are states of another one, where they may have more groups. -/
def Extends (machine later : StateMachine) : Prop :=
  ∀ id state, machine.get? id = some state →
    ∃ groups, later.get? id = some { state with dependsOn := state.dependsOn ++ groups }

theorem Extends.refl (machine : StateMachine) : machine.Extends machine :=
  fun _ state found => ⟨[], by rw [found, List.append_nil]⟩

theorem Extends.trans {last : StateMachine} (first : machine.Extends later)
    (next : later.Extends last) : machine.Extends last := by
  intro id state found
  obtain ⟨groups, found⟩ := first id state found
  obtain ⟨others, found⟩ := next id _ found
  exact ⟨groups ++ others, by rw [found, List.append_assoc]⟩

theorem extends_appended (machine : StateMachine) (state : State) :
    machine.Extends (machine.appended state) :=
  fun id old found => ⟨[], by rw [List.append_nil, get?_appended found]⟩

theorem extends_grouped (machine : StateMachine) (target : StateId) (group : List StateId) :
    machine.Extends (machine.grouped target group) := by
  intro id state found
  rw [get?_grouped, found, Option.map_some]
  by_cases same : target = id
  · exact ⟨[group], by rw [if_pos same]⟩
  · exact ⟨[], by rw [if_neg same, List.append_nil]⟩

theorem Step.extends (step : Step machine later) : machine.Extends later := by
  cases step with
  | add own added =>
      obtain ⟨-, -, rfl, -⟩ := add_eq_ok added
      exact extends_appended machine _
  | addDependency added =>
      rw [addDependency_eq_ok added]
      exact extends_grouped machine _ _
  | invert made =>
      obtain ⟨base, -, -, ⟨-, rfl⟩ | ⟨-, -, rfl⟩⟩ := invert_eq_ok made
      · exact .refl _
      · exact extends_appended machine _

theorem Steps.extends (steps : Steps machine later) : machine.Extends later := by
  induction steps with
  | refl => exact .refl machine
  | tail _ step previous => exact previous.trans step.extends

theorem Extends.source_eq (kept : machine.Extends later) (found : machine.get? id = some state) :
    later.source id = machine.source id := by
  obtain ⟨groups, same⟩ := kept id state found
  rw [source, source, same, found]
  rfl

/-! ## Names and copies -/

structure IsInverse (machine : StateMachine) (id : StateId) (base copy : State) : Prop where
  name : copy.name = invertedName base.name
  condition : copy.condition = base.condition.not
  silent : copy.sideEffects = []
  inverseOf : copy.inverseOf = some (machine.source id)

structure Declared (machine : StateMachine) : Prop where
  distinct : (machine.states.map (·.name)).Nodup
  triggered : ∀ id state, machine.get? id = some state →
    state.activatedBy = [] ∨ state.affectedBy = []
  inverted : ∀ id state, machine.get? id = some state → state.inverseOf ≠ none →
    ∃ original base, machine.get? original = some base ∧ machine.IsInverse original base state

theorem IsInverse.extends {base' copy' : State} (inverse : machine.IsInverse id base state)
    (kept : machine.Extends later) (found : machine.get? id = some base)
    (sameBase : ∃ groups, base' = { base with dependsOn := groups })
    (sameCopy : ∃ groups, copy' = { state with dependsOn := groups }) :
    later.IsInverse id base' copy' := by
  obtain ⟨_, rfl⟩ := sameBase
  obtain ⟨_, rfl⟩ := sameCopy
  exact ⟨inverse.name, inverse.condition, inverse.silent, kept.source_eq found ▸ inverse.inverseOf⟩

theorem Declared.appended (declared : machine.Declared) (new : machine.find? state.name = none)
    (triggered : state.activatedBy = [] ∨ state.affectedBy = [])
    (inverted : state.inverseOf ≠ none →
      ∃ id base, machine.get? id = some base ∧ machine.IsInverse id base state) :
    (machine.appended state).Declared := by
  have kept := extends_appended machine state
  refine ⟨?_, ?_, ?_⟩
  · rw [StateMachine.appended, List.map_append, List.map_singleton, List.nodup_append]
    refine ⟨declared.distinct, List.nodup_singleton _, ?_⟩
    rintro _ present _ last rfl
    obtain ⟨other, member, same⟩ := List.mem_map.mp present
    rw [List.mem_singleton] at last
    have differs := List.findIdx?_eq_none_iff.mp new other member
    simp [same, last] at differs
  · intro id other found
    rcases get?_of_appended found with before | ⟨-, rfl⟩
    · exact declared.triggered id other before
    · exact triggered
  · intro id other found mirrors
    obtain ⟨original, base, known, inverse⟩ : ∃ original base,
        machine.get? original = some base ∧ machine.IsInverse original base other := by
      rcases get?_of_appended found with before | ⟨-, rfl⟩
      · exact declared.inverted id other before mirrors
      · exact inverted mirrors
    exact ⟨original, base, get?_appended known state,
      inverse.extends kept known ⟨_, rfl⟩ ⟨_, rfl⟩⟩

theorem Declared.grouped (declared : machine.Declared) (target : StateId)
    (group : List StateId) : (machine.grouped target group).Declared := by
  have kept := extends_grouped machine target group
  have origin {id : StateId} {state : State}
      (found : (machine.grouped target group).get? id = some state) :
      ∃ old, machine.get? id = some old ∧ ∃ groups, state = { old with dependsOn := groups } := by
    rw [get?_grouped] at found
    obtain ⟨old, known, rfl⟩ := Option.map_eq_some_iff.mp found
    refine ⟨old, known, ?_⟩
    split
    · exact ⟨_, rfl⟩
    · exact ⟨_, rfl⟩
  refine ⟨?_, ?_, ?_⟩
  · -- Only groups differ, so the names are the same in the same places.
    have names : (machine.grouped target group).states.map (·.name) =
        machine.states.map (·.name) := by
      refine List.ext_getElem? fun id => ?_
      have same := get?_grouped machine target group id
      rw [get?, get?] at same
      rw [List.getElem?_map, List.getElem?_map, same, Option.map_map]
      congr 1
      funext state
      exact apply_ite State.name _ _ _ |>.trans (ite_self _)
    rw [names]
    exact declared.distinct
  · intro id state found
    obtain ⟨old, known, _, rfl⟩ := origin found
    exact declared.triggered id old known
  · intro id state found mirrors
    obtain ⟨old, known, same⟩ := origin found
    obtain ⟨original, base, there, inverse⟩ : ∃ original base,
        machine.get? original = some base ∧ machine.IsInverse original base old := by
      obtain ⟨_, rfl⟩ := same
      exact declared.inverted id old known mirrors
    obtain ⟨groups, now⟩ := kept original base there
    exact ⟨original, _, now, inverse.extends kept there ⟨_, rfl⟩ same⟩

theorem Step.declared (step : Step machine later) (declared : machine.Declared) :
    later.Declared := by
  cases step with
  | add own added =>
      obtain ⟨triggered, new, rfl, -⟩ := add_eq_ok added
      exact declared.appended new triggered fun mirrors => absurd own mirrors
  | addDependency added =>
      rw [addDependency_eq_ok added]
      exact declared.grouped _ _
  | invert made =>
      obtain ⟨base, found, -, ⟨-, rfl⟩ | ⟨new, -, rfl⟩⟩ := invert_eq_ok made
      · exact declared
      · exact declared.appended new (.inl rfl) fun _ => ⟨_, base, found, rfl, rfl, rfl, rfl⟩

theorem Steps.declared (steps : Steps machine later) (declared : machine.Declared) :
    later.Declared := by
  induction steps with
  | refl => exact declared
  | tail _ step previous => exact step.declared previous

theorem Reachable.declared (reachable : machine.Reachable) : machine.Declared := by
  refine Steps.declared reachable ⟨List.nodup_nil, ?_, ?_⟩
  · intro id state found
    cases found
  · intro id state found
    cases found

theorem Declared.id_eq (declared : machine.Declared) {other : StateId} {state' : State}
    (found : machine.get? id = some state) (found' : machine.get? other = some state')
    (same : state.name = state'.name) : id = other := by
  have inside : id < (machine.states.map (·.name)).length := by
    rw [List.length_map]
    exact get?_lt found
  rw [get?] at found found'
  refine (List.getElem?_inj inside declared.distinct).mp ?_
  rw [List.getElem?_map, List.getElem?_map, found, found', Option.map_some, Option.map_some, same]

theorem Declared.find?_eq_some_iff (declared : machine.Declared) {name : String} :
    machine.find? name = some id ↔ ∃ state, machine.get? id = some state ∧ state.name = name := by
  constructor
  · intro found
    obtain ⟨inside, named, -⟩ := List.findIdx?_eq_some_iff_getElem.mp found
    exact ⟨_, List.getElem?_eq_getElem inside, of_decide_eq_true named⟩
  · rintro ⟨state, known, rfl⟩
    cases found : machine.find? state.name with
    | none =>
        have differs := List.findIdx?_eq_none_iff.mp found state (List.mem_of_getElem? known)
        simp at differs
    | some other =>
        obtain ⟨inside, named, -⟩ := List.findIdx?_eq_some_iff_getElem.mp found
        have same : machine.states[other].name = state.name := of_decide_eq_true named
        rw [declared.id_eq (List.getElem?_eq_getElem inside) known same]

/-! ## Inverted copies -/

theorem IsInverse.source_eq (inverse : machine.IsInverse id base state)
    (found : machine.get? copy = some state) : machine.source copy = machine.source id := by
  rw [StateMachine.source, found, Option.bind_some, inverse.inverseOf, Option.getD_some]

/-- A copy that inverting appended stays the inverted copy of its original. -/
theorem invert_kept (declared : machine.Declared)
    (made : machine.invert id = .ok (inverted, machine.size)) (steps : Steps inverted later) :
    ∃ original copy, later.get? id = some original ∧ later.get? machine.size = some copy ∧
      later.IsInverse id original copy := by
  obtain ⟨base, found, -, ⟨present, -⟩ | ⟨-, -, rfl⟩⟩ := invert_eq_ok made
  · obtain ⟨state, there, -⟩ := declared.find?_eq_some_iff.mp present
    exact absurd (get?_lt there) (Nat.lt_irrefl _)
  · have kept := (extends_appended machine (machine.inverse id base)).trans steps.extends
    have inverse : machine.IsInverse id base (machine.inverse id base) := ⟨rfl, rfl, rfl, rfl⟩
    obtain ⟨groups, original⟩ := kept id base found
    obtain ⟨others, copied⟩ := steps.extends _ _ (get?_appended_size machine _)
    exact ⟨_, _, original, copied, inverse.extends kept found ⟨_, rfl⟩ ⟨_, rfl⟩⟩

end HomeRules.StateMachine
