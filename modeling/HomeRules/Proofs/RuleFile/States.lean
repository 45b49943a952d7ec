import HomeRules.Proofs.StateMachine.Declaring
import HomeRules.RuleFile.Resolution

/-!
# Negated states

Inverting a state gives a state with the name of its inverted copy, and gives the same one again
however the machine grows. That state is the negation of the other one, unless a state with that
very name was added: it is found by its name, and is then used as it is. A `!name` in a group of
a rule file is looked up in the same way.
-/

set_option autoImplicit false

namespace HomeRules

namespace StateMachine

variable {machine inverted later : StateMachine} {id copy : StateId} {state base : State}

/-! ## Inverting again -/

theorem invertedName_injective : Function.Injective invertedName := by
  intro first second same
  have characters := congrArg String.toList same
  rw [invertedName, invertedName, String.toList_append, String.toList_append] at characters
  exact String.toList_inj.mp (List.append_cancel_left characters)

/-- The state that inverting gives, and gives again. It is the negation of the other state,
or it takes its triggers from no other state and so was added under that name. -/
structure Negates (machine : StateMachine) (id copy : StateId) : Prop where
  again : machine.invert id = .ok (machine, copy)
  found : ∃ base state, machine.get? id = some base ∧ machine.get? copy = some state ∧
    state.name = invertedName base.name ∧
    (state.inverseOf = none ∨
      state.sideEffects = [] ∧ machine.source copy = machine.source id ∧
        ∀ answers, state.condition.evaluate answers = (base.condition.evaluate answers).negate)

theorem invert_eq_of_named (declared : machine.Declared) (found : machine.get? id = some base)
    (silent : base.sideEffects = []) (named : machine.get? copy = some state)
    (name : state.name = invertedName base.name) : machine.invert id = .ok (machine, copy) := by
  have present : machine.find? (invertedName base.name) = some copy :=
    declared.find?_eq_some_iff.mpr ⟨state, named, name⟩
  simp [invert, StateMachine.state, found, silent, present, bind, Except.bind, pure, Except.pure]

theorem negates_of_named (declared : machine.Declared) (found : machine.get? id = some base)
    (silent : base.sideEffects = []) (named : machine.get? copy = some state)
    (name : state.name = invertedName base.name) : machine.Negates id copy := by
  refine ⟨invert_eq_of_named declared found silent named name, base, state, found, named, name, ?_⟩
  by_cases own : state.inverseOf = none
  · exact .inl own
  · right
    -- What the state inverts has the name of the base, and names are distinct.
    obtain ⟨original, other, there, inverse⟩ := declared.inverted copy state named own
    have sameName : other.name = base.name :=
      invertedName_injective (inverse.name.symm.trans name)
    obtain rfl : original = id := declared.id_eq there found sameName
    obtain rfl : other = base := Option.some.inj (there.symm.trans found)
    refine ⟨inverse.silent, ?_, fun answers => ?_⟩
    · exact inverse.source_eq named
    · rw [inverse.condition, Condition.evaluate_not]

theorem Negates.persists (negates : machine.Negates id copy) (declared : machine.Declared)
    (steps : Steps machine later) : later.Negates id copy := by
  obtain ⟨base, state, found, named, name, -⟩ := negates.found
  obtain ⟨_, known, silent, -⟩ := invert_eq_ok negates.again
  obtain rfl := Option.some.inj (known.symm.trans found)
  obtain ⟨_, found⟩ := steps.extends id _ found
  obtain ⟨_, named⟩ := steps.extends copy _ named
  exact negates_of_named (steps.declared declared) found silent named name

theorem negates_of_invert (declared : machine.Declared)
    (made : machine.invert id = .ok (inverted, copy)) : inverted.Negates id copy := by
  have grown : inverted.Declared := (Step.invert made).declared declared
  obtain ⟨base, found, silent, ⟨present, rfl⟩ | ⟨-, rfl, rfl⟩⟩ := invert_eq_ok made
  · obtain ⟨state, named, name⟩ := declared.find?_eq_some_iff.mp present
    exact negates_of_named declared found silent named name
  · exact negates_of_named grown (get?_appended found _) silent (get?_appended_size machine _) rfl

/-! ## Names in groups -/

/-- Which state a name in a group stands for. -/
inductive Refers (machine : StateMachine) (text : String) : StateId → Prop where
  | plain {id : StateId} (unmarked : ∀ rest, text.toList ≠ '!' :: rest)
      (found : machine.find? (String.ofList (Text.trim text.toList)) = some id) :
      Refers machine text id
  | negated {rest : List Char} {original id : StateId} (marked : text.toList = '!' :: rest)
      (found : machine.find? (String.ofList (Text.trim rest)) = some original)
      (negates : machine.Negates original id) : Refers machine text id

theorem find?_persists {name : String} (declared : machine.Declared) (steps : Steps machine later)
    (found : machine.find? name = some id) : later.find? name = some id := by
  obtain ⟨state, known, named⟩ := declared.find?_eq_some_iff.mp found
  obtain ⟨_, known⟩ := steps.extends id state known
  exact (steps.declared declared).find?_eq_some_iff.mpr ⟨_, known, named⟩

theorem Refers.persists {text : String} (refers : machine.Refers text id)
    (declared : machine.Declared) (steps : Steps machine later) : later.Refers text id := by
  cases refers with
  | plain unmarked found => exact .plain unmarked (find?_persists declared steps found)
  | negated marked found negates =>
      exact .negated marked (find?_persists declared steps found)
        (negates.persists declared steps)

theorem Refers.group_persists {names : List String} {ids : List StateId}
    (refer : List.Forall₂ machine.Refers names ids) (declared : machine.Declared)
    (steps : Steps machine later) : List.Forall₂ later.Refers names ids :=
  refer.imp fun _ _ refers => refers.persists declared steps

theorem invert_prefix (made : machine.invert id = .ok (later, copy)) :
    machine.states <+: later.states := by
  obtain ⟨base, -, -, ⟨-, rfl⟩ | ⟨-, -, rfl⟩⟩ := invert_eq_ok made
  · exact List.prefix_rfl
  · exact List.prefix_append _ _

theorem reference_eq_ok {text : String} (declared : machine.Declared)
    (found : machine.reference text = .ok (later, id)) :
    Steps machine later ∧ machine.states <+: later.states ∧ later.Refers text id := by
  rw [reference] at found
  split at found
  case h_1 inverted name parts =>
    split at found
    case h_1 => cases found
    case h_2 original known =>
      split at parts
      case h_1 rest marked =>
        cases parts
        have steps : Steps machine later := .single (.invert found)
        exact ⟨steps, invert_prefix found, .negated marked (find?_persists declared steps known)
          (negates_of_invert declared found)⟩
      case h_2 unmarked =>
        cases parts
        cases found
        exact ⟨.refl, List.prefix_rfl, .plain unmarked known⟩

theorem references_eq_ok {names : List String} {ids : List StateId} (declared : machine.Declared)
    (found : machine.references names = .ok (later, ids)) :
    Steps machine later ∧ machine.states <+: later.states ∧
      List.Forall₂ later.Refers names ids := by
  induction names generalizing machine ids with
  | nil =>
      cases found
      exact ⟨.refl, List.prefix_rfl, .nil⟩
  | cons name rest previous =>
      obtain ⟨⟨middle, id⟩, first, found⟩ := ok_of_bind found
      obtain ⟨⟨last, others⟩, next, found⟩ := ok_of_bind found
      cases found
      obtain ⟨steps, kept, refers⟩ := reference_eq_ok declared first
      have grown := steps.declared declared
      obtain ⟨more, keptThen, refer⟩ := previous grown next
      exact ⟨steps.trans more, kept.trans keptThen, .cons (refers.persists grown more) refer⟩

/-! ## Groups of states -/

theorem get?_of_prefix (kept : machine.states <+: later.states)
    (found : machine.get? id = some state) : later.get? id = some state := by
  obtain ⟨more, same⟩ := kept
  rw [get?, ← same, List.getElem?_append_left (get?_lt found)]
  exact found

/-- One machine comes from another one by adding groups of named states to a state, while all
other states stay as they are. -/
structure Regroups (machine : StateMachine) (id : StateId) (groups : List (List String))
    (later : StateMachine) : Prop where
  steps : Steps machine later
  others : ∀ other state, other ≠ id → machine.get? other = some state →
    later.get? other = some state
  members : ∀ state, machine.get? id = some state →
    ∃ added, later.get? id = some { state with dependsOn := state.dependsOn ++ added } ∧
      List.Forall₂ (List.Forall₂ later.Refers) groups added

theorem Refers.groups_persist {groups : List (List String)} {members : List (List StateId)}
    (refer : List.Forall₂ (List.Forall₂ machine.Refers) groups members)
    (declared : machine.Declared) (steps : Steps machine later) :
    List.Forall₂ (List.Forall₂ later.Refers) groups members :=
  refer.imp fun _ _ named => Refers.group_persists named declared steps

theorem addGroups_eq_ok {groups : List (List String)} (declared : machine.Declared)
    (found : machine.get? id = some state) (own : state.inverseOf = none)
    (added : machine.addGroups id groups = .ok later) : machine.Regroups id groups later := by
  rw [addGroups] at added
  induction groups generalizing machine state with
  | nil =>
      cases added
      exact ⟨.refl, fun _ _ _ found => found,
        fun _ found => ⟨[], by rw [found, List.append_nil], .nil⟩⟩
  | cons names rest previous =>
      rw [List.foldlM_cons] at added
      obtain ⟨middle, grouped, added⟩ := ok_of_bind added
      obtain ⟨⟨read, members⟩, named, grouped⟩ := ok_of_bind grouped
      obtain ⟨steps, kept, refer⟩ := references_eq_ok declared named
      have there := get?_of_prefix kept found
      have itself : read.source id = id := by
        rw [source, there, Option.bind_some, own, Option.getD_none]
      have through : Steps machine middle := steps.tail (.addDependency grouped)
      have whole := addDependency_eq_ok grouped
      rw [itself] at whole
      have now : middle.get? id =
          some { state with dependsOn := state.dependsOn ++ [members] } := by
        rw [whole, get?_grouped, there, Option.map_some, if_pos rfl]
      have grown := through.declared declared
      obtain ⟨more, others, further⟩ := previous grown now own added
      refine ⟨through.trans more, ?_, ?_⟩
      · intro other state' different found'
        refine others other state' different ?_
        rw [whole, get?_grouped, get?_of_prefix kept found', Option.map_some,
          if_neg (Ne.symm different)]
      · intro same found'
        obtain rfl := Option.some.inj (found'.symm.trans found)
        obtain ⟨groups, present, refers⟩ := further _ now
        refine ⟨members :: groups, ?_, .cons ?_ refers⟩
        · rw [present, List.append_assoc, List.singleton_append]
        · have onward : Steps read later := .head (.addDependency grouped) more
          exact Refers.group_persists refer (steps.declared declared) onward

/-- Adding the groups of several states, one after the other, adds to each state its own. -/
theorem addAllGroups_eq_ok {specs : List (StateSpec × StateId)} (declared : machine.Declared)
    (distinct : (specs.map Prod.snd).Nodup)
    (own : ∀ spec ∈ specs, ∃ state, machine.get? spec.2 = some state ∧ state.inverseOf = none)
    (added : specs.foldlM (fun machine (spec, id) => machine.addGroups id spec.dependsOn) machine =
      .ok later) :
    Steps machine later ∧
    (∀ id state, id ∉ specs.map Prod.snd → machine.get? id = some state →
      later.get? id = some state) ∧
    ∀ spec id state, (spec, id) ∈ specs → machine.get? id = some state →
      ∃ added, later.get? id = some { state with dependsOn := state.dependsOn ++ added } ∧
        List.Forall₂ (List.Forall₂ later.Refers) spec.dependsOn added := by
  -- A state is left alone before and after its turn, as the ids are distinct.
  induction specs generalizing machine with
  | nil =>
      cases added
      exact ⟨.refl, fun _ _ _ found => found, nofun⟩
  | cons head rest previous =>
      obtain ⟨spec, id⟩ := head
      rw [List.foldlM_cons] at added
      obtain ⟨middle, first, added⟩ := ok_of_bind added
      rw [List.map_cons, List.nodup_cons] at distinct
      obtain ⟨absent, distinct⟩ := distinct
      obtain ⟨state, there, itself⟩ := own (spec, id) List.mem_cons_self
      obtain ⟨steps, others, members⟩ := addGroups_eq_ok declared there itself first
      have grown := steps.declared declared
      have differs {spec : StateSpec} {other : StateId} (listed : (spec, other) ∈ rest) :
          other ≠ id := by
        rintro rfl
        exact absent (List.mem_map.mpr ⟨_, listed, rfl⟩)
      have ownThen : ∀ spec ∈ rest, ∃ state, middle.get? spec.2 = some state ∧
          state.inverseOf = none := by
        intro spec listed
        obtain ⟨state, found, itself⟩ := own spec (List.mem_cons_of_mem _ listed)
        exact ⟨state, others _ _ (differs listed) found, itself⟩
      obtain ⟨more, before, after⟩ := previous grown distinct ownThen added
      refine ⟨steps.trans more, ?_, ?_⟩
      · intro other state unlisted found
        rw [List.map_cons, List.mem_cons, not_or] at unlisted
        exact before other state unlisted.2 (others other state unlisted.1 found)
      · intro written other state listed found
        rcases List.mem_cons.mp listed with same | listed
        · cases same
          obtain ⟨groups, now, refer⟩ := members state found
          exact ⟨groups, before _ _ absent now, Refers.groups_persist refer grown more⟩
        · exact after written other state listed (others _ _ (differs listed) found)

end StateMachine

namespace Scope

variable {scope : Scope}

/-- A state of a rule file has no groups at first, and has its own triggers. -/
structure Starts (spec : StateSpec) (state : State) : Prop where
  name : state.name = spec.name
  ungrouped : state.dependsOn = []
  own : state.inverseOf = none

theorem state_starts {spec : StateSpec} {state : State} (made : scope.state spec = .ok state) :
    Starts spec state := by
  obtain ⟨condition, -, made⟩ := ok_of_bind made
  have finished {sideEffects : List Action}
      (made : (do
        let activatedBy ← spec.activatedBy.mapM scope.trigger
        let affectedBy ← spec.affectedBy.mapM scope.trigger
        return { name := spec.name, condition, sideEffects, activatedBy, affectedBy }) =
          Except.ok state) : Starts spec state := by
    obtain ⟨_, -, made⟩ := ok_of_bind made
    obtain ⟨_, -, made⟩ := ok_of_bind made
    cases made
    exact ⟨rfl, rfl, rfl⟩
  cases actions : spec.actions with
  | none =>
      rw [actions] at made
      exact finished made
  | some values =>
      rw [actions] at made
      obtain ⟨_, -, made⟩ := ok_of_bind made
      obtain ⟨_, -, made⟩ := ok_of_bind made
      exact finished made

theorem addStates_eq_ok {specs : List StateSpec} {machine later : StateMachine}
    (added : scope.addStates machine specs = .ok later) :
    StateMachine.Steps machine later ∧
      ∃ states, later.states = machine.states ++ states ∧ List.Forall₂ Starts specs states := by
  rw [addStates] at added
  induction specs generalizing machine with
  | nil =>
      cases added
      exact ⟨.refl, [], (List.append_nil _).symm, .nil⟩
  | cons spec rest previous =>
      rw [List.foldlM_cons] at added
      obtain ⟨middle, first, added⟩ := ok_of_bind added
      obtain ⟨state, made, first⟩ := ok_of_bind first
      obtain ⟨⟨middle, id⟩, first, same⟩ := ok_of_bind first
      cases same
      have starts := state_starts made
      obtain ⟨steps, states, whole, start⟩ := previous added
      obtain ⟨-, -, rfl, -⟩ := StateMachine.add_eq_ok first
      refine ⟨.head (.add starts.own first) steps, state :: states, ?_, .cons starts start⟩
      rw [whole, StateMachine.appended, List.append_assoc, List.singleton_append]

/-- The states of a rule file are numbered as they are written, and the members of their groups
are what the names in them stand for. -/
theorem machine_eq_ok {specs : List StateSpec} {machine : StateMachine}
    (made : scope.machine specs = .ok machine) :
    machine.Reachable ∧ ∀ index spec, specs[index]? = some spec →
      ∃ state, machine.get? index = some state ∧ state.name = spec.name ∧
        List.Forall₂ (List.Forall₂ machine.Refers) spec.dependsOn state.dependsOn := by
  obtain ⟨started, listed, made⟩ := ok_of_bind made
  obtain ⟨steps, states, whole, start⟩ := addStates_eq_ok listed
  have reachable : started.Reachable := steps
  rw [List.nil_append] at whole
  have placed {index : Nat} {spec : StateSpec} (written : specs[index]? = some spec) :
      ∃ state, started.get? index = some state ∧ Starts spec state := by
    obtain ⟨inside, rfl⟩ := List.getElem?_eq_some_iff.mp written
    have there : index < states.length := start.length_eq ▸ inside
    refine ⟨states[index], ?_, start.get inside there⟩
    rw [StateMachine.get?, whole, List.getElem?_eq_getElem there]
  have distinct : (specs.zipIdx.map Prod.snd).Nodup := by
    rw [List.zipIdx_map_snd]
    exact List.nodup_range'
  have own : ∀ spec ∈ specs.zipIdx, ∃ state, started.get? spec.2 = some state ∧
      state.inverseOf = none := by
    rintro ⟨spec, index⟩ listed
    obtain ⟨state, found, starts⟩ := placed (List.mk_mem_zipIdx_iff_getElem?.mp listed)
    exact ⟨state, found, starts.own⟩
  obtain ⟨more, -, after⟩ :=
    StateMachine.addAllGroups_eq_ok reachable.declared distinct own made
  refine ⟨reachable.trans more, fun index spec written => ?_⟩
  obtain ⟨state, found, starts⟩ := placed written
  obtain ⟨groups, now, refer⟩ :=
    after spec index state (List.mk_mem_zipIdx_iff_getElem?.mpr written) found
  rw [starts.ungrouped, List.nil_append] at now
  exact ⟨_, now, starts.name, refer⟩

end Scope

/-! ## Negations are found -/

/-- However a machine has come about and goes on, inverting a state again gives the state that
it gave at first. That one is the negation of the other, unless it was added under its name and
not made by inverting. So it is for the names in the groups of a rule file. -/
theorem negations_found (machine : StateMachine) :
    (∀ inverted later id copy, machine.Reachable → machine.invert id = .ok (inverted, copy) →
      StateMachine.Steps inverted later →
        later.Negates id copy ∧ (copy = machine.size →
          ∃ state, later.get? copy = some state ∧ state.inverseOf = some (later.source id))) ∧
    ∀ (scope : Scope) specs, scope.machine specs = .ok machine →
      machine.Reachable ∧ ∀ index spec, specs[index]? = some spec →
        ∃ state, machine.get? index = some state ∧ state.name = spec.name ∧
          List.Forall₂ (List.Forall₂ machine.Refers) spec.dependsOn state.dependsOn := by
  refine ⟨?_, fun _ _ made => Scope.machine_eq_ok made⟩
  intro inverted later id copy reachable made steps
  have declared := reachable.declared
  have grown := (StateMachine.Step.invert made).declared declared
  refine ⟨(StateMachine.negates_of_invert declared made).persists grown steps, ?_⟩
  rintro rfl
  obtain ⟨_, state, -, copied, inverse⟩ := StateMachine.invert_kept declared made steps
  exact ⟨state, copied, inverse.inverseOf⟩

def door : StateSpec where
  name := "open"
  condition := "new:open"
  affectedBy := [{ entity := "door.front" }]

def alarm : StateSpec where
  name := "alarm"
  condition := "new:armed"
  dependsOn := [["!open"]]

def guardedHouse : StateMachine where
  states := [
    { name := "open"
      condition := .newStateIn ["open"]
      affectedBy := [{ entity := "door.front" }] },
    { name := "alarm"
      condition := .newStateIn ["armed"]
      dependsOn := [[2]] },
    { name := "NOT open"
      condition := (Condition.newStateIn ["open"]).not
      inverseOf := some 0 }]

/-- The alarm depends on the negation of the open door, and that one may be negated in turn. -/
theorem negations_found_alarm :
    Scope.machine { vocabulary := {} } [door, alarm] = .ok guardedHouse ∧
    guardedHouse.Refers "!open" 2 ∧
    ∃ inverted, guardedHouse.invert 2 = .ok (inverted, 3) ∧ inverted.Negates 2 3 ∧
      ∃ state, inverted.get? 3 = some state ∧ state.inverseOf = some 0 := by
  have made : Scope.machine { vocabulary := {} } [door, alarm] = .ok guardedHouse := by cbv
  obtain ⟨inverts, written⟩ := negations_found guardedHouse
  obtain ⟨reachable, members⟩ := written _ _ made
  obtain ⟨state, found, -, refer⟩ := members 1 alarm rfl
  cases found
  obtain _ | ⟨_ | ⟨refers, -⟩, -⟩ := refer
  have again : guardedHouse.invert 2 = .ok (_, guardedHouse.size) := rfl
  obtain ⟨negates, mirrors⟩ := inverts _ _ _ _ reachable again .refl
  exact ⟨made, refers, _, again, negates, mirrors rfl⟩

/-- A state that only looks like the negation of another one. -/
def closed : StateSpec where
  name := "NOT open"
  condition := "new:open"
  affectedBy := [{ entity := "door.front" }]

def doubtfulHouse : StateMachine where
  states := [
    { name := "open"
      condition := .newStateIn ["open"]
      affectedBy := [{ entity := "door.front" }] },
    { name := "NOT open"
      condition := .newStateIn ["open"]
      affectedBy := [{ entity := "door.front" }] },
    { name := "alarm"
      condition := .newStateIn ["armed"]
      dependsOn := [[1]] }]

/-- Inverting a state gives one that holds when it does, and so does `!open`, because that one
has the name of the inverted copy. -/
theorem added_negation_used :
    Scope.machine { vocabulary := {} } [door, closed, alarm] = .ok doubtfulHouse ∧
    doubtfulHouse.Reachable ∧ doubtfulHouse.invert 0 = .ok (doubtfulHouse, 1) ∧
    ∃ base state, doubtfulHouse.get? 0 = some base ∧ doubtfulHouse.get? 1 = some state ∧
      ∃ answers, (base.condition.evaluate answers).answer = .ok true ∧
        (state.condition.evaluate answers).answer = .ok true := by
  have made : Scope.machine { vocabulary := {} } [door, closed, alarm] = .ok doubtfulHouse := by
    cbv
  exact ⟨made, (Scope.machine_eq_ok made).1, by cbv, _, _, rfl, rfl, fun _ => .ok true, rfl, rfl⟩

end HomeRules
