import HomeRules.Proofs.StateMachine.Declaring
import HomeRules.Proofs.StateMachine.Resolution
import HomeRules.StateMachine.Rules

/-!
# Machines keep their indices in range

Whatever a caller asks of a machine, in any order and with any ids, its states refer to states that
exist, and those that take their triggers from another state have nothing of their own. A call that
is refused changes nothing. Resolving a machine and drafting its rules therefore find a state under
every index that they use.
-/

set_option autoImplicit false

namespace HomeRules.StateMachine

/-! ## Well-formed machines -/

/-- What checking a group makes sure of. -/
def Members (machine : StateMachine) (group : List StateId) : Prop :=
  group ≠ [] ∧ ∀ member ∈ group, member < machine.size

/-- A state that takes its triggers from another one, which has its own, and has nothing itself. -/
structure Inverts (machine : StateMachine) (state : State) (original : StateId) : Prop where
  source : ∃ source, machine.get? original = some source ∧ source.inverseOf = none
  sideEffects : state.sideEffects = []
  activatedBy : state.activatedBy = []
  affectedBy : state.affectedBy = []
  dependsOn : state.dependsOn = []

structure WellFormed (machine : StateMachine) : Prop where
  distinct : (machine.states.map (·.name)).Nodup
  triggered : ∀ id state, machine.get? id = some state →
    state.activatedBy = [] ∨ state.affectedBy = []
  members : ∀ id state, machine.get? id = some state →
    ∀ group ∈ state.dependsOn, machine.Members group
  inverted : ∀ id state original, machine.get? id = some state →
    state.inverseOf = some original → machine.Inverts state original

section Steps

variable {machine later : StateMachine} {id : StateId} {state : State}

theorem get?_of_lt (inside : id < machine.size) : ∃ state, machine.get? id = some state :=
  ⟨_, List.getElem?_eq_getElem inside⟩

theorem size_appended (machine : StateMachine) (state : State) :
    (machine.appended state).size = machine.size + 1 := by
  simp [size, appended]

theorem size_grouped (machine : StateMachine) (target : StateId) (group : List StateId) :
    (machine.grouped target group).size = machine.size := by
  simp [size, grouped]

private theorem members_of_checkGroup {name : String} {group : List StateId}
    (checked : machine.checkGroup name group = .ok ()) : machine.Members group := by
  rw [checkGroup] at checked
  split at checked
  case isTrue => cases checked
  case isFalse filled =>
    refine ⟨by simpa using filled, ?_⟩
    clear filled
    induction group with
    | nil => simp
    | cons first rest previous =>
        obtain ⟨⟨⟩, known, checked⟩ := ok_of_bind checked
        obtain ⟨state, found, -⟩ := ok_of_map known
        intro member inside
        rcases List.mem_cons.mp inside with rfl | later
        · exact get?_lt (state_eq_ok found)
        · exact previous checked member later

private theorem members_of_checkGroups {name : String} {groups : List (List StateId)}
    (checked : groups.forM (machine.checkGroup name) = .ok ()) :
    ∀ group ∈ groups, machine.Members group := by
  induction groups with
  | nil => simp
  | cons first rest previous =>
      obtain ⟨⟨⟩, here, checked⟩ := ok_of_bind checked
      intro group inside
      rcases List.mem_cons.mp inside with rfl | later
      · exact members_of_checkGroup here
      · exact previous checked group later

theorem add_members (added : machine.add state = .ok (later, id)) :
    ∀ group ∈ state.dependsOn, machine.Members group := by
  rw [add] at added
  split at added
  case isTrue => cases added
  case isFalse =>
    split at added
    case isTrue => cases added
    case isFalse =>
      obtain ⟨⟨⟩, checked, -⟩ := ok_of_bind added
      exact members_of_checkGroups checked

theorem addDependency_members {group : List StateId}
    (added : machine.addDependency id group = .ok later) :
    id < machine.size ∧ machine.Members group := by
  obtain ⟨state, found, added⟩ := ok_of_bind added
  obtain ⟨⟨⟩, checked, -⟩ := ok_of_bind added
  exact ⟨get?_lt (state_eq_ok found), members_of_checkGroup checked⟩

theorem WellFormed.source_spec (formed : machine.WellFormed)
    (found : machine.get? id = some state) :
    ∃ source, machine.get? (machine.source id) = some source ∧ source.inverseOf = none := by
  rw [source, found, Option.bind_some]
  cases mirrored : state.inverseOf with
  | none => exact ⟨state, found, mirrored⟩
  | some original => exact (formed.inverted id state original found mirrored).source

/-! ## Steps keep machines well-formed -/

theorem WellFormed.appended (formed : machine.WellFormed)
    (declared : (machine.appended state).Declared)
    (members : ∀ group ∈ state.dependsOn, machine.Members group)
    (inverted : ∀ original, state.inverseOf = some original → machine.Inverts state original) :
    (machine.appended state).WellFormed := by
  constructor
  case distinct => exact declared.distinct
  case triggered => exact declared.triggered
  case members =>
    intro id other found group inside
    have known : machine.Members group := by
      rcases get?_of_appended found with before | ⟨-, rfl⟩
      · exact formed.members id other before group inside
      · exact members group inside
    obtain ⟨filled, below⟩ := known
    rw [Members, size_appended]
    exact ⟨filled, fun member present => Nat.lt_succ_of_lt (below member present)⟩
  case inverted =>
    intro id other original found mirrored
    have known : machine.Inverts other original := by
      rcases get?_of_appended found with before | ⟨-, rfl⟩
      · exact formed.inverted id other original before mirrored
      · exact inverted original mirrored
    obtain ⟨source, there, own⟩ := known.source
    exact { known with source := ⟨source, get?_appended there state, own⟩ }

theorem WellFormed.grouped (formed : machine.WellFormed) {target : StateId} {group : List StateId}
    (declared : (machine.grouped target group).Declared)
    (own : ∀ state, machine.get? target = some state → state.inverseOf = none)
    (members : machine.Members group) : (machine.grouped target group).WellFormed := by
  have origin {id : StateId} {state : State}
      (found : (machine.grouped target group).get? id = some state) :
      ∃ old, machine.get? id = some old ∧
        state =
          if target = id then { old with dependsOn := old.dependsOn ++ [group] } else old := by
    rw [get?_grouped] at found
    obtain ⟨old, known, rfl⟩ := Option.map_eq_some_iff.mp found
    exact ⟨old, known, rfl⟩
  constructor
  case distinct => exact declared.distinct
  case triggered => exact declared.triggered
  case members =>
    intro id state found other inside
    rw [Members, size_grouped]
    obtain ⟨old, known, rfl⟩ := origin found
    split at inside
    case isTrue =>
      rcases List.mem_append.mp inside with before | new
      · exact formed.members id old known other before
      · rw [List.mem_singleton.mp new]
        exact members
    case isFalse => exact formed.members id old known other inside
  case inverted =>
    intro id state original found mirrored
    obtain ⟨old, known, rfl⟩ := origin found
    -- Groups are added to the source of a state, which takes its triggers from no other state.
    have apart : target ≠ id := by
      rintro rfl
      rw [if_pos rfl] at mirrored
      cases (own old known).symm.trans mirrored
    rw [if_neg apart] at mirrored ⊢
    have inverts := formed.inverted id old original known mirrored
    obtain ⟨source, there, unmirrored⟩ := inverts.source
    have kept := get?_grouped machine target group original
    rw [there, Option.map_some] at kept
    refine { inverts with source := ⟨_, kept, ?_⟩ }
    split <;> exact unmirrored

theorem Step.wellFormed (step : Step machine later) (declared : machine.Declared)
    (formed : machine.WellFormed) : later.WellFormed := by
  have grown := step.declared declared
  cases step with
  | add own added =>
      have members := add_members added
      obtain ⟨-, -, rfl, -⟩ := add_eq_ok added
      apply formed.appended grown members
      intro original mirrored
      cases own.symm.trans mirrored
  | @addDependency id group _ added =>
      obtain ⟨inside, members⟩ := addDependency_members added
      obtain rfl := addDependency_eq_ok added
      obtain ⟨state, found⟩ := get?_of_lt inside
      obtain ⟨source, there, own⟩ := formed.source_spec found
      apply formed.grouped grown _ members
      intro other known
      cases there.symm.trans known
      exact own
  | invert made =>
      obtain ⟨base, found, -, ⟨-, rfl⟩ | ⟨-, -, rfl⟩⟩ := invert_eq_ok made
      · exact formed
      · apply formed.appended grown
        · simp [inverse]
        · intro original mirrored
          cases mirrored
          exact ⟨formed.source_spec found, rfl, rfl, rfl, rfl⟩

theorem Reachable.wellFormed (reachable : machine.Reachable) : machine.WellFormed := by
  induction reachable with
  | refl => constructor <;> simp [get?]
  | tail steps step previous => exact step.wellFormed (Reachable.declared steps) previous

end Steps

/-! ## Calls in place -/

/-- Work on a machine in place. What it changes before it is refused stays changed, and it comes to
nothing where it uses an index of no state. -/
abbrev InPlace (α : Type) : Type :=
  ExceptT SchemaError (StateT StateMachine Option) α

namespace InPlace

def run {α : Type} (work : InPlace α) (machine : StateMachine) :
    Option (Except SchemaError α × StateMachine) :=
  StateT.run (ExceptT.run work) machine

def stateAt (id : StateId) : InPlace State := do
  liftM ((← getThe StateMachine).get? id)

def check (name : String) (groups : List (List StateId)) : InPlace Unit := do
  liftExcept (groups.forM ((← getThe StateMachine).checkGroup name))

def append (state : State) : InPlace StateId := do
  modifyThe StateMachine (·.appended state)
  return (← getThe StateMachine).size - 1

def add (state : State) : InPlace StateId := do
  if !state.activatedBy.isEmpty && !state.affectedBy.isEmpty then
    throw (.invalid (.activatedAndAffected state.name))
  else if ((← getThe StateMachine).find? state.name).isSome then
    throw (.invalid (.repeatedState state.name))
  else do
    check state.name state.dependsOn
    append state

def addDependency (id : StateId) (group : List StateId) : InPlace Unit := do
  let state ← liftExcept ((← getThe StateMachine).state id)
  check state.name [group]
  let target := (← getThe StateMachine).source id
  let source ← stateAt target
  modifyThe StateMachine fun machine =>
    ⟨machine.states.set target { source with dependsOn := source.dependsOn ++ [group] }⟩

def invert (id : StateId) : InPlace StateId := do
  let base ← liftExcept ((← getThe StateMachine).state id)
  if !base.sideEffects.isEmpty then throw (.invalid (.invertedSideEffects base.name))
  else
    match (← getThe StateMachine).find? (invertedName base.name) with
    | some existing => return existing
    | none => do append ((← getThe StateMachine).inverse id base)

end InPlace

/-- What a caller may ask for. A state is made without triggers from another state. -/
inductive Call where
  | add (state : State) (own : state.inverseOf = none)
  | addDependency (id : StateId) (group : List StateId)
  | invert (id : StateId)

namespace Call

def inPlace : Call → InPlace (Option StateId)
  | .add state _ => some <$> InPlace.add state
  | .addDependency id group => (fun _ => none) <$> InPlace.addDependency id group
  | .invert id => some <$> InPlace.invert id

/-- The machine after a call with the id that it gives, or why it is refused. -/
def result (machine : StateMachine) : Call → Except SchemaError (StateMachine × Option StateId)
  | .add state _ => (machine.add state).map fun (later, id) => (later, some id)
  | .addDependency id group => (machine.addDependency id group).map fun later => (later, none)
  | .invert id => (machine.invert id).map fun (later, id) => (later, some id)

/-- A refused call leaves the machine as it is. -/
def outcome (call : Call) (machine : StateMachine) :
    Except SchemaError (Option StateId) × StateMachine :=
  match call.result machine with
  | .ok (later, id) => (.ok id, later)
  | .error error => (.error error, machine)

end Call

namespace InPlace

private theorem ok_bind {ε α β : Type} (value : α) (next : α → Except ε β) :
    (Except.ok value >>= next) = next value := rfl

section Runs

variable {α β : Type}

@[simp] theorem run_map (change : α → β) (work : InPlace α) (machine : StateMachine) :
    run (change <$> work) machine = (run work machine).map fun (answer, later) =>
      (answer.map change, later) := by
  change (StateT.run (ExceptT.run (work >>= fun value => pure (change value))) machine) = _
  rw [ExceptT.run_bind, StateT.run_bind]
  change (run work machine).bind _ = _
  cases run work machine with
  | none => rfl
  | some done =>
      obtain ⟨answer, later⟩ := done
      cases answer <;> rfl

@[simp] theorem run_get_bind (rest : StateMachine → InPlace β) (machine : StateMachine) :
    run (getThe StateMachine >>= rest) machine = run (rest machine) machine := rfl

@[simp] theorem run_liftExcept_bind (result : Except SchemaError α) (rest : α → InPlace β)
    (machine : StateMachine) :
    run (liftExcept result >>= rest) machine =
      match result with
      | .ok value => run (rest value) machine
      | .error error => some (.error error, machine) := by
  cases result <;> rfl

@[simp] theorem run_check_bind (name : String) (groups : List (List StateId))
    (rest : Unit → InPlace β) (machine : StateMachine) :
    run (check name groups >>= rest) machine =
      match groups.forM (machine.checkGroup name) with
      | .ok () => run (rest ()) machine
      | .error error => some (.error error, machine) := by
  have lifted : run (check name groups >>= rest) machine =
      run (liftExcept (groups.forM (machine.checkGroup name)) >>= rest) machine := rfl
  rw [lifted, run_liftExcept_bind]
  cases groups.forM (machine.checkGroup name) <;> rfl

@[simp] theorem run_append (state : State) (machine : StateMachine) :
    run (append state) machine = some (.ok machine.size, machine.appended state) := by
  change some (Except.ok ((machine.appended state).size - 1), machine.appended state) = _
  rw [size_appended, Nat.add_sub_cancel]

@[simp] theorem run_stateAt_bind (id : StateId) (rest : State → InPlace β)
    (machine : StateMachine) :
    run (stateAt id >>= rest) machine =
      (machine.get? id).bind fun state => run (rest state) machine := by
  have lifted : run (stateAt id >>= rest) machine =
      run (liftM (machine.get? id) >>= rest) machine := rfl
  rw [lifted]
  cases machine.get? id <;> rfl

end Runs

theorem run_add (state : State) (machine : StateMachine) :
    (InPlace.add state).run machine = some (match machine.add state with
      | .ok (later, id) => (.ok id, later)
      | .error error => (.error error, machine)) := by
  rw [InPlace.add, StateMachine.add]
  split
  case isTrue => rfl
  case isFalse =>
    rw [run_get_bind]
    split
    case isTrue => rfl
    case isFalse =>
      rw [run_check_bind]
      cases state.dependsOn.forM (machine.checkGroup state.name) with
      | error error => rfl
      | ok checked => exact run_append state machine

theorem run_addDependency {machine : StateMachine} (formed : machine.WellFormed) (id : StateId)
    (group : List StateId) :
    (InPlace.addDependency id group).run machine = some (match machine.addDependency id group with
      | .ok later => (.ok (), later)
      | .error error => (.error error, machine)) := by
  rw [InPlace.addDependency, StateMachine.addDependency, run_get_bind, run_liftExcept_bind]
  cases found : machine.state id with
  | error error => rfl
  | ok state =>
      obtain ⟨source, known, -⟩ := formed.source_spec (state_eq_ok found)
      dsimp only
      rw [run_check_bind]
      have single : [group].forM (machine.checkGroup state.name) =
          machine.checkGroup state.name group := by
        change (machine.checkGroup state.name group >>= fun _ => pure ()) = _
        cases machine.checkGroup state.name group <;> rfl
      rw [single]
      cases checked : machine.checkGroup state.name group with
      | error error => simp [bind, Except.bind, checked]
      | ok _ =>
          dsimp only
          rw [run_get_bind, run_stateAt_bind, known, Option.bind_some, ok_bind, checked, ok_bind]
          have placed : machine.states.modify (machine.source id) (fun target =>
              { target with dependsOn := target.dependsOn ++ [group] }) =
              machine.states.set (machine.source id)
                { source with dependsOn := source.dependsOn ++ [group] } := by
            have there : machine.states[machine.source id]? = some source := known
            rw [List.modify_eq_set, there]
            rfl
          rw [placed]
          rfl

theorem run_invert (id : StateId) (machine : StateMachine) :
    (InPlace.invert id).run machine = some (match machine.invert id with
      | .ok (later, copy) => (.ok copy, later)
      | .error error => (.error error, machine)) := by
  rw [InPlace.invert, StateMachine.invert, run_get_bind, run_liftExcept_bind]
  cases machine.state id with
  | error error => rfl
  | ok base =>
      dsimp only
      rw [ok_bind]
      split
      case isTrue => rfl
      case isFalse =>
        rw [run_get_bind]
        cases machine.find? (invertedName base.name) with
        | some existing => rfl
        | none => exact run_append (machine.inverse id base) machine

end InPlace

theorem run_inPlace {machine : StateMachine} (formed : machine.WellFormed) (call : Call) :
    call.inPlace.run machine = some (call.outcome machine) := by
  cases call with
  | add state own =>
      rw [Call.inPlace, InPlace.run_map, InPlace.run_add, Call.outcome, Call.result]
      cases machine.add state <;> rfl
  | addDependency id group =>
      rw [Call.inPlace, InPlace.run_map, InPlace.run_addDependency formed, Call.outcome,
        Call.result]
      cases machine.addDependency id group <;> rfl
  | invert id =>
      rw [Call.inPlace, InPlace.run_map, InPlace.run_invert, Call.outcome, Call.result]
      cases machine.invert id <;> rfl

/-! ## Looking up by index -/

namespace Indexed

/-! Resolving and drafting as before, but a look-up by an index of no state comes to nothing. -/

variable (machine : StateMachine)

def guardOf (others : List StateId) : Option (Option Condition) :=
  if others.isEmpty then some none
  else do
    let held ← others.mapM fun id => (machine.get? id).map (·.condition)
    return some (Condition.conjunction held)

/-- The outer option is for look-ups, the inner one for members without known triggers. -/
def memberTriggers (resolved : Resolved) (before : List StateId) :
    List StateId → Option (Option (List StateTrigger))
  | [] => some (some [])
  | member :: rest => do
    match ← resolved[member]? with
    | none => return none
    | some triggers => do
      let guard ← guardOf machine (before ++ rest)
      let later ← memberTriggers resolved (before ++ [member]) rest
      return later.map (triggers.map (·.guarded guard) ++ ·)

def groupTriggers (resolved : Resolved) :
    List (List StateId) → Option (Option (List StateTrigger))
  | [] => some (some [])
  | group :: rest => do
    match ← memberTriggers machine resolved [] group with
    | none => return none
    | some triggers => do
      let later ← groupTriggers resolved rest
      return later.map (triggers ++ ·)

def tryResolve (resolved : Resolved) (id : StateId) : Option (Option (List StateTrigger)) := do
  let state ← machine.get? id
  let source ← machine.get? (machine.source id)
  if !source.activatedBy.isEmpty then return some source.activatedBy
  else if !source.affectedBy.isEmpty then
    return some (source.affectedBy.map (·.guarded (some state.condition)))
  else if source.dependsOn.isEmpty then return none
  else groupTriggers machine resolved source.dependsOn

def resolveAt (resolved : Resolved) (id : StateId) : Option Resolved := do
  match ← resolved[id]? with
  | some _ => return resolved
  | none => return resolved.set id (← tryResolve machine resolved id)

def pass (resolved : Resolved) : Option Resolved :=
  (List.range machine.size).foldlM (resolveAt machine) resolved

def passes : Nat → Resolved → Option Resolved
  | 0, resolved => some resolved
  | count + 1, resolved => do passes count (← pass machine resolved)

def resolve : Option (Except SchemaError (List (List StateTrigger))) := do
  let resolved ← passes machine machine.size (List.replicate machine.size none)
  match machine.stuck resolved with
  | [] => return .ok (resolved.filterMap id)
  | names => return .error (.invalid (.ungroundedStates names))

def entities (keep : StateId → Bool) (resolved : List (List StateTrigger)) :
    Option (List (String × Branches)) :=
  resolved.zipIdx.foldlM
    (fun result (triggers, id) => do
      let state ← machine.get? id
      return if keep id then addState result state triggers else result)
    []

def draftOf (keep : StateId → Bool) : Option (Except SchemaError EventDraft) := do
  match ← resolve machine with
  | .error error => return .error error
  | .ok resolved => do
    let entities ← entities machine keep resolved
    return .ok (entities.map fun (entity, branches) => draftEntry entity branches)

end Indexed

section Lookups

variable {machine : StateMachine} {id : StateId} {resolved : Resolved}

private theorem known?_of_lt (length_eq : resolved.length = machine.size)
    (inside : id < machine.size) : resolved[id]? = some (known? resolved id) := by
  rw [known?, List.getElem?_eq_getElem (length_eq ▸ inside), Option.join_some]

private theorem indexed_guardOf {others : List StateId}
    (inside : ∀ other ∈ others, other < machine.size) :
    Indexed.guardOf machine others = some (machine.guardOf others) := by
  have held : (others.mapM fun id => (machine.get? id).map (·.condition)) =
      some (machine.conditionsOf others) := by
    induction others with
    | nil => rfl
    | cons first rest previous =>
        obtain ⟨state, found⟩ := get?_of_lt (inside first List.mem_cons_self)
        have later := previous fun other present => inside other (List.mem_cons_of_mem _ present)
        rw [conditionsOf] at later
        simp [conditionsOf, found, later]
  rw [Indexed.guardOf, guardOf, held]
  split <;> rfl

private theorem indexed_memberTriggers (length_eq : resolved.length = machine.size)
    {before rest : List StateId} (inside : ∀ member ∈ before ++ rest, member < machine.size) :
    Indexed.memberTriggers machine resolved before rest =
      some (machine.memberTriggers resolved before rest) := by
  induction rest generalizing before with
  | nil => rfl
  | cons member rest previous =>
      have here : member < machine.size := inside member (by simp)
      have guarded : ∀ other ∈ before ++ rest, other < machine.size := fun other present =>
        inside other (by simp at present ⊢; tauto)
      have later : Indexed.memberTriggers machine resolved (before ++ [member]) rest =
          some (machine.memberTriggers resolved (before ++ [member]) rest) :=
        previous (by simpa using inside)
      rw [Indexed.memberTriggers, memberTriggers, known?_of_lt length_eq here,
        indexed_guardOf guarded, later]
      cases known? resolved member with
      | none => rfl
      | some triggers =>
          cases machine.memberTriggers resolved (before ++ [member]) rest <;> rfl

private theorem indexed_groupTriggers (length_eq : resolved.length = machine.size)
    {groups : List (List StateId)} (inside : ∀ group ∈ groups, machine.Members group) :
    Indexed.groupTriggers machine resolved groups =
      some (machine.groupTriggers resolved groups) := by
  induction groups with
  | nil => rfl
  | cons group rest previous =>
      obtain ⟨-, members⟩ := inside group List.mem_cons_self
      have later := previous fun other present => inside other (List.mem_cons_of_mem _ present)
      rw [Indexed.groupTriggers, groupTriggers, indexed_memberTriggers length_eq (by simpa), later]
      cases machine.memberTriggers resolved [] group with
      | none => rfl
      | some triggers => cases machine.groupTriggers resolved rest <;> rfl

theorem WellFormed.indexed_tryResolve (formed : machine.WellFormed)
    (length_eq : resolved.length = machine.size) (inside : id < machine.size) :
    Indexed.tryResolve machine resolved id = some (machine.tryResolve resolved id) := by
  obtain ⟨state, found⟩ := get?_of_lt inside
  obtain ⟨source, sourced, -⟩ := formed.source_spec found
  have groups := indexed_groupTriggers length_eq (formed.members _ source sourced)
  simp only [Indexed.tryResolve, tryResolve, triggers?, found, sourced, groups,
    Option.bind_eq_bind, Option.bind_some]
  split
  · rfl
  split
  · rfl
  split <;> rfl

theorem WellFormed.indexed_resolveAt (formed : machine.WellFormed)
    (length_eq : resolved.length = machine.size) (inside : id < machine.size) :
    Indexed.resolveAt machine resolved id = some (machine.resolveAt resolved id) := by
  rw [Indexed.resolveAt, resolveAt, known?_of_lt length_eq inside,
    formed.indexed_tryResolve length_eq inside]
  cases known? resolved id <;> rfl

theorem WellFormed.indexed_pass (formed : machine.WellFormed)
    (length_eq : resolved.length = machine.size) :
    Indexed.pass machine resolved = some (machine.pass resolved) := by
  have each (ids : List StateId) (inside : ∀ id ∈ ids, id < machine.size)
      (resolved : Resolved) (length_eq : resolved.length = machine.size) :
      ids.foldlM (Indexed.resolveAt machine) resolved =
        some (ids.foldl machine.resolveAt resolved) := by
    induction ids generalizing resolved with
    | nil => rfl
    | cons id rest previous =>
        have grown := (grows_resolveAt machine resolved id).length_eq.symm.trans length_eq
        rw [List.foldlM_cons, List.foldl_cons,
          formed.indexed_resolveAt length_eq (inside id List.mem_cons_self)]
        exact previous (fun other later => inside other (List.mem_cons_of_mem _ later)) _ grown
  exact each _ (fun id present => List.mem_range.mp present) resolved length_eq

theorem WellFormed.indexed_passes (formed : machine.WellFormed) (count : Nat)
    (length_eq : resolved.length = machine.size) :
    Indexed.passes machine count resolved = some (machine.passes count resolved) := by
  induction count generalizing resolved with
  | zero => rfl
  | succ count previous =>
      have grown := (grows_pass machine resolved).length_eq.symm.trans length_eq
      rw [Indexed.passes, passes, formed.indexed_pass length_eq]
      exact previous grown

theorem WellFormed.indexed_resolve (formed : machine.WellFormed) :
    Indexed.resolve machine = some machine.resolve := by
  rw [Indexed.resolve, formed.indexed_passes machine.size List.length_replicate]
  unfold resolve settled
  dsimp only [Option.bind_eq_bind, Option.bind_some]
  cases machine.stuck (machine.passes machine.size (List.replicate machine.size none)) <;> rfl

private theorem indexed_entities_from (keep : StateId → Bool) {states : List State}
    {triggers : List (List StateTrigger)} (same : triggers.length = states.length)
    {start : StateId} (placed : ∀ place, states[place]? = machine.get? (start + place))
    (result : List (String × Branches)) :
    (triggers.zipIdx start).foldlM
        (fun result (triggers, id) => do
          let state ← machine.get? id
          return if keep id then addState result state triggers else result)
        result =
      some (((states.zip triggers).zipIdx start).foldl
        (fun result ((state, triggers), id) =>
          if keep id then addState result state triggers else result)
        result) := by
  induction triggers generalizing states start result with
  | nil => simp
  | cons first rest previous =>
      cases states with
      | nil => cases same
      | cons state states =>
          have here : machine.get? start = some state := (placed 0).symm
          have later : ∀ place, states[place]? = machine.get? (start + 1 + place) := by
            intro place
            have there := placed (place + 1)
            rwa [List.getElem?_cons_succ, Nat.add_comm place, ← Nat.add_assoc] at there
          rw [List.zipIdx_cons, List.foldlM_cons, List.zip_cons_cons, List.zipIdx_cons,
            List.foldl_cons]
          dsimp only
          rw [here]
          exact previous (Nat.succ.inj same) later _

theorem WellFormed.indexed_draftOf (formed : machine.WellFormed) (keep : StateId → Bool) :
    Indexed.draftOf machine keep = some (machine.draftOf keep) := by
  rw [Indexed.draftOf, formed.indexed_resolve, draftOf]
  cases resolved : machine.resolve with
  | error error => rfl
  | ok triggers =>
      obtain ⟨-, length_eq, -⟩ := machine.grounded_of_resolve resolved
      have found : Indexed.entities machine keep triggers =
          some (machine.entities keep triggers) :=
        indexed_entities_from keep length_eq (fun place => by rw [Nat.zero_add]; rfl) []
      simp only [Option.bind_eq_bind, Option.bind_some, found]
      rfl

end Lookups

/-! ## Sequences of calls -/

/-- The machine after calls on a new one, whether or not they are refused. -/
def grown (calls : List Call) : Option StateMachine :=
  calls.foldlM (fun machine call => (call.inPlace.run machine).map (·.2)) {}

theorem Call.outcome_steps (call : Call) (machine : StateMachine) :
    Steps machine (call.outcome machine).2 := by
  rw [outcome]
  cases accepted : call.result machine with
  | error error => exact .refl
  | ok done =>
      cases call with
      | add state own =>
          obtain ⟨⟨later, id⟩, added, rfl⟩ := ok_of_map accepted
          exact .single (.add own added)
      | addDependency id group =>
          obtain ⟨later, added, rfl⟩ := ok_of_map accepted
          exact .single (.addDependency added)
      | invert id =>
          obtain ⟨⟨later, copy⟩, made, rfl⟩ := ok_of_map accepted
          exact .single (.invert made)

theorem Call.outcome_error {call : Call} {machine later : StateMachine} {error : SchemaError}
    (refused : call.outcome machine = (.error error, later)) : later = machine := by
  rw [outcome] at refused
  split at refused
  · cases refused
  · exact (congrArg Prod.snd refused).symm

theorem grown_reachable (calls : List Call) :
    ∃ machine, grown calls = some machine ∧ machine.Reachable := by
  have each (machine : StateMachine) (reachable : machine.Reachable) :
      ∃ later, calls.foldlM (fun machine call => (call.inPlace.run machine).map (·.2)) machine =
        some later ∧ later.Reachable := by
    induction calls generalizing machine with
    | nil => exact ⟨machine, rfl, reachable⟩
    | cons call rest previous =>
        obtain ⟨later, done, reached⟩ :=
          previous (call.outcome machine).2 (reachable.trans (call.outcome_steps machine))
        refine ⟨later, ?_, reached⟩
        rw [List.foldlM_cons, run_inPlace reachable.wellFormed]
        exact done
  exact each {} .refl

/-- Whatever calls are made on a new machine, it is well-formed after them, a further call does in
place what it does otherwise and changes nothing if it is refused, and no look-up that resolving or
drafting makes is out of range. -/
theorem calls_keep_indices (calls : List Call) :
    ∃ machine, grown calls = some machine ∧ machine.WellFormed ∧
      (∀ call : Call, call.inPlace.run machine = some (call.outcome machine)) ∧
      (∀ (call : Call) error later,
        call.inPlace.run machine = some (.error error, later) → later = machine) ∧
      Indexed.resolve machine = some machine.resolve ∧
      Indexed.draftOf machine (fun _ => true) = some machine.draft ∧
      ∀ ids : List StateId,
        Indexed.draftOf machine (fun id => ids.contains id) = some (machine.draftOnly ids) := by
  obtain ⟨machine, done, reachable⟩ := grown_reachable calls
  have formed := reachable.wellFormed
  refine ⟨machine, done, formed, run_inPlace formed, ?_, formed.indexed_resolve,
    formed.indexed_draftOf _, fun ids => formed.indexed_draftOf _⟩
  intro call error later refused
  rw [run_inPlace formed] at refused
  exact Call.outcome_error (Option.some.inj refused)

end HomeRules.StateMachine
