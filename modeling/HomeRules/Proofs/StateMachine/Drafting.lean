import HomeRules.Proofs.Event.Key
import HomeRules.Proofs.StateMachine.Rules

/-!
# Drafts lose no demand

The draft of some states has an entry for each entity that they are triggered by, and in it a branch
for each name among the guards of the triggers. Both stand in the order in which they are first
asked for. A branch has the first guard of its name and the actions of all demands of its name, as
often as they are demanded.
-/

set_option autoImplicit false

namespace HomeRules.StateMachine

/-! ## First occurrences -/

section Occurrences

variable {α κ : Type} [DecidableEq α]

private theorem eraseDups_concat (items : List α) (item : α) :
    (items ++ [item]).eraseDups =
      if item ∈ items then items.eraseDups else items.eraseDups ++ [item] := by
  rw [List.eraseDups_append]
  by_cases seen : item ∈ items <;> simp [List.removeAll, List.eraseDups_cons, seen]

private theorem nodup_eraseDups (items : List α) : items.eraseDups.Nodup := by
  induction items using List.reverseRecOn with
  | nil => exact List.nodup_nil
  | append_singleton items item previous =>
      rw [eraseDups_concat]
      split
      case isTrue => exact previous
      case isFalse fresh =>
        rw [List.nodup_append_comm, List.singleton_append, List.nodup_cons, List.mem_eraseDups]
        exact ⟨fresh, previous⟩

/-- Items that are gathered under their keys stand in the order in which the keys are first seen. -/
private theorem keys_foldl {ι : Type} {key : κ → α} {named : ι → α} {add : List κ → ι → List κ}
    (adds : ∀ entries item, (add entries item).map key =
      if named item ∈ entries.map key then entries.map key
      else entries.map key ++ [named item])
    (items : List ι) : (items.foldl add []).map key = (items.map named).eraseDups := by
  induction items using List.reverseRecOn with
  | nil => rfl
  | append_singleton items item previous =>
      rw [List.foldl_append, List.foldl_cons, List.foldl_nil, adds, previous, List.map_append,
        List.map_singleton, eraseDups_concat]
      simp only [List.mem_eraseDups]

end Occurrences

/-! ## Branches -/

/-- The branches that demands on one entity make. -/
structure Gathers (demands : List Demand) (branches : Branches) : Prop where
  names : branches.map (·.1.name) = (demands.map (·.guard.name)).eraseDups
  guard : ∀ branch ∈ branches,
    (demands.find? (·.guard.name = branch.1.name)).map (·.guard) = some branch.1
  actions : ∀ branch ∈ branches,
    branch.2 = (demands.filter (·.guard.name = branch.1.name)).flatMap (·.actions)

private theorem names_addBranch (guard : Condition) (actions : List Action) (branches : Branches) :
    (addBranch guard actions branches).map (·.1.name) =
      if guard.name ∈ branches.map (·.1.name) then branches.map (·.1.name)
      else branches.map (·.1.name) ++ [guard.name] := by
  induction branches with
  | nil => simp [addBranch]
  | cons branch rest previous =>
      by_cases same : branch.1.name = guard.name
      · simp [addBranch, same]
      · have other : guard.name ≠ branch.1.name := Ne.symm same
        rw [addBranch, if_neg same, List.map_cons, previous, List.map_cons]
        by_cases later : guard.name ∈ rest.map (·.1.name)
        · rw [if_pos later, if_pos (List.mem_cons_of_mem _ later)]
        · rw [if_neg later, if_neg (by simp [other, later]), List.cons_append]

private theorem find?_addBranch (guard : Condition) (actions : List Action) (branches : Branches)
    (name : String) :
    (addBranch guard actions branches).find? (·.1.name = name) =
      if guard.name = name then
        some (((branches.find? (·.1.name = name)).map fun branch =>
          (branch.1, branch.2 ++ actions)).getD (guard, actions))
      else branches.find? (·.1.name = name) := by
  induction branches with
  | nil => by_cases named : guard.name = name <;> simp [addBranch, named]
  | cons branch rest previous =>
      by_cases same : branch.1.name = guard.name
      · by_cases named : guard.name = name <;> simp [addBranch, same, named]
      · rw [addBranch, if_neg same]
        by_cases named : branch.1.name = name
        · have other : guard.name ≠ name := fun equal => same (named.trans equal.symm)
          simp [named, other]
        · simp [named, previous]

private theorem find?_foldl (demands : List Demand) (name : String) :
    (demands.foldl addDemand []).find? (·.1.name = name) =
      (demands.find? (·.guard.name = name)).map fun first =>
        (first.guard, (demands.filter (·.guard.name = name)).flatMap (·.actions)) := by
  induction demands using List.reverseRecOn with
  | nil => rfl
  | append_singleton demands demand previous =>
      rw [List.foldl_append, List.foldl_cons, List.foldl_nil, addDemand, find?_addBranch, previous,
        List.find?_append, List.filter_append]
      by_cases named : demand.guard.name = name
      · cases found : demands.find? (·.guard.name = name) with
        | some first => simp [named]
        | none =>
            have nothing : demands.filter (·.guard.name = name) = [] := by
              simpa [List.find?_eq_none] using found
            simp [named, nothing]
      · simp [named]

theorem gathers_foldl (demands : List Demand) : Gathers demands (demands.foldl addDemand []) := by
  have names : (demands.foldl addDemand []).map (·.1.name) =
      (demands.map (·.guard.name)).eraseDups :=
    keys_foldl (fun branches demand => names_addBranch demand.guard demand.actions branches) demands
  have found (branch : Condition × List Action) (member : branch ∈ demands.foldl addDemand []) :=
    (find?_foldl demands branch.1.name).symm.trans
      (find?_key (names ▸ nodup_eraseDups _) member)
  constructor
  case names => exact names
  case guard =>
    intro branch member
    obtain ⟨first, chosen, same⟩ := Option.map_eq_some_iff.mp (found branch member)
    rw [chosen, ← same]
    rfl
  case actions =>
    intro branch member
    obtain ⟨first, -, same⟩ := Option.map_eq_some_iff.mp (found branch member)
    exact congrArg Prod.snd same.symm

/-! ## Entities -/

/-- The branches that demands make, by the entity that they are made on. -/
structure GathersAll (demands : List Demand) (entities : List (String × Branches)) : Prop where
  names : entities.map (·.1) = (demands.map (·.entity)).eraseDups
  branches : ∀ entity ∈ entities, Gathers (demands.filter (·.entity = entity.1)) entity.2

private theorem names_addToDemanded (entities : List (String × Branches)) (demand : Demand) :
    (addToDemanded entities demand).map (·.1) =
      if demand.entity ∈ entities.map (·.1) then entities.map (·.1)
      else entities.map (·.1) ++ [demand.entity] := by
  unfold addToDemanded
  induction entities with
  | nil => simp [addToEntity]
  | cons entity rest previous =>
      by_cases same : entity.1 = demand.entity
      · simp [addToEntity, same]
      · have other : demand.entity ≠ entity.1 := Ne.symm same
        rw [addToEntity, if_neg same, List.map_cons, previous, List.map_cons]
        by_cases later : demand.entity ∈ rest.map (·.1)
        · rw [if_pos later, if_pos (List.mem_cons_of_mem _ later)]
        · rw [if_neg later, if_neg (by simp [other, later]), List.cons_append]

theorem gathersAll_foldl (demands : List Demand) :
    GathersAll demands (demands.foldl addToDemanded []) := by
  have names := keys_foldl names_addToDemanded demands
  constructor
  case names => exact names
  case branches =>
    intro entity member
    have there := branchesAt_foldl entity.1 demands
    rw [branchesAt, find?_key (names ▸ nodup_eraseDups _) member] at there
    change entity.2 = _ at there
    rw [there]
    exact gathers_foldl _

/-! ## Drafts -/

/-- Whether a text has a domain and an object with a point between them. -/
def IsEntityId (entity : String) : Prop :=
  ∃ domain object, entity.toList = domain ++ '.' :: object ∧ (domain ≠ [] ∧ object ≠ []) ∧
    ∀ c ∈ domain ++ object, EventKind.Plain c

def ruleOf (entity : String × Branches) : DraftEntry where
  key := "state:" ++ entity.1
  body := .conditional (entity.2.map BranchDraft.plain) false
  mode := .restart

def entryOf (entity : String × Branches) : SchemaEntry where
  kind := .stateChanged entity.1
  body := .conditional (entity.2.map itemOf) false
  mode := .restart

private theorem draftEntry_eq (entity : String × Branches) :
    draftEntry entity.1 entity.2 = ruleOf entity := by
  have body := draftEntry_body entity.1 entity.2
  cases entity
  rw [ruleOf, ← body]
  rfl

private theorem parse_of_isEntityId {entity : String} (valid : IsEntityId entity) :
    EventKind.parse ("state:" ++ entity) = .ok (.stateChanged entity) := by
  obtain ⟨domain, object, spelled, named, plain⟩ := valid
  have denotes := EventKind.Denotes.state named plain
  have bare := denotes.bare
  rw [EventKind.toChars_stateChanged] at bare
  rw [← spelled, String.ofList_toList] at denotes
  rw [← spelled] at bare
  rw [EventKind.parse_eq_ok_iff, String.toList_append]
  exact ⟨_, Text.padded_self _, bare, denotes⟩

private theorem buildEntries_rules {entities : List (String × Branches)} {seen : List EventKind}
    (valid : ∀ entity ∈ entities, IsEntityId entity.1)
    (filled : ∀ entity ∈ entities, entity.2 ≠ [])
    (distinct : (entities.map (·.1)).Nodup)
    (fresh : ∀ entity ∈ entities, EventKind.stateChanged entity.1 ∉ seen) :
    buildEntries seen (entities.map ruleOf) = .ok (entities.map entryOf) := by
  induction entities generalizing seen with
  | nil => rfl
  | cons entity rest previous =>
      simp only [List.mem_cons, forall_eq_or_imp, List.map_cons, List.nodup_cons] at *
      obtain ⟨alone, distinct⟩ := distinct
      have body : (ruleOf entity).body.build (.stateChanged entity.1) =
          .ok (entryOf entity).body := by
        rw [ruleOf, ConditionDraft.build, if_neg (by simpa using filled.1), flattenBranches_plain]
        rfl
      have later : ∀ other ∈ rest,
          EventKind.stateChanged other.1 ∉ EventKind.stateChanged entity.1 :: seen := by
        intro other member
        have apart : other.1 ≠ entity.1 := fun same =>
          alone (same ▸ List.mem_map_of_mem member)
        simp [apart, fresh.2 other member]
      rw [buildEntries]
      have parsed : EventKind.parse (ruleOf entity).key = .ok (.stateChanged entity.1) :=
        parse_of_isEntityId valid.1
      rw [parsed]
      dsimp only
      rw [if_neg (by simpa using fresh.1), body, previous valid.2 filled.2 distinct later]
      rfl

/-! ## Kept states -/

private theorem demands_congr (machine : StateMachine) (resolved : List (List StateTrigger))
    {keep keep' : StateId → Bool} (alike : ∀ id < machine.size, keep id = keep' id) :
    machine.demands keep resolved = machine.demands keep' resolved := by
  unfold demands
  apply List.flatMap_congr
  rintro ⟨⟨state, triggers⟩, id⟩ member
  have inside : id < machine.size := by
    have short := List.snd_lt_of_mem_zipIdx member
    rw [List.length_zip] at short
    exact Nat.lt_of_lt_of_le short (Nat.min_le_left _ _)
  simp only [alike id inside]

private theorem draftOf_eq {machine : StateMachine} {resolved : List (List StateTrigger)}
    (resolves : machine.resolve = .ok resolved) (keep : StateId → Bool) :
    machine.draftOf keep =
      .ok (((machine.demands keep resolved).foldl addToDemanded []).map ruleOf) := by
  rw [draftOf, resolves, ← entities_eq_foldl]
  simp only [draftEntry_eq]
  rfl

namespace GathersAll

variable {demands : List Demand} {entities : List (String × Branches)}

private theorem demanded (gathers : GathersAll demands entities) {entity : String × Branches}
    (member : entity ∈ entities) : ∃ demand ∈ demands, demand.entity = entity.1 := by
  have key : entity.1 ∈ entities.map (·.1) := List.mem_map_of_mem member
  rwa [gathers.names, List.mem_eraseDups, List.mem_map] at key

private theorem filled (gathers : GathersAll demands entities) {entity : String × Branches}
    (member : entity ∈ entities) : entity.2 ≠ [] := by
  obtain ⟨demand, demanded, same⟩ := gathers.demanded member
  have own : demand ∈ demands.filter (·.entity = entity.1) := by simp [demanded, same]
  have name : demand.guard.name ∈ entity.2.map (·.1.name) := by
    rw [(gathers.branches entity member).names, List.mem_eraseDups]
    exact List.mem_map_of_mem own
  rintro none
  simp [none] at name

private theorem builds (gathers : GathersAll demands entities)
    (valid : ∀ demand ∈ demands, IsEntityId demand.entity) :
    EventDraft.build (entities.map ruleOf) = .ok { entries := entities.map entryOf } := by
  have named : ∀ entity ∈ entities, IsEntityId entity.1 := by
    intro entity member
    obtain ⟨demand, demanded, same⟩ := gathers.demanded member
    exact same ▸ valid demand demanded
  have distinct : (entities.map (·.1)).Nodup := gathers.names ▸ nodup_eraseDups _
  rw [EventDraft.build, buildEntries_rules named (fun _ => gathers.filled) distinct (by simp)]
  rfl

end GathersAll

/-- The draft of some states has what their demands gather, whatever else the ids name, and the
draft of all states is that of all ids. A schema can be built from it where the entities are entity
ids. -/
theorem draftOnly_gathers {machine : StateMachine} {resolved : List (List StateTrigger)}
    (resolves : machine.resolve = .ok resolved) (ids : List StateId) :
    let demands := machine.demands (fun id => ids.contains id) resolved
    ∃ entities, GathersAll demands entities ∧
      machine.draftOnly ids = .ok (entities.map ruleOf) ∧
      machine.draftOnly (ids.filter (· < machine.size)) = .ok (entities.map ruleOf) ∧
      machine.draft = machine.draftOnly (List.range machine.size) ∧
      ((∀ demand ∈ demands, IsEntityId demand.entity) →
        EventDraft.build (entities.map ruleOf) = .ok { entries := entities.map entryOf }) := by
  have gathers := gathersAll_foldl (machine.demands (fun id => ids.contains id) resolved)
  refine ⟨_, gathers, draftOf_eq resolves _, ?_, ?_, gathers.builds⟩
  · rw [draftOnly, draftOf_eq resolves, demands_congr machine resolved]
    intro id inside
    rw [Bool.eq_iff_iff]
    simp [inside]
  · rw [draft, draftOnly, draftOf_eq resolves, draftOf_eq resolves, demands_congr machine resolved]
    intro id inside
    simp [inside]

/-- Two states with side effects that are triggered by the same sensors, and one without. -/
def hallway : StateMachine where
  states := [
    { name := "door open", condition := Condition.always
      sideEffects := [.call "light.on" [.report]]
      activatedBy := [({ entity := "sensor.door" } : StateTrigger).goingTo ["open"],
        { entity := "sensor.hall" }] },
    { name := "quiet", condition := Condition.always
      activatedBy := [{ entity := "sensor.noise" }] },
    { name := "busy", condition := Condition.always
      sideEffects := [.call "fan.on" [.report]]
      activatedBy := [{ entity := "sensor.hall" },
        ({ entity := "sensor.door" } : StateTrigger).goingTo ["open"]] }]

theorem draftOnly_gathers_hallway :
    ∃ entities : List (String × Branches),
      entities.map (·.1) = ["sensor.door", "sensor.hall"] ∧
      (∀ entity ∈ entities, ∀ branch ∈ entity.2,
        branch.2 = [.call "light.on" [.report], .call "fan.on" [.report]]) ∧
      hallway.draftOnly [2, 7, 0, 1] = .ok (entities.map ruleOf) ∧
      EventDraft.build (entities.map ruleOf) = .ok { entries := entities.map entryOf } := by
  have resolves : hallway.resolve = .ok (hallway.states.map (·.activatedBy)) := by cbv
  obtain ⟨entities, gathers, drafted, -, -, builds⟩ := draftOnly_gathers resolves [2, 7, 0, 1]
  have valid : ∀ demand ∈ hallway.demands (fun id => [2, 7, 0, 1].contains id)
      (hallway.states.map (·.activatedBy)), IsEntityId demand.entity := by
    simp only [IsEntityId, ← EventKind.isEntityId_iff]
    decide
  have names : entities.map (·.1) = ["sensor.door", "sensor.hall"] :=
    gathers.names.trans (by decide)
  refine ⟨entities, names, ?_, drafted, builds valid⟩
  intro entity member branch inside
  have branches := gathers.branches entity member
  have known : entity.1 ∈ ["sensor.door", "sensor.hall"] := names ▸ List.mem_map_of_mem member
  have named : branch.1.name ∈ entity.2.map (·.1.name) := List.mem_map_of_mem inside
  rw [branches.actions branch inside]
  rw [branches.names] at named
  simp only [List.mem_cons, List.not_mem_nil, or_false] at known
  rcases known with door | hall
  · rw [door] at named ⊢
    have only : branch.1.name = "new_states[open]" := List.mem_singleton.mp named
    rw [only]
    rfl
  · rw [hall] at named ⊢
    have only : branch.1.name = "always" := List.mem_singleton.mp named
    rw [only]
    rfl

end HomeRules.StateMachine
