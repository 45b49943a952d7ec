import HomeRules.Proofs.Condition
import HomeRules.Proofs.Host.Dispatch
import HomeRules.Proofs.Schema.Build
import HomeRules.StateMachine.Rules
import Mathlib

/-!
# What the rules of a machine bring about

Every trigger of a kept state demands its side effects on changes of one entity, under one
guard. The rules gather these demands by entity and by the name of the guard, and of the
guards that share a name the first decides for all. A change of the entity therefore brings
about the side effects of exactly the demands whose deciding guard holds, once for each; these
are the demands whose own guard holds as long as guards of one name hold alike.
-/

set_option autoImplicit false

namespace HomeRules.StateMachine

/-! ## Demands -/

/-- What a trigger asks for: actions that are due when an entity changes and a guard holds. -/
structure Demand where
  entity : String
  guard : Condition
  actions : List Action

def demandsOf (state : State) (triggers : List StateTrigger) : List Demand :=
  if state.sideEffects.isEmpty then []
  else triggers.map fun trigger => {
    entity := trigger.entity
    guard := trigger.condition.getD Condition.always
    actions := state.sideEffects }

/-- The demands of the kept states, state by state. -/
def demands (machine : StateMachine) (keep : StateId → Bool)
    (resolved : List (List StateTrigger)) : List Demand :=
  (machine.states.zip resolved).zipIdx.flatMap fun ((state, triggers), id) =>
    if keep id then demandsOf state triggers else []

/-- The kind of events in which an entity changes, if its name is one. -/
def changesOf (entity : String) : Option EventKind :=
  (EventKind.parse ("state:" ++ entity)).toOption

def Demand.concerns (demand : Demand) (kind : EventKind) : Bool :=
  changesOf demand.entity == some kind

/-- The guard that decides for a demand among demands on its entity: the first of its name. -/
def deciding (demands : List Demand) (demand : Demand) : Condition :=
  ((demands.find? (·.guard.name = demand.guard.name)).map (·.guard)).getD demand.guard

/-- The leaf actions that demands on one entity bring about when `holds` says which guards
hold. -/
def brought (holds : Condition → Bool) (demands : List Demand) : List Action :=
  demands.flatMap fun demand =>
    if holds (deciding demands demand) then Action.leavesOf demand.actions else []

/-! ## Branches -/

section Branches

variable {holds : Condition → Bool}

def addDemand (branches : Branches) (demand : Demand) : Branches :=
  addBranch demand.guard demand.actions branches

def guardNamed (branches : Branches) (name : String) : Option Condition :=
  (branches.find? (·.1.name = name)).map (·.1)

def picked (holds : Condition → Bool) (branches : Branches) : List Action :=
  branches.flatMap fun branch => if holds branch.1 then Action.leavesOf branch.2 else []

private theorem guardNamed_addBranch (guard : Condition) (actions : List Action)
    (branches : Branches) (name : String) :
    guardNamed (addBranch guard actions branches) name =
      (guardNamed branches name).or (if guard.name = name then some guard else none) := by
  induction branches with
  | nil => by_cases named : guard.name = name <;> simp [guardNamed, addBranch, named]
  | cons branch rest previous =>
      unfold guardNamed at previous ⊢
      by_cases same : branch.1.name = guard.name
      · rw [addBranch, if_pos same]
        by_cases named : branch.1.name = name
        · simp [named]
        · have other : guard.name ≠ name := same ▸ named
          simp [named, other]
      · rw [addBranch, if_neg same]
        by_cases named : branch.1.name = name
        · simp [named]
        · simp [named, previous]

private theorem picked_addBranch (guard : Condition) (actions : List Action)
    (branches : Branches) :
    (picked holds (addBranch guard actions branches)).Perm
      (picked holds branches ++
        if holds ((guardNamed branches guard.name).getD guard) then Action.leavesOf actions
        else []) := by
  induction branches with
  | nil => exact .of_eq (List.append_nil _)
  | cons branch rest previous =>
      by_cases same : branch.1.name = guard.name
      · by_cases held : holds branch.1
        · simp only [addBranch, same, if_true, picked, List.flatMap_cons, held, guardNamed,
            List.find?_cons, decide_true, Option.map_some, Option.getD_some,
            Action.leavesOf_append, List.append_assoc]
          exact List.perm_append_comm.append_left _
        · simp [picked, addBranch, guardNamed, same, held]
      · have skipped : guardNamed (branch :: rest) guard.name = guardNamed rest guard.name := by
          simp [guardNamed, same]
        rw [addBranch, if_neg same, skipped]
        simp only [picked, List.flatMap_cons, List.append_assoc] at previous ⊢
        exact previous.append_left _

private theorem guardNamed_foldl (demands : List Demand) (name : String) :
    guardNamed (demands.foldl addDemand []) name =
      (demands.find? (·.guard.name = name)).map (·.guard) := by
  induction demands using List.reverseRecOn with
  | nil => rfl
  | append_singleton demands demand previous =>
      rw [List.foldl_append, List.foldl_cons, List.foldl_nil, addDemand, guardNamed_addBranch,
        previous, List.find?_append]
      by_cases named : demand.guard.name = name
      · cases demands.find? (·.guard.name = name) <;> simp [named]
      · simp [named]

private theorem deciding_append {demands : List Demand} {demand : Demand}
    (member : demand ∈ demands) (others : List Demand) :
    deciding (demands ++ others) demand = deciding demands demand := by
  have found : (demands.find? (·.guard.name = demand.guard.name)).isSome := by
    rw [List.find?_isSome]
    exact ⟨demand, member, by simp⟩
  rw [deciding, List.find?_append, Option.or_of_isSome found, deciding]

private theorem deciding_last (demands : List Demand) (demand : Demand) :
    deciding (demands ++ [demand]) demand = deciding demands demand := by
  rw [deciding, List.find?_append, deciding]
  cases demands.find? (·.guard.name = demand.guard.name) <;> simp

private theorem brought_append_singleton (demands : List Demand) (demand : Demand) :
    brought holds (demands ++ [demand]) = brought holds demands ++
      if holds (deciding demands demand) then Action.leavesOf demand.actions else [] := by
  unfold brought
  rw [List.flatMap_append, List.flatMap_singleton, deciding_last]
  congr 1
  exact List.flatMap_congr fun earlier member => by rw [deciding_append member]

private theorem picked_foldl (demands : List Demand) :
    (picked holds (demands.foldl addDemand [])).Perm (brought holds demands) := by
  induction demands using List.reverseRecOn with
  | nil => exact .nil
  | append_singleton demands demand previous =>
      rw [List.foldl_append, List.foldl_cons, List.foldl_nil, addDemand,
        brought_append_singleton]
      refine (picked_addBranch _ _ _).trans ?_
      rw [guardNamed_foldl]
      exact previous.append_right _

/-- Where guards of one name hold alike, each demand is decided by its own guard. -/
theorem brought_eq_of_alike {demands : List Demand}
    (alike : ∀ first ∈ demands, ∀ second ∈ demands, first.guard.name = second.guard.name →
      holds first.guard = holds second.guard) :
    brought holds demands =
      (demands.filter (holds ·.guard)).flatMap fun demand => Action.leavesOf demand.actions := by
  have decides {demand : Demand} (member : demand ∈ demands) :
      holds (deciding demands demand) = holds demand.guard := by
    unfold deciding
    cases found : demands.find? (·.guard.name = demand.guard.name) with
    | none => rfl
    | some first =>
        have named : first.guard.name = demand.guard.name := by
          simpa using List.find?_some found
        exact alike first (List.mem_of_find?_eq_some found) demand member named
  rw [brought, List.flatMap_congr fun demand member => by rw [decides member]]
  clear alike decides
  induction demands with
  | nil => rfl
  | cons demand rest previous =>
      rw [List.flatMap_cons, previous]
      cases held : holds demand.guard <;> simp [held]

end Branches

/-! ## Entities -/

def branchesAt (entity : String) (entities : List (String × Branches)) : Branches :=
  ((entities.find? (·.1 = entity)).map (·.2)).getD []

def addToDemanded (entities : List (String × Branches)) (demand : Demand) :
    List (String × Branches) :=
  addToEntity demand.entity demand.guard demand.actions entities

private theorem branchesAt_addToDemanded (entity : String) (entities : List (String × Branches))
    (demand : Demand) :
    branchesAt entity (addToDemanded entities demand) =
      if demand.entity = entity then addDemand (branchesAt entity entities) demand
      else branchesAt entity entities := by
  unfold branchesAt addToDemanded
  induction entities with
  | nil => by_cases same : demand.entity = entity <;> simp [addToEntity, addDemand, addBranch, same]
  | cons first rest previous =>
      by_cases here : first.1 = demand.entity
      · by_cases same : demand.entity = entity <;> simp [addToEntity, addDemand, here, same]
      · by_cases found : first.1 = entity
        · have other : demand.entity ≠ entity := fun same => here (found.trans same.symm)
          rw [addToEntity, if_neg here]
          simp [found, other]
        · rw [addToEntity, if_neg here]
          simp [found, previous]

theorem branchesAt_foldl (entity : String) (demands : List Demand) :
    branchesAt entity (demands.foldl addToDemanded []) =
      (demands.filter (·.entity = entity)).foldl addDemand [] := by
  induction demands using List.reverseRecOn with
  | nil => rfl
  | append_singleton demands demand previous =>
      rw [List.foldl_append, List.foldl_cons, List.foldl_nil, branchesAt_addToDemanded, previous,
        List.filter_append, List.foldl_append]
      by_cases same : demand.entity = entity <;> simp [same]

private theorem mem_keys_addToDemanded (entity : String) (entities : List (String × Branches))
    (demand : Demand) :
    entity ∈ (addToDemanded entities demand).map (·.1) ↔
      entity ∈ entities.map (·.1) ∨ entity = demand.entity := by
  unfold addToDemanded
  induction entities with
  | nil => simp [addToEntity]
  | cons first rest previous =>
      by_cases here : first.1 = demand.entity
      · simp only [addToEntity, here, if_true, List.map_cons, List.mem_cons]
        tauto
      · simp only [addToEntity, here, if_false, List.map_cons, List.mem_cons, previous]
        tauto

private theorem mem_keys_foldl (entity : String) (demands : List Demand) :
    entity ∈ (demands.foldl addToDemanded []).map (·.1) ↔
      ∃ demand ∈ demands, demand.entity = entity := by
  induction demands using List.reverseRecOn with
  | nil => simp
  | append_singleton demands demand previous =>
      rw [List.foldl_append, List.foldl_cons, List.foldl_nil, mem_keys_addToDemanded, previous]
      simp [or_and_right, exists_or, eq_comm]

theorem entities_eq_foldl (machine : StateMachine) (keep : StateId → Bool)
    (resolved : List (List StateTrigger)) :
    machine.entities keep resolved = (machine.demands keep resolved).foldl addToDemanded [] := by
  rw [entities, demands, List.foldl_flatMap]
  congr 1
  funext entities ⟨⟨state, triggers⟩, id⟩
  dsimp only
  cases keep id with
  | false => rfl
  | true =>
      rw [if_pos rfl, if_pos rfl, addState, demandsOf]
      cases state.sideEffects.isEmpty with
      | true => rfl
      | false =>
          rw [if_neg Bool.false_ne_true, if_neg Bool.false_ne_true, List.foldl_map]
          rfl

/-! ## Schemas -/

def schemaOf (machine : StateMachine) (keep : StateId → Bool) :
    Except SchemaError EventSchema := do
  let draft ← machine.draftOf keep
  draft.build

def itemOf (branch : Condition × List Action) : GuardedActions where
  condition := Condition.conjunction [branch.1]
  actions := branch.2

theorem draftEntry_body (entity : String) (branches : Branches) :
    (draftEntry entity branches).body = .conditional (branches.map BranchDraft.plain) false := by
  have pushed (given : List (Condition × BranchDraft)) :
      branches.foldl (fun (draft : ConditionDraft) branch =>
          draft.when branch.1 (.ofList branch.2)) (.conditional given false) =
        .conditional (given ++ branches.map BranchDraft.plain) false := by
    induction branches generalizing given with
    | nil => simp
    | cons branch rest previous =>
        rw [List.foldl_cons, List.map_cons, List.append_cons]
        exact previous _
  exact pushed []

private theorem draftEntry_builds {entity : String} {branches : Branches} {entry : SchemaEntry}
    (builds : (draftEntry entity branches).Builds entry) :
    entry.body = .conditional (branches.map itemOf) false := by
  have body := builds.body
  rw [draftEntry_body, ConditionDraft.build, flattenBranches_plain] at body
  split at body
  · cases body
  · exact (Except.ok.inj body).symm

private theorem dueLeaves_branches (host : Host) (occasion : Occasion)
    (branches : Branches) :
    host.dueLeaves occasion (.conditional (branches.map itemOf) false) =
      picked (fun guard => (host.asks occasion guard).holds) branches := by
  have guarded (branch : Condition × List Action) :
      host.asks occasion (itemOf branch).condition = host.asks occasion branch.1 :=
    Condition.evaluateIn_conjunction_singleton _ _ _
  rw [Host.dueLeaves, ConditionSchema.matching, Action.leavesOf_flatten, picked]
  induction branches with
  | nil => rfl
  | cons branch rest previous =>
      rw [List.map_cons, List.flatMap_cons, ← previous, List.filter_cons, guarded]
      cases (host.asks occasion branch.1).holds <;> rfl

def draftOne (entity : String × Branches) : DraftEntry :=
  draftEntry entity.1 entity.2

private theorem draftOne_kind? (entity : String × Branches) :
    (draftOne entity).kind? = changesOf entity.1 := rfl

private theorem leavesDue_eq_picked {entities : List (String × Branches)} {schema : EventSchema}
    (built : EventDraft.build (entities.map draftOne) = .ok schema) (host : Host)
    (occasion : Occasion) (kind : EventKind) :
    host.leavesDue occasion schema kind =
      picked (fun guard => (host.asks occasion guard).holds)
        (((entities.find? (changesOf ·.1 == some kind)).map (·.2)).getD []) := by
  have entry := EventDraft.entry?_builds built kind
  simp only [List.find?_map, Function.comp_def, draftOne_kind?] at entry
  unfold Host.leavesDue
  cases found : entities.find? (changesOf ·.1 == some kind) with
  | none =>
      rw [found, Option.map_none] at entry
      generalize schema.entry? kind = missing at entry
      cases entry
      rfl
  | some entity =>
      rw [found, Option.map_some] at entry
      generalize schema.entry? kind = present at entry
      cases entry with
      | some builds =>
          dsimp only
          rw [draftEntry_builds builds]
          exact dueLeaves_branches host occasion entity.2

private theorem branches_of_kind {demands : List Demand} {kind : EventKind}
    (distinct : ((demands.foldl addToDemanded []).map fun entity => changesOf entity.1).Nodup) :
    (((demands.foldl addToDemanded []).find? (changesOf ·.1 == some kind)).map (·.2)).getD [] =
      (demands.filter (·.concerns kind)).foldl addDemand [] := by
  have present {demand : Demand} (member : demand ∈ demands) :
      ∃ branches, (demand.entity, branches) ∈ demands.foldl addToDemanded [] := by
    have key := (mem_keys_foldl demand.entity demands).mpr ⟨demand, member, rfl⟩
    obtain ⟨⟨entity, branches⟩, inside, rfl⟩ := List.mem_map.mp key
    exact ⟨branches, inside⟩
  cases found : (demands.foldl addToDemanded []).find? (changesOf ·.1 == some kind) with
  | none =>
      have nothing : demands.filter (·.concerns kind) = [] := by
        refine List.filter_eq_nil_iff.mpr fun demand member => ?_
        obtain ⟨branches, inside⟩ := present member
        have other := List.find?_eq_none.mp found (demand.entity, branches) inside
        rw [Demand.concerns]
        exact other
      rw [nothing]
      rfl
  | some entity =>
      have changes : changesOf entity.1 = some kind := by
        have chosen := List.find?_some found
        exact beq_iff_eq.mp chosen
      have inside := List.mem_of_find?_eq_some found
      -- Kinds differ between entities, so a kind tells an entity as well as its name does.
      have only {other : String × Branches} (member : other ∈ demands.foldl addToDemanded [])
          (same : changesOf other.1 = some kind) : other = entity :=
        List.inj_on_of_nodup_map distinct member inside (same.trans changes.symm)
      have concerned : demands.filter (·.concerns kind) = demands.filter (·.entity = entity.1) := by
        refine List.filter_congr fun demand member => ?_
        rw [Demand.concerns, Bool.eq_iff_iff, beq_iff_eq, decide_eq_true_iff]
        refine ⟨fun same => ?_, fun same => same ▸ changes⟩
        obtain ⟨branches, member⟩ := present member
        exact congrArg Prod.fst (only member same)
      have named : (demands.foldl addToDemanded []).find? (·.1 = entity.1) = some entity := by
        rw [← found]
        refine List.find?_congr fun other member => ?_
        rw [Bool.eq_iff_iff, beq_iff_eq, decide_eq_true_iff]
        exact ⟨fun same => same ▸ changes, fun same => congrArg Prod.fst (only member same)⟩
      rw [concerned, ← branchesAt_foldl, branchesAt, named]

/-- The leaf actions due in events of a kind are those that the demands on its entity bring
about. -/
theorem leavesDue_perm {machine : StateMachine} {keep : StateId → Bool}
    {resolved : List (List StateTrigger)} {schema : EventSchema}
    (resolves : machine.resolve = .ok resolved) (built : machine.schemaOf keep = .ok schema)
    (host : Host) (occasion : Occasion) (kind : EventKind) :
    (host.leavesDue occasion schema kind).Perm
      (brought (fun guard => (host.asks occasion guard).holds)
        ((machine.demands keep resolved).filter (·.concerns kind))) := by
  have drafted : machine.draftOf keep =
      .ok (((machine.demands keep resolved).foldl addToDemanded []).map draftOne) := by
    rw [draftOf, resolves, ← entities_eq_foldl]
    rfl
  rw [schemaOf, drafted] at built
  have distinct := EventDraft.kinds_nodup built
  simp only [List.map_map, Function.comp_def, draftOne_kind?] at distinct
  rw [leavesDue_eq_picked built, branches_of_kind distinct]
  exact picked_foldl _

/-- In the current generation a dispatch visits the leaf actions that the demands on the
changed entity bring about, each as often as it is demanded, and no others. Where guards of
one name hold alike these are the side effects of every demand whose own guard holds. -/
theorem dispatch_brings {machine : StateMachine} {keep : StateId → Bool}
    {resolved : List (List StateTrigger)} {schema : EventSchema}
    (resolves : machine.resolve = .ok resolved) (built : machine.schemaOf keep = .ok schema)
    (owner : Option String) (publish : Publisher) (kind : EventKind) (payload : Payload)
    (host : Host) :
    let occasion : Occasion := { generation := host.generation, owner, payload }
    let holds (guard : Condition) : Bool := (host.asks occasion guard).holds
    let concerned := (machine.demands keep resolved).filter (·.concerns kind)
    let ready := Host.readyDispatch occasion { schema with owner } kind
    ∃ leaves : List Action,
      leaves.Perm (brought holds concerned) ∧
      Host.ran (Host.dispatch publish host.generation { schema with owner } kind payload) host =
        Host.ran (leaves.foldlM (Host.visitNext publish occasion) (Host.answer ready host))
          (Host.after ready host) ∧
      ((∀ first ∈ concerned, ∀ second ∈ concerned,
          first.guard.name = second.guard.name → holds first.guard = holds second.guard) →
        leaves.Perm ((concerned.filter (holds ·.guard)).flatMap fun demand =>
          Action.leavesOf demand.actions)) := by
  dsimp only
  have due := leavesDue_perm resolves built host { generation := host.generation, owner, payload }
    kind
  refine ⟨_, due, Host.ran_dispatch_ready publish { schema with owner } kind payload host, ?_⟩
  intro alike
  rw [brought_eq_of_alike alike] at due
  exact due

/-- Two states that wait for a door in states whose names are spelled alike together. -/
def twoSpellings : StateMachine where
  states := [
    { name := "one", condition := Condition.always, sideEffects := [.call "light.on" [.report]]
      activatedBy := [({ entity := "sensor.door" } : StateTrigger).goingTo ["a, b"]] },
    { name := "two", condition := Condition.always, sideEffects := [.call "light.off" [.report]]
      activatedBy := [({ entity := "sensor.door" } : StateTrigger).goingTo ["a", "b"]] }]

def twoSpellingsRules : EventSchema where
  entries := [{
    kind := .stateChanged "sensor.door"
    body := .conditional [{
      condition := Condition.newStateIn ["a, b"]
      actions := [.call "light.on" [.report], .call "light.off" [.report]] }] false
    mode := .restart }]

def doorGoes (state : String) : Payload :=
  .state "sensor.door" none (some state)

theorem twoSpellings_resolve :
    twoSpellings.resolve = .ok (twoSpellings.states.map (·.activatedBy)) := by cbv

theorem twoSpellings_rules : twoSpellings.schemaOf (fun _ => true) = .ok twoSpellingsRules := by
  cbv

/-- Where the door goes to the state that the first spelling names, both lights are due. -/
theorem dispatch_brings_twoSpellings :
    ∃ leaves : List Action,
      leaves.Perm [.call "light.on" [.report], .call "light.off" [.report]] ∧
      Host.ran (Host.dispatch (Host.publishWithin 1) 0 twoSpellingsRules
          (.stateChanged "sensor.door") (doorGoes "a, b")) {} =
        Host.ran (leaves.foldlM (Host.visitNext (Host.publishWithin 1)
            { generation := 0, payload := doorGoes "a, b" }) { matched := 1 })
          { deeds := [.asked 0] } := by
  obtain ⟨leaves, due, visited, _⟩ := dispatch_brings twoSpellings_resolve twoSpellings_rules none
    (Host.publishWithin 1) (.stateChanged "sensor.door") (doorGoes "a, b") {}
  exact ⟨leaves, due, visited⟩

/-- Where the door goes to a state that only the second spelling names, the second state
demands its light in vain. -/
theorem shared_name_silences :
    ((twoSpellings.demands (fun _ => true) (twoSpellings.states.map (·.activatedBy))).filter
        fun demand => demand.concerns (.stateChanged "sensor.door") &&
          (Condition.evaluateIn {} (doorGoes "a") demand.guard).holds).map (·.actions) =
      [[.call "light.off" [.report]]] ∧
    (Host.ran (Host.dispatch (Host.publishWithin 1) 0 twoSpellingsRules
      (.stateChanged "sensor.door") (doorGoes "a")) {}).1 = .ok {} := by
  constructor
  · cbv
  · cbv

end HomeRules.StateMachine
