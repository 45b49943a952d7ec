import HomeRules.Proofs.Condition
import HomeRules.Proofs.Faults
import HomeRules.Proofs.Schema.Selection
import HomeRules.Schema.Build

/-!
# Nested rules and their flat form

What a schema is built from is written as a start to which branches are appended, each
with actions or with a mapping of its own. Read as it is written, it is a tree whose leaves
are action lists, and a leaf counts when every condition above it holds. The flat items
that are built select just these leaves, and a build fails at the first place, in the order
of writing, where the text breaks a rule.
-/

set_option autoImplicit false

namespace HomeRules

/-! ## Actions as they are written -/

namespace ActionTree

/-- The actions of the entries of a list, an inner list as a group of its own. -/
def members : List ActionTree → List Action
  | [] => []
  | .nothing :: rest => members rest
  | .one action :: rest => action :: members rest
  | .many items :: rest => .group (groupName (members items)) (members items) :: members rest

def actions : ActionTree → List Action
  | .nothing => []
  | .one action => [action]
  | .many items => members items

/-- How many lists deep the entries of a list reach. -/
def reach : List ActionTree → Nat
  | [] => 0
  | .nothing :: rest => reach rest
  | .one _ :: rest => reach rest
  | .many items :: rest => max (reach items + 1) (reach rest)

/-- How many further lists a tree nests. -/
def nesting : ActionTree → Nat
  | .nothing => 0
  | .one _ => 0
  | .many items => reach items

/-- What is wrong with a tree that lies `depth` levels deep. -/
def faults (depth : Nat) (tree : ActionTree) : List SchemaError :=
  if maxDepth < depth + tree.nesting then [.tooDeep] else []

private theorem normalizeItems_eq (depth : Nat) (items : List ActionTree)
    (within : depth ≤ maxDepth) :
    normalizeItems depth items =
      if maxDepth < depth + reach items then .error .tooDeep else .ok (members items) := by
  -- Along the recursion of `members`, which enters an inner list before the rest.
  induction items using members.induct generalizing depth with
  | case1 =>
      rw [normalizeItems, members, reach, Nat.add_zero, if_neg (Nat.not_lt.mpr within)]
  | case2 rest previous => rw [normalizeItems, members, reach, previous depth within]
  | case3 action rest previous =>
      rw [normalizeItems, members, reach, previous depth within]
      split <;> rfl
  | case4 items rest inner previous =>
      rw [normalizeItems, members, reach]
      by_cases entered : maxDepth < depth + 1
      · rw [if_pos entered, if_pos (by omega)]
      · rw [if_neg entered, inner (depth + 1) (by omega), previous depth within]
        by_cases inside : maxDepth < depth + 1 + reach items
        · have deep : maxDepth < depth + max (reach items + 1) (reach rest) := by omega
          rw [if_pos inside, if_pos deep]
          rfl
        · by_cases later : maxDepth < depth + reach rest
          · have deep : maxDepth < depth + max (reach items + 1) (reach rest) := by omega
            rw [if_neg inside, if_pos later, if_pos deep]
            rfl
          · have within : ¬maxDepth < depth + max (reach items + 1) (reach rest) := by omega
            rw [if_neg inside, if_neg later, if_neg within]
            rfl

/-- A tree is normalized unless its lists nest too deep where it lies. -/
theorem normalizeAt_eq (depth : Nat) (tree : ActionTree) :
    tree.normalizeAt depth =
      if maxDepth < depth + tree.nesting then .error .tooDeep else .ok tree.actions := by
  unfold normalizeAt
  by_cases outside : maxDepth < depth
  · rw [if_pos outside, if_pos (by omega)]
  · rw [if_neg outside]
    cases tree with
    | nothing => rw [nesting, actions, Nat.add_zero, if_neg outside]
    | one action => rw [nesting, actions, Nat.add_zero, if_neg outside]
    | many items => exact normalizeItems_eq depth items (Nat.not_lt.mp outside)

theorem normalizeAt_reports (depth : Nat) (tree : ActionTree) :
    Reports (tree.faults depth) (· = tree.actions) (tree.normalizeAt depth) := by
  rw [normalizeAt_eq, faults]
  split
  · exact .error _
  · exact .ok rfl

end ActionTree

/-! ## Conditions as they are written -/

/-- Whether constants answer what they are. Nothing is said about other probes. -/
def Answers.Faithful (answers : Answers) : Prop :=
  ∀ probe value, probe.sensor = .constant value → answers probe = .ok value

theorem Answers.faithful_read (world : World) (payload : Payload) :
    Answers.Faithful fun probe => probe.sensor.read world payload := by
  intro probe value constant
  simp only [constant, Sensor.read]

theorem Condition.always_holds {answers : Answers} (faithful : answers.Faithful) :
    (always.evaluate answers).holds = true := by
  have answered : answers ⟨"always", .nullary, .constant true, false⟩ = .ok true :=
    faithful _ true rfl
  simp only [always, evaluate, Probe.verdict, answered]
  rfl

/-- How conditional actions are written: a start, to which branches are appended. -/
inductive Composition where
  | unconditional (tree : ActionTree)
  | conditions
  | when (start : Composition) (condition : Condition) (tree : ActionTree)
  | whenNested (start : Composition) (condition : Condition) (nested : Composition)
  | firstMatch (start : Composition)

/-- An action tree, and the conditions above it, outermost first. -/
structure Leaf where
  path : List Condition
  tree : ActionTree

namespace Leaf

def below (condition : Condition) (leaf : Leaf) : Leaf :=
  { leaf with path := condition :: leaf.path }

/-- Whether all conditions above a leaf hold. A condition that fails does not. -/
def holds (answers : Answers) (leaf : Leaf) : Bool :=
  leaf.path.all fun condition => (condition.evaluate answers).holds

end Leaf

namespace Composition

def draft : Composition → ConditionDraft
  | .unconditional tree => .unconditional tree
  | .conditions => .conditions
  | .when start condition tree => start.draft.when condition tree
  | .whenNested start condition nested => start.draft.whenNested condition nested.draft
  | .firstMatch start => start.draft.firstMatch

/-- Whether a branch was appended or may be. -/
def isMapping : Composition → Bool
  | .unconditional _ => false
  | .conditions => true
  | .when _ _ _ => true
  | .whenNested _ _ _ => true
  | .firstMatch start => start.isMapping

/-- Whether only the first leaf that holds counts. Actions that always run cannot ask
for it. -/
def exclusive : Composition → Bool
  | .unconditional _ => false
  | .conditions => false
  | .when start _ _ => start.exclusive
  | .whenNested start _ _ => start.exclusive
  | .firstMatch start => start.isMapping

def isEmpty : Composition → Bool
  | .conditions => true
  | .firstMatch start => start.isEmpty
  | _ => false

/-- The leaves in the order they are written. Actions that a mapping starts with stand
under no condition. -/
def leaves : Composition → List Leaf
  | .unconditional tree => [⟨[], tree⟩]
  | .conditions => []
  | .when start condition tree => start.leaves ++ [⟨[condition], tree⟩]
  | .whenNested start condition nested => start.leaves ++ nested.leaves.map (·.below condition)
  | .firstMatch start => start.leaves

/-- The actions that are due when the probes answer as given: those of all leaves that
hold, or of the first. -/
def due (answers : Answers) (written : Composition) : List (List Action) :=
  let holding := written.leaves.filter (·.holds answers)
  (if written.exclusive then holding.take 1 else holding).map (·.tree.actions)

/-- What is wrong with a mapping that has `depth` mappings around it, given what is wrong
with its branches. -/
def mappingFaults (kind : EventKind) (depth : Nat) (empty : Bool)
    (branches : List SchemaError) : List SchemaError :=
  if maxDepth ≤ depth then [.tooDeep]
  else if empty then [.emptyConditionSchema kind]
  else branches

/-- What is wrong with the branches, in the order they are written. -/
def branchFaults (kind : EventKind) (depth : Nat) : Composition → List SchemaError
  | .unconditional tree => tree.faults depth
  | .conditions => []
  | .when start _ tree => start.branchFaults kind depth ++ tree.faults depth
  | .whenNested start _ nested =>
    start.branchFaults kind depth ++
      if nested.isMapping then
        mappingFaults kind (depth + 1) nested.isEmpty (nested.branchFaults kind (depth + 1))
      else nested.branchFaults kind depth
  | .firstMatch start => start.branchFaults kind depth

def faults (kind : EventKind) (written : Composition) : List SchemaError :=
  if written.isMapping then
    mappingFaults kind 0 written.isEmpty (written.branchFaults kind 0)
  else written.branchFaults kind 0

end Composition

/-! ## Flattening -/

/-- A flat item stands for a leaf that lies below `path`. -/
structure GuardedActions.StandsFor (answers : Answers) (path : List Condition) (leaf : Leaf)
    (item : GuardedActions) : Prop where
  actions : item.actions = leaf.tree.actions
  condition : (item.condition.evaluate answers).holds =
    (path ++ leaf.path).all fun condition => (condition.evaluate answers).holds

theorem GuardedActions.StandsFor.below {answers : Answers} {path : List Condition}
    {condition : Condition} {leaf : Leaf} {item : GuardedActions}
    (stands : item.StandsFor answers (path ++ [condition]) leaf) :
    item.StandsFor answers path (leaf.below condition) where
  actions := stands.actions
  condition := by
    rw [stands.condition, List.append_assoc]
    rfl

theorem Condition.evaluateAll_holds (answers : Answers) (conditions : List Condition) :
    (evaluateAll answers conditions).holds =
      conditions.all fun condition => (condition.evaluate answers).holds := by
  induction conditions with
  | nil => rfl
  | cons condition rest previous =>
      rw [evaluateAll, List.all_cons, ← previous]
      obtain ⟨answer, asked⟩ := condition.evaluate answers
      cases answer with
      | error failure => rfl
      | ok value => cases value <;> rfl

theorem Condition.conjunction_holds (answers : Answers) (conditions : List Condition) :
    ((conjunction conditions).evaluate answers).holds =
      conditions.all fun condition => (condition.evaluate answers).holds := by
  rw [evaluate_conjunction, evaluateAll_holds]

private theorem flattenBranches_append (kind : EventKind) (path : List Condition) (depth : Nat)
    (first second : List (Condition × BranchDraft)) :
    flattenBranches kind path depth (first ++ second) = (do
      let items ← flattenBranches kind path depth first
      let others ← flattenBranches kind path depth second
      return items ++ others) := by
  induction first with
  | nil =>
      rw [List.nil_append, flattenBranches]
      exact (bind_pure (flattenBranches kind path depth second)).symm
  | cons branch rest previous =>
      obtain ⟨condition, branch⟩ := branch
      cases branch with
      | actions tree =>
          rw [List.cons_append, flattenBranches, flattenBranches, previous]
          simp only [bind_assoc, pure_bind, List.cons_append]
      | nested inner =>
          rw [List.cons_append, flattenBranches, flattenBranches, previous]
          split
          · rfl
          · split
            · rfl
            · simp only [bind_assoc, pure_bind, List.append_assoc]

section Flattening

variable {answers : Answers} {kind : EventKind} {path : List Condition} {depth : Nat}

private theorem append_reports {first second : List (Condition × BranchDraft)}
    {earlier later : List SchemaError} {front back : List Leaf}
    (begun : Reports earlier (List.Forall₂ (GuardedActions.StandsFor answers path) front)
      (flattenBranches kind path depth first))
    (continued : Reports later (List.Forall₂ (GuardedActions.StandsFor answers path) back)
      (flattenBranches kind path depth second)) :
    Reports (earlier ++ later) (List.Forall₂ (GuardedActions.StandsFor answers path) (front ++ back))
      (flattenBranches kind path depth (first ++ second)) := by
  rw [flattenBranches_append]
  apply begun.bind
  intro items stand
  exact continued.bind_pure fun others standToo => List.rel_append stand standToo

private theorem actions_reports (condition : Condition) (tree : ActionTree) :
    Reports (tree.faults depth)
      (List.Forall₂ (GuardedActions.StandsFor answers path) [⟨[condition], tree⟩])
      (flattenBranches kind path depth [(condition, .actions tree)]) := by
  rw [flattenBranches, flattenBranches]
  apply (tree.normalizeAt_reports depth).bind_pure
  intro actions normal
  refine .cons ⟨normal, ?_⟩ .nil
  rw [Condition.conjunction_holds]

/-- A guard that always holds adds nothing to the conditions above it. -/
private theorem always_reports (faithful : answers.Faithful) (tree : ActionTree) :
    Reports (tree.faults depth) (List.Forall₂ (GuardedActions.StandsFor answers path) [⟨[], tree⟩])
      (flattenBranches kind path depth [(.always, .actions tree)]) := by
  apply (actions_reports .always tree).imp
  intro items stand
  cases stand with
  | cons stands none =>
      refine .cons ⟨stands.actions, ?_⟩ none
      rw [stands.condition, List.all_append, List.all_append, List.all_cons,
        Condition.always_holds faithful, Bool.true_and]

private theorem nested_reports (condition : Condition) {inner : List (Condition × BranchDraft)}
    {inside : List SchemaError} {leaves : List Leaf}
    (reports : Reports inside (List.Forall₂ (GuardedActions.StandsFor answers (path ++ [condition])) leaves)
      (flattenBranches kind (path ++ [condition]) (depth + 1) inner)) :
    Reports (Composition.mappingFaults kind (depth + 1) inner.isEmpty inside)
      (List.Forall₂ (GuardedActions.StandsFor answers path) (leaves.map (·.below condition)))
      (flattenBranches kind path depth [(condition, .nested inner)]) := by
  rw [flattenBranches, flattenBranches, Composition.mappingFaults]
  split
  · exact .error _
  · split
    · exact .error _
    · apply reports.bind_pure
      intro items stand
      rw [List.append_nil, List.forall₂_map_left_iff]
      exact stand.imp fun leaf item stands => stands.below

end Flattening

/-- The draft of what was written is a tree, or a mapping whose branches flatten to the
leaves. -/
def Composition.Drafts (answers : Answers) (written : Composition) : ConditionDraft → Prop
  | .unconditional tree =>
    written.isMapping = false ∧ written.exclusive = false ∧ written.leaves = [⟨[], tree⟩] ∧
      ∀ kind depth, written.branchFaults kind depth = tree.faults depth
  | .conditional branches exclusive =>
    written.isMapping = true ∧ written.exclusive = exclusive ∧
      written.isEmpty = branches.isEmpty ∧
      ∀ kind path depth, Reports (written.branchFaults kind depth)
        (List.Forall₂ (GuardedActions.StandsFor answers path) written.leaves)
        (flattenBranches kind path depth branches)

/-- Appending a branch appends its leaves and what is wrong with it. -/
private theorem push_drafts {answers : Answers} (faithful : answers.Faithful)
    {start : Composition} {draft : ConditionDraft} (drafts : start.Drafts answers draft)
    (condition : Condition) (branch : BranchDraft) {faults : EventKind → Nat → List SchemaError}
    {leaves : List Leaf}
    (reports : ∀ kind path depth, Reports (faults kind depth)
      (List.Forall₂ (GuardedActions.StandsFor answers path) leaves)
      (flattenBranches kind path depth [(condition, branch)])) :
    ∃ branches, draft.push condition branch = .conditional branches start.exclusive ∧
      branches.isEmpty = false ∧
      ∀ kind path depth, Reports (start.branchFaults kind depth ++ faults kind depth)
        (List.Forall₂ (GuardedActions.StandsFor answers path) (start.leaves ++ leaves))
        (flattenBranches kind path depth branches) := by
  cases draft with
  | unconditional tree =>
      obtain ⟨_, inclusive, single, startFaults⟩ := drafts
      rw [inclusive, single]
      refine ⟨[(.always, .actions tree), (condition, branch)], rfl, rfl, fun kind path depth => ?_⟩
      rw [startFaults]
      exact append_reports (always_reports faithful tree) (reports kind path depth)
  | conditional branches exclusive =>
      obtain ⟨_, rfl, _, startReports⟩ := drafts
      refine ⟨branches ++ [(condition, branch)], rfl, by simp, fun kind path depth => ?_⟩
      exact append_reports (startReports kind path depth) (reports kind path depth)

theorem Composition.drafts {answers : Answers} (faithful : answers.Faithful)
    (written : Composition) : written.Drafts answers written.draft := by
  induction written with
  | unconditional tree => exact ⟨rfl, rfl, rfl, fun _ _ => rfl⟩
  | conditions =>
      refine ⟨rfl, rfl, rfl, fun kind path depth => ?_⟩
      rw [branchFaults, leaves, flattenBranches]
      exact .ok .nil
  | when start condition tree started =>
      obtain ⟨branches, pushed, some, reports⟩ := push_drafts faithful started condition
        (.actions tree) fun kind path depth => actions_reports condition tree
      rw [draft, ConditionDraft.when, pushed]
      exact ⟨rfl, rfl, some.symm, reports⟩
  | whenNested start condition nested started nestedDrafts =>
      rw [draft]
      cases inner : nested.draft with
      | unconditional tree =>
          rw [inner] at nestedDrafts
          obtain ⟨leaf, _, single, nestedFaults⟩ := nestedDrafts
          obtain ⟨branches, pushed, some, reports⟩ := push_drafts faithful started condition
            (.actions tree) fun kind path depth => actions_reports condition tree
          rw [ConditionDraft.whenNested, pushed]
          refine ⟨rfl, rfl, some.symm, fun kind path depth => ?_⟩
          rw [leaves, branchFaults, leaf, if_neg Bool.false_ne_true, single, nestedFaults]
          exact reports kind path depth
      | conditional branches exclusive =>
          rw [inner] at nestedDrafts
          obtain ⟨mapping, _, empty, nestedReports⟩ := nestedDrafts
          obtain ⟨branches, pushed, some, reports⟩ := push_drafts faithful started condition
            (.nested branches) fun kind path depth =>
              nested_reports condition (nestedReports kind (path ++ [condition]) (depth + 1))
          rw [ConditionDraft.whenNested, pushed]
          refine ⟨rfl, rfl, some.symm, fun kind path depth => ?_⟩
          rw [leaves, branchFaults, mapping, empty]
          exact reports kind path depth
  | firstMatch start started =>
      rw [draft]
      cases begun : start.draft with
      | unconditional tree =>
          rw [begun] at started
          obtain ⟨leaf, _, single, startFaults⟩ := started
          exact ⟨leaf, leaf, single, startFaults⟩
      | conditional branches exclusive =>
          rw [begun] at started
          obtain ⟨mapping, _, empty, reports⟩ := started
          exact ⟨mapping, mapping, empty, reports⟩

/-! ## Bodies and entries -/

/-- Flat items select the actions of the leaves they stand for. -/
private theorem selected_stands {answers : Answers} {leaves : List Leaf}
    {items : List GuardedActions}
    (stand : List.Forall₂ (GuardedActions.StandsFor answers []) leaves items) (exclusive : Bool) :
    let body := ConditionSchema.conditional items exclusive
    let holding := leaves.filter (·.holds answers)
    body.selected (body.reach (·.evaluate answers)) =
      (if exclusive then holding.take 1 else holding).map (·.tree.actions) := by
  have same : (items.filter fun item => (item.condition.evaluate answers).holds).map (·.actions) =
      (leaves.filter (·.holds answers)).map (·.tree.actions) := by
    induction stand with
    | nil => rfl
    | @cons leaf item _ _ stands _ previous =>
        have holds : (item.condition.evaluate answers).holds = leaf.holds answers := stands.condition
        rw [List.filter_cons, List.filter_cons, holds]
        split
        · rw [List.map_cons, List.map_cons, previous, stands.actions]
        · exact previous
  intro body holding
  rw [ConditionSchema.selected_eq]
  cases exclusive with
  | false => exact same
  | true =>
      rw [ConditionSchema.matching, ← List.head?_filter, ← List.take_one, List.map_take, same]
      exact List.map_take.symm

theorem Composition.build_reports {answers : Answers} (faithful : answers.Faithful)
    (kind : EventKind) (written : Composition) :
    Reports (written.faults kind)
      (fun body => body.selected (body.reach (·.evaluate answers)) = written.due answers)
      (written.draft.build kind) := by
  have drafts := written.drafts faithful
  cases drafted : written.draft with
  | unconditional tree =>
      rw [drafted] at drafts
      obtain ⟨leaf, inclusive, single, faults⟩ := drafts
      rw [Composition.faults, leaf, if_neg Bool.false_ne_true, faults]
      apply (tree.normalizeAt_reports 0).bind_pure
      intro actions normal
      rw [due, inclusive, single, normal]
      rfl
  | conditional branches exclusive =>
      rw [drafted] at drafts
      obtain ⟨mapping, asked, empty, reports⟩ := drafts
      rw [Composition.faults, mapping, if_pos rfl, mappingFaults,
        if_neg (Nat.not_le.mpr (by decide)), empty, ConditionDraft.build]
      split
      · exact .error _
      · apply (reports kind [] 0).bind_pure
        intro items stand
        rw [due, asked]
        exact selected_stands stand exclusive

/-- An event key, and what is written to be done about events of its kind. -/
structure Binding where
  key : String
  body : Composition
  mode : TriggerMode

namespace Binding

def draft (binding : Binding) : DraftEntry :=
  ⟨binding.key, binding.body.draft, binding.mode⟩

/-- What is wrong with a binding that follows bindings of the kinds in `seen`. -/
def faults (seen : List EventKind) (binding : Binding) : List SchemaError :=
  match EventKind.parse binding.key with
  | .error cause => [.unknownEventKind binding.key cause]
  | .ok kind => if kind ∈ seen then [.duplicateEventKind kind] else binding.body.faults kind

/-- What is wrong with bindings, in the order they are written. -/
def faultsOf : List EventKind → List Binding → List SchemaError
  | _, [] => []
  | seen, binding :: rest =>
    binding.faults seen ++ faultsOf ((EventKind.parse binding.key).toOption.toList ++ seen) rest

/-- An entry does what a binding says. -/
structure ReadAs (answers : Answers) (binding : Binding) (entry : SchemaEntry) : Prop where
  kind : EventKind.parse binding.key = .ok entry.kind
  mode : entry.mode = binding.mode
  selects : entry.body.selected (entry.body.reach (·.evaluate answers)) = binding.body.due answers

private theorem buildEntries_reports {answers : Answers} (faithful : answers.Faithful)
    (seen : List EventKind) (bindings : List Binding) :
    Reports (faultsOf seen bindings) (List.Forall₂ (ReadAs answers) bindings)
      (buildEntries seen (bindings.map draft)) := by
  induction bindings generalizing seen with
  | nil => exact .ok .nil
  | cons binding rest previous =>
      rw [List.map_cons, buildEntries, faultsOf, faults]
      have key : binding.draft.key = binding.key := rfl
      cases parsed : EventKind.parse binding.key with
      | error cause =>
          simp only [key, parsed]
          rfl
      | ok kind =>
          simp only [key, parsed, List.contains_eq_mem, decide_eq_true_eq]
          split
          · rfl
          · apply (binding.body.build_reports faithful kind).bind
            intro body selects
            apply (previous (kind :: seen)).bind_pure
            intro entries read
            exact .cons ⟨parsed, rfl, selects⟩ read

end Binding

/-- What is built selects what is due as it was written, or the first fault is reported. -/
theorem EventDraft.build_reads {answers : Answers} (faithful : answers.Faithful)
    (bindings : List Binding) :
    Reports (Binding.faultsOf [] bindings)
      (fun schema => List.Forall₂ (Binding.ReadAs answers) bindings schema.entries)
      (EventDraft.build (bindings.map Binding.draft)) := by
  unfold build
  exact (Binding.buildEntries_reports faithful [] bindings).bind_pure fun _ read => read

/-- A lamp for the night, kept dark by whoever sleeps and by a sensor that is out of
order. -/
def nightLamp : Binding where
  key := "motion"
  body := (Composition.unconditional (.one (.call "greet" []))).whenNested (.flag "night" "night")
    ((Composition.unconditional (.one (.call "light" []))).whenNested
      (.leaf { name := "lux", arity := .nullary, sensor := .failing (.error ["out of order"]) })
      (Composition.conditions.when (Condition.flag "asleep" "asleep").not (.one (.call "blind" []))))
  mode := .restart

theorem EventDraft.build_reads_nightLamp :
    let world : World := { flags := [("night", true)] }
    let answers : Answers := fun probe => probe.sensor.read world (.bus [])
    answers.Faithful ∧ ∃ schema, EventDraft.build [nightLamp.draft] = .ok schema ∧
      schema.entries.map (fun entry => entry.body.selected (entry.body.reach (·.evaluate answers))) =
        [[[.call "greet" []], [.call "light" []]]] := by
  intro world answers
  have faithful : answers.Faithful := Answers.faithful_read world (.bus [])
  have reports := EventDraft.build_reads faithful [nightLamp]
  have sound : Binding.faultsOf [] [nightLamp] = [] := by
    cbv
  have due : nightLamp.body.due answers = [[.call "greet" []], [.call "light" []]] := by
    cbv
  rw [sound] at reports
  refine ⟨faithful, ?_⟩
  cases built : EventDraft.build [nightLamp.draft] with
  | error fault =>
      rw [List.map_singleton, built] at reports
      cases reports
  | ok schema =>
      rw [List.map_singleton, built] at reports
      obtain ⟨entry, others, read, none, entries⟩ := List.forall₂_cons_left_iff.mp reports.2
      rw [List.forall₂_nil_left_iff.mp none] at entries
      refine ⟨schema, rfl, ?_⟩
      rw [entries, List.map_singleton, read.selects, due]

end HomeRules
