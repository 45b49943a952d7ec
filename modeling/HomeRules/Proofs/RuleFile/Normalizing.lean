import HomeRules.Proofs.Action.Tree
import HomeRules.Proofs.RuleFile.Depth
import HomeRules.RuleFile.Resolution

/-!
# Lists that were looked up are normalized

Levels are counted twice: down the text while names are looked up, and down the tree when it is
normalized. Groups, what follows a sleep and the actions of states are normalized where they are
found, the actions of rules when the schema is built. The two counts agree, so that wherever a list
was found, normalizing it succeeds.
-/

set_option autoImplicit false

namespace HomeRules.Scope

variable {scope : Scope} {depth : Nat} {inProgress : List String} {values : List Toml.Value}
  {tree : ActionTree}

/-! ## Lists at a depth -/

/-- Looks up a list that lies so many levels below the outermost one. -/
def actionsAt (scope : Scope) (depth : Nat) : ListLookup :=
  scope.listTree (maxDepth + 1 - depth)

/-- Beyond the limit nothing is looked up, and up to it, the lists of a list lie one level below
it. -/
theorem actionsAt_eq (scope : Scope) (depth : Nat) (inProgress : List String)
    (values : List Toml.Value) :
    scope.actionsAt depth inProgress values =
      if maxDepth < depth then .error .tooDeep
      else (scope.entryTrees (scope.actionsAt (depth + 1)) depth inProgress values).map .many := by
  by_cases deep : maxDepth < depth
  · have spent : maxDepth + 1 - depth = 0 := by omega
    rw [if_pos deep, actionsAt, spent, listTree]
  · have left : maxDepth + 1 - depth = (maxDepth - depth) + 1 := by omega
    have below : maxDepth + 1 - (depth + 1) = maxDepth - depth := by omega
    have here : maxDepth - (maxDepth - depth) = depth := by omega
    rw [if_neg deep, actionsAt, left, listTree, here, actionsAt, below]

/-- What was found at a depth nests less deep than the levels that were left there. -/
theorem normalizeAt_of_actionsAt (found : scope.actionsAt depth inProgress values = .ok tree) :
    tree.normalizeAt depth = .ok tree.actions := by
  have shallow : tree.nesting < maxDepth + 1 - depth := nesting_lt found
  rw [ActionTree.normalizeAt_eq, if_neg (by omega)]

theorem normalize_eq (found : scope.actions values = .ok tree) :
    tree.normalize = .ok tree.actions := by
  have outermost : scope.actionsAt 0 [] values = .ok tree := found
  exact normalizeAt_of_actionsAt outermost

/-! ## Where lists are normalized -/

theorem groupTree_of_actionsAt {name : String} (fresh : name ∉ inProgress)
    (known : scope.groups.get? name = some values)
    (found : scope.actionsAt (depth + 1) (inProgress ++ [name]) values = .ok tree) :
    scope.groupTree (scope.actionsAt (depth + 1)) depth inProgress name =
      .ok (.one (.group ("@" ++ name) tree.actions)) := by
  have outside : ¬inProgress.contains name := by simpa using fresh
  rw [groupTree, if_neg outside, known]
  simp only [found, normalizeAt_of_actionsAt found, bind, Except.bind, pure, Except.pure]

theorem entryTrees_of_actionsAt {text : String} {delay : Duration}
    (read : Duration.parse? text = some delay)
    (found : scope.actionsAt (depth + 1) inProgress values = .ok tree) :
    scope.entryTrees (scope.actionsAt (depth + 1)) depth inProgress
        (.string ("sleep:" ++ text) :: values) = .ok [.one (.after delay tree.actions)] := by
  rw [entryTrees_sleep, read]
  simp only [found, normalizeAt_of_actionsAt found, bind, Except.bind, pure, Except.pure]

/-- A rule that has actions and no branches is drafted with these actions, whether or not it asks
for the first match. -/
theorem rule_unconditional {spec : RuleSpec} (lists : spec.actions = some values)
    (plain : spec.branches = []) :
    scope.rule spec = (scope.actions values).map .unconditional := by
  simp only [rule, lists, plain, branches]
  cases scope.actions values with
  | error error => cases spec.firstMatch <;> rfl
  | ok tree => cases spec.firstMatch <;> rfl

theorem build_of_actions {spec : RuleSpec} (lists : spec.actions = some values)
    (plain : spec.branches = []) (found : scope.actions values = .ok tree) (kind : EventKind) :
    (do (← scope.rule spec).build kind) = .ok (.unconditional tree.actions) := by
  rw [rule_unconditional lists plain, found]
  simp only [Except.map, ConditionDraft.build, normalize_eq found, bind, Except.bind, pure, Except.pure]

theorem state_of_actions {spec : StateSpec} (lists : spec.actions = some values)
    (found : scope.actions values = .ok tree) {condition : Condition}
    (guarded : scope.vocabulary.expression spec.condition = .ok condition)
    {activatedBy affectedBy : List StateTrigger}
    (activated : spec.activatedBy.mapM scope.trigger = .ok activatedBy)
    (affected : spec.affectedBy.mapM scope.trigger = .ok affectedBy) :
    scope.state spec = .ok {
      name := spec.name, condition, sideEffects := tree.actions, activatedBy, affectedBy } := by
  simp only [state, guarded, lists, found, normalize_eq found, activated, affected, bind, Except.bind, pure,
    Except.pure]

/-! ## Accepted lists -/

/-- Once its names were found, no list is refused for its depth any more: at the depth where it
was looked up it is normalized with the names that its tree says, in their order, and so are the
members of a group, the rest of a list behind a sleep, the actions of a rule without branches and
those of a state. -/
theorem lookup_settles_depth (scope : Scope) :
    (∀ depth inProgress values tree, scope.actionsAt depth inProgress values = .ok tree →
      ∃ actions, tree.normalizeAt depth = .ok actions ∧
        Action.flatNames actions = tree.leaves.map Action.name) ∧
    (∀ depth inProgress name members tree, name ∉ inProgress →
      scope.groups.get? name = some members →
      scope.actionsAt (depth + 1) (inProgress ++ [name]) members = .ok tree →
      scope.groupTree (scope.actionsAt (depth + 1)) depth inProgress name =
        .ok (.one (.group ("@" ++ name) tree.actions))) ∧
    (∀ depth inProgress text delay rest tree, Duration.parse? text = some delay →
      scope.actionsAt (depth + 1) inProgress rest = .ok tree →
      scope.entryTrees (scope.actionsAt (depth + 1)) depth inProgress
        (.string ("sleep:" ++ text) :: rest) = .ok [.one (.after delay tree.actions)]) ∧
    (∀ (spec : RuleSpec) values tree kind, spec.actions = some values → spec.branches = [] →
      scope.actions values = .ok tree →
      (do (← scope.rule spec).build kind) = .ok (.unconditional tree.actions)) ∧
    ∀ (spec : StateSpec) values tree condition activatedBy affectedBy,
      spec.actions = some values → scope.actions values = .ok tree →
      scope.vocabulary.expression spec.condition = .ok condition →
      spec.activatedBy.mapM scope.trigger = .ok activatedBy →
      spec.affectedBy.mapM scope.trigger = .ok affectedBy →
      scope.state spec = .ok {
        name := spec.name, condition, sideEffects := tree.actions, activatedBy, affectedBy } := by
  refine ⟨?_, ?_, ?_, ?_, ?_⟩
  · intro depth inProgress values tree found
    refine ⟨tree.actions, normalizeAt_of_actionsAt found, ?_⟩
    rw [Action.flatNames, ActionTree.leavesOf_actions]
  · intro depth inProgress name members tree fresh known found
    exact groupTree_of_actionsAt fresh known found
  · intro depth inProgress text delay rest tree read found
    exact entryTrees_of_actionsAt read found
  · intro spec values tree kind lists plain found
    exact build_of_actions lists plain found kind
  · intro spec values tree condition activatedBy affectedBy lists found guarded activated affected
    exact state_of_actions lists found guarded activated affected

private def hall : Scope where
  vocabulary := .ofLists [] [.call "light.on" [], .call "light.off" []]
  groups := [("blink", [.string "light.on", .string "sleep:1s", .string "light.off"])]

/-- Six levels down this list is as deep as it may be: the group in it is the seventh level, and
what follows the sleep in the group is the eighth. -/
private def corner : List Toml.Value :=
  [.array [.string "light.on"], .string "@blink", .string "sleep:2s", .array [.string "light.off"]]

private def cornerTree : ActionTree :=
  .many [
    .many [.one (.call "light.on" [])],
    .one (.group "@blink" [
      .call "light.on" [],
      .after (.ofMilliseconds 1000) [.call "light.off" []]]),
    .one (.after (.ofMilliseconds 2000) [.group "[light.off]" [.call "light.off" []]])]

theorem lookup_settles_depth_corner :
    hall.actionsAt 6 ["evening"] corner = .ok cornerTree ∧
    (∃ actions, cornerTree.normalizeAt 6 = .ok actions ∧
      Action.flatNames actions = ["light.on", "light.on", "after 1s", "after 2s"]) ∧
    hall.groupTree (hall.actionsAt 8) 7 ["evening"] "blink" = .error .tooDeep ∧
    hall.groupTree (hall.actionsAt 7) 6 ["evening"] "blink" = .ok (.one (.group "@blink" [
      .call "light.on" [], .after (.ofMilliseconds 1000) [.call "light.off" []]])) ∧
    hall.entryTrees (hall.actionsAt 8) 7 [] [.string "sleep:1s", .string "light.off"] =
      .ok [.one (.after (.ofMilliseconds 1000) [.call "light.off" []])] ∧
    (do (← hall.rule { event := "dusk", actions := some corner }).build (.bus "dusk")) =
      .ok (.unconditional cornerTree.actions) ∧
    hall.state { name := "dark", condition := "new:on", actions := some corner } = .ok {
      name := "dark", condition := .newStateIn ["on"], sideEffects := cornerTree.actions } := by
  obtain ⟨lists, groups, tails, rules, states⟩ := lookup_settles_depth hall
  have found : hall.actionsAt 6 ["evening"] corner = .ok cornerTree := by cbv
  have whole : hall.actions corner = .ok cornerTree := by cbv
  have guarded : hall.vocabulary.expression "new:on" = .ok (.newStateIn ["on"]) := by cbv
  have second : Duration.parse? "1s" = some (.ofMilliseconds 1000) := by decide +kernel
  have rest : hall.actionsAt 8 [] [.string "light.off"] =
      .ok (.many [.one (.call "light.off" [])]) := by cbv
  have members : hall.actionsAt 7 ["evening", "blink"]
      [.string "light.on", .string "sleep:1s", .string "light.off"] = .ok (.many [
        .one (.call "light.on" []),
        .one (.after (.ofMilliseconds 1000) [.call "light.off" []])]) := by cbv
  have tail := tails 7 [] "1s" _ _ _ second rest
  have blink := groups 6 ["evening"] "blink" _ _ (by decide) rfl members
  simp only [ActionTree.actions, ActionTree.members] at tail blink
  refine ⟨found, ?_, by cbv, blink, tail, rules _ _ _ _ rfl rfl whole, ?_⟩
  · obtain ⟨actions, normal, names⟩ := lists _ _ _ _ found
    exact ⟨actions, normal, names.trans (by decide +kernel)⟩
  · exact states _ _ _ _ _ _ rfl whole guarded rfl rfl

end HomeRules.Scope
