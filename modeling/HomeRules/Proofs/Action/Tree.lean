import HomeRules.Proofs.Schema.Build
import HomeRules.Proofs.Schema.Reading

/-!
# The order of normalized actions

An action tree says its leaves from left to right. Its normal form says the same leaves in the same
order, with a group in the place of each inner list, and it is its own normal form. Only lists that
nest too deep keep a tree from having one.
-/

set_option autoImplicit false

namespace HomeRules.ActionTree

/-! ## What a tree says -/

mutual

/-- The leaves of a tree from left to right. A group among them stands for its members. -/
def leaves : ActionTree → List Action
  | .nothing => []
  | .one action => action.leaves
  | .many items => leavesOf items

def leavesOf : List ActionTree → List Action
  | [] => []
  | tree :: rest => tree.leaves ++ leavesOf rest

end

/-- The entries of a tree, which has one or none if it is no list. -/
def entries : ActionTree → List ActionTree
  | .nothing => []
  | .one action => [.one action]
  | .many items => items

/-- A tree that lies so many lists below another one. -/
inductive Nests : ActionTree → Nat → ActionTree → Prop where
  | self {tree : ActionTree} : Nests tree 0 tree
  | entry {items : List ActionTree} {item inner : ActionTree} {depth : Nat}
      (member : item ∈ items) (nests : Nests item depth inner) :
      Nests (.many items) (depth + 1) inner

/-- The actions that entries come to, in their order: an action to itself, nothing to none, and a
list to a group of what its own entries come to, named after the leaves of that group. -/
inductive Forms : List ActionTree → List Action → Prop where
  | nil : Forms [] []
  | nothing {rest : List ActionTree} {later : List Action} (following : Forms rest later) :
      Forms (.nothing :: rest) later
  | one {action : Action} {rest : List ActionTree} {later : List Action}
      (following : Forms rest later) : Forms (.one action :: rest) (action :: later)
  | many {items rest : List ActionTree} {inner later : List Action} {name : String}
      (inside : Forms items inner)
      (named : name = "[" ++ String.intercalate ", " (Action.flatNames inner) ++ "]")
      (following : Forms rest later) :
      Forms (.many items :: rest) (.group name inner :: later)

/-! ## How deep lists nest -/

theorem reach_le_iff {items : List ActionTree} {limit : Nat} :
    reach items ≤ limit ↔
      ∀ item ∈ items, ∀ depth inner, item.Nests depth (.many inner) → depth + 1 ≤ limit := by
  -- Along the recursion of `reach`, which enters an inner list before the rest.
  induction items using reach.induct generalizing limit with
  | case1 => simp [reach]
  | case2 rest previous =>
      rw [reach, previous, List.forall_mem_cons]
      exact (and_iff_right fun depth inner nests => by cases nests).symm
  | case3 action rest previous =>
      rw [reach, previous, List.forall_mem_cons]
      exact (and_iff_right fun depth inner nests => by cases nests).symm
  | case4 items rest inside previous =>
      have here : reach items + 1 ≤ limit ↔
          ∀ depth inner, Nests (.many items) depth (.many inner) → depth + 1 ≤ limit := by
        constructor
        · intro within depth inner nests
          cases nests with
          | self => omega
          | entry member nests =>
              have below : reach items ≤ limit - 1 := by omega
              have deeper := inside.mp below _ member _ _ nests
              omega
        · intro within
          have first := within 0 items .self
          have below : reach items ≤ limit - 1 := inside.mpr fun item member depth inner nests => by
            have deeper := within _ _ (.entry member nests)
            omega
          omega
      rw [reach, Nat.max_le, here, previous, List.forall_mem_cons]

/-- Lists nest so deep in a tree as the deepest one lies below it. -/
theorem nesting_le_iff {tree : ActionTree} {limit : Nat} :
    tree.nesting ≤ limit ↔ ∀ depth items, tree.Nests depth (.many items) → depth ≤ limit := by
  cases tree with
  | many items =>
      rw [nesting, reach_le_iff]
      constructor
      · intro within depth inner nests
        cases nests with
        | self => exact Nat.zero_le limit
        | entry member nests => exact within _ member _ _ nests
      · intro within item member depth inner nests
        exact within _ _ (.entry member nests)
  | _ =>
      exact iff_of_true (Nat.zero_le limit) fun depth items nests => by cases nests

/-! ## What normal forms say -/

theorem leavesOf_members (items : List ActionTree) :
    Action.leavesOf (members items) = leavesOf items := by
  induction items using members.induct with
  | case1 => rw [members, leavesOf, Action.leavesOf]
  | case2 rest previous => rw [members, leavesOf, leaves, previous, List.nil_append]
  | case3 action rest previous => rw [members, leavesOf, leaves, Action.leavesOf, previous]
  | case4 items rest inside previous =>
      rw [members, leavesOf, leaves, Action.leavesOf, Action.leaves, inside, previous]

theorem leavesOf_actions (tree : ActionTree) : Action.leavesOf tree.actions = tree.leaves := by
  cases tree with
  | nothing => rw [actions, leaves, Action.leavesOf]
  | one action => rw [actions, leaves, Action.leavesOf, Action.leavesOf, List.append_nil]
  | many items => rw [actions, leaves, leavesOf_members]

theorem members_forms (items : List ActionTree) : Forms items (members items) := by
  induction items using members.induct with
  | case1 =>
      rw [members]
      exact .nil
  | case2 rest previous =>
      rw [members]
      exact .nothing previous
  | case3 action rest previous =>
      rw [members]
      exact .one previous
  | case4 items rest inside previous =>
      rw [members]
      exact .many inside rfl previous

theorem actions_forms (tree : ActionTree) : Forms tree.entries tree.actions := by
  cases tree with
  | nothing => exact .nil
  | one action => exact .one .nil
  | many items => exact members_forms items

/-- A tree has a normal form unless some list lies more than eight lists below the outermost one.
The normal form keeps the leaves of the tree in their order, the groups that are made for inner
lists are named after their own leaves, and normalizing it changes nothing. -/
theorem normalize_keeps_order (tree : ActionTree) :
    ((∃ actions, tree.normalize = .ok actions) ↔
      ∀ depth items, tree.Nests depth (.many items) → depth ≤ 8) ∧
    ∀ actions, tree.normalize = .ok actions →
      Action.flatNames actions = tree.leaves.map Action.name ∧
      Forms tree.entries actions ∧
      (ofList actions).normalize = .ok actions := by
  have normal : tree.normalize =
      if maxDepth < tree.nesting then .error .tooDeep else .ok tree.actions := by
    rw [normalize, normalizeAt_eq, Nat.zero_add]
  constructor
  · rw [← nesting_le_iff, normal]
    by_cases deep : maxDepth < tree.nesting
    · rw [if_pos deep]
      exact iff_of_false nofun (Nat.not_le.mpr deep)
    · rw [if_neg deep]
      exact iff_of_true ⟨_, rfl⟩ (Nat.not_lt.mp deep)
  · intro actions made
    obtain rfl : tree.actions = actions := by
      rw [normal] at made
      split at made
      · cases made
      · exact Except.ok.inj made
    refine ⟨?_, actions_forms tree, normalizeAt_ofList (Nat.zero_le maxDepth) _⟩
    rw [Action.flatNames, leavesOf_actions]

theorem normalize_keeps_order_evening :
    let tree : ActionTree := .many [
      .one (.call "a" []),
      .many [.one (.call "b" []), .nothing, .one (.group "both" [.call "c" [], .call "d" []])],
      .nothing,
      .one (.after (.ofMilliseconds 2000) [.call "e" []])]
    let actions : List Action := [
      .call "a" [],
      .group "[b, c, d]" [.call "b" [], .group "both" [.call "c" [], .call "d" []]],
      .after (.ofMilliseconds 2000) [.call "e" []]]
    tree.normalize = .ok actions ∧ Action.flatNames actions = ["a", "b", "c", "d", "after 2s"] ∧
      Forms tree.entries actions ∧ (ofList actions).normalize = .ok actions := by
  intro tree actions
  have made : tree.normalize = .ok actions := by
    have named : groupName [.call "b" [], .group "both" [.call "c" [], .call "d" []]] =
        "[b, c, d]" := by
      decide +kernel
    simp [tree, actions, normalize, normalizeAt, normalizeItems, named, maxDepth, bind, Except.bind,
      pure, Except.pure]
  obtain ⟨order, forms, again⟩ := (normalize_keeps_order tree).2 actions made
  refine ⟨made, order.trans ?_, forms, again⟩
  decide +kernel

end HomeRules.ActionTree
