import HomeRules.Proofs.Schema.Reading
import HomeRules.RuleFile.Actions

/-!
# What an action list says

Read as text, an action list names actions, and each of them stands behind some sleeps: those
before it in its own list, and those before the lists around it. Looking up the names gives a
tree that says the same, with the rest of a list inside each sleep.
-/

set_option autoImplicit false

namespace HomeRules

/-! ## Mentions -/

/-- A place where an action stands, with the sleeps before it, the outermost first. -/
structure Mention where
  sleeps : List Duration := []
  action : Action

namespace Mention

def after (delay : Duration) (mention : Mention) : Mention :=
  { mention with sleeps := delay :: mention.sleeps }

/-- The sleeps before a mention, taken together. -/
def delay (mention : Mention) : Duration :=
  ⟨mention.sleeps.foldr (·.nanoseconds + ·) 0⟩

end Mention

namespace Action

mutual

/-- The actions that run when an action does, at once or after sleeps. -/
def mentions : Action → List Mention
  | .group _ members => mentionsOf members
  | .after delay actions => (mentionsOf actions).map (.after delay)
  | .call name commands => [{ action := .call name commands }]
  | .task name source => [{ action := .task name source }]

def mentionsOf : List Action → List Mention
  | [] => []
  | action :: rest => action.mentions ++ mentionsOf rest

end

@[simp]
theorem mentionsOf_append (first second : List Action) :
    mentionsOf (first ++ second) = mentionsOf first ++ mentionsOf second := by
  induction first with
  | nil => rw [List.nil_append, mentionsOf, List.nil_append]
  | cons action rest previous =>
      rw [List.cons_append, mentionsOf, previous, mentionsOf, List.append_assoc]

mutual

private theorem mentionsOf_leaves (action : Action) :
    mentionsOf action.leaves = action.mentions := by
  cases action with
  | group name members => rw [leaves, mentions, mentionsOf_leavesOf members]
  | _ => simp only [leaves, mentionsOf, List.append_nil]

/-- The leaves of a list say all that the list says. -/
theorem mentionsOf_leavesOf (actions : List Action) :
    mentionsOf (leavesOf actions) = mentionsOf actions := by
  cases actions with
  | nil => rw [leavesOf]
  | cons action rest =>
      rw [leavesOf, mentionsOf_append, mentionsOf_leaves action,
        mentionsOf_leavesOf rest, mentionsOf]

end

mutual

/-- Where nothing is put off, the leaves of an action are all that runs. -/
private theorem mentions_eq_leaves (action : Action)
    (synchronous : ∀ leaf ∈ action.leaves, leaf.isDeferred = false) :
    action.mentions = action.leaves.map ({ action := · }) := by
  cases action with
  | call name commands => rfl
  | task name source => cases synchronous _ List.mem_cons_self
  | group name members => exact mentionsOf_eq_leavesOf members synchronous
  | after delay actions => cases synchronous _ List.mem_cons_self

private theorem mentionsOf_eq_leavesOf (actions : List Action)
    (synchronous : ∀ leaf ∈ leavesOf actions, leaf.isDeferred = false) :
    mentionsOf actions = (leavesOf actions).map ({ action := · }) := by
  cases actions with
  | nil => rfl
  | cons action rest =>
      rw [leavesOf] at synchronous ⊢
      rw [mentionsOf, List.map_append,
        mentions_eq_leaves action fun leaf member =>
          synchronous leaf (List.mem_append_left _ member),
        mentionsOf_eq_leavesOf rest fun leaf member =>
          synchronous leaf (List.mem_append_right _ member)]

end

end Action

/-! ## Texts -/

/-- Nothing in a vocabulary is put off. -/
def Vocabulary.Synchronous (vocabulary : Vocabulary) : Prop :=
  ∀ name action, vocabulary.action name = .ok action →
    ∀ leaf ∈ action.leaves, leaf.isDeferred = false

/-- The mentions of actions in a text whose names are looked up in a scope. A group stands
for its members, and a sleep comes before everything that follows it in its list. -/
inductive Expands (scope : Scope) : List Toml.Value → List Mention → Prop where
  | nil : Expands scope [] []
  | name {name : String} {action : Action} {rest : List Toml.Value} {later : List Mention}
      (awake : Text.stripBeginning "sleep:" name = none)
      (single : Text.stripBeginning "@" name = none)
      (known : scope.vocabulary.action name = .ok action) (following : Expands scope rest later) :
      Expands scope (.string name :: rest) (action.leaves.map ({ action := · }) ++ later)
  | group {name group : String} {members rest : List Toml.Value} {inner later : List Mention}
      (awake : Text.stripBeginning "sleep:" name = none)
      (refers : Text.stripBeginning "@" name = some group)
      (known : scope.groups.get? group = some members) (inside : Expands scope members inner)
      (following : Expands scope rest later) :
      Expands scope (.string name :: rest) (inner ++ later)
  | array {items rest : List Toml.Value} {inner later : List Mention}
      (inside : Expands scope items inner) (following : Expands scope rest later) :
      Expands scope (.array items :: rest) (inner ++ later)
  | sleep {name text : String} {delay : Duration} {rest : List Toml.Value}
      {later : List Mention} (sleeps : Text.stripBeginning "sleep:" name = some text)
      (read : Duration.parse? text = some delay) (following : Expands scope rest later) :
      Expands scope (.string name :: rest) (later.map (.after delay))

namespace Expands

variable {scope : Scope} {values : List Toml.Value} {mentions : List Mention}

/-- A text says one thing. -/
theorem unique (expands : Expands scope values mentions) {others : List Mention}
    (again : Expands scope values others) : others = mentions := by
  induction expands generalizing others with
  | nil => cases again; rfl
  | name awake single known following previous =>
      cases again with
      | name _ _ same rest => cases known.symm.trans same; rw [previous rest]
      | group _ refers => cases single.symm.trans refers
      | sleep sleeps => cases awake.symm.trans sleeps
  | group awake refers known inside following inner later =>
      cases again with
      | name _ single => cases refers.symm.trans single
      | group _ other same members rest =>
          cases refers.symm.trans other
          cases known.symm.trans same
          rw [inner members, later rest]
      | sleep sleeps => cases awake.symm.trans sleeps
  | array inside following inner later =>
      cases again with
      | array items rest => rw [inner items, later rest]
  | sleep sleeps read following previous =>
      cases again with
      | name awake => cases sleeps.symm.trans awake
      | group awake => cases sleeps.symm.trans awake
      | sleep other same rest =>
          cases sleeps.symm.trans other
          cases read.symm.trans same
          rw [previous rest]

/-- What holds of the actions of a vocabulary and of readable sleeps holds of a text. -/
theorem all {fact : Mention → Prop} (expands : Expands scope values mentions)
    (named : ∀ name action, scope.vocabulary.action name = .ok action →
      ∀ leaf ∈ action.leaves, fact { action := leaf })
    (after : ∀ text delay mention, Duration.parse? text = some delay → fact mention →
      fact (mention.after delay)) :
    ∀ mention ∈ mentions, fact mention := by
  induction expands with
  | nil => exact fun _ member => absurd member List.not_mem_nil
  | name awake single known following previous =>
      intro mention member
      rcases List.mem_append.mp member with here | later
      · obtain ⟨leaf, present, rfl⟩ := List.mem_map.mp here
        exact named _ _ known leaf present
      · exact previous mention later
  | group awake refers known inside following inner later =>
      exact fun mention member =>
        (List.mem_append.mp member).elim (inner mention) (later mention)
  | array inside following inner later =>
      exact fun mention member =>
        (List.mem_append.mp member).elim (inner mention) (later mention)
  | sleep sleeps read following previous =>
      intro mention member
      obtain ⟨later, present, rfl⟩ := List.mem_map.mp member
      exact after _ _ later read (previous later present)

end Expands

/-! ## Looking up -/

namespace ActionTree

private theorem mentionsOf_members_cons (tree : ActionTree) (trees : List ActionTree) :
    Action.mentionsOf (members (tree :: trees)) =
      Action.mentionsOf tree.actions ++ Action.mentionsOf (members trees) := by
  cases tree with
  | nothing => rw [members, actions, Action.mentionsOf, List.nil_append]
  | one action => simp only [members, actions, Action.mentionsOf, List.append_nil]
  | many items => rw [members, actions, Action.mentionsOf, Action.mentions]

private theorem normalizeAt_ok {depth : Nat} {tree : ActionTree} {actions : List Action}
    (normal : tree.normalizeAt depth = .ok actions) : actions = tree.actions := by
  rw [normalizeAt_eq] at normal
  split at normal
  · cases normal
  · cases normal
    rfl

end ActionTree

namespace Scope

section Lists

variable {scope : Scope} (synchronous : scope.vocabulary.Synchronous) {inner : ListLookup}
  (inside : ∀ {inProgress values tree}, inner inProgress values = .ok tree →
    Expands scope values (Action.mentionsOf tree.actions))
  {depth : Nat} {inProgress : List String}
include synchronous inside

private theorem nameTree_expands {name : String} {tree : ActionTree}
    (awake : Text.stripBeginning "sleep:" name = none)
    (found : scope.nameTree inner depth inProgress name = .ok tree)
    {rest : List Toml.Value} {later : List Mention} (following : Expands scope rest later) :
    Expands scope (.string name :: rest) (Action.mentionsOf tree.actions ++ later) := by
  unfold nameTree at found
  split at found
  · case h_1 group refers =>
      unfold groupTree at found
      split at found
      · cases found
      split at found
      · cases found
      · case h_2 members known =>
          obtain ⟨listed, looked, found⟩ := ok_of_bind found
          obtain ⟨actions, normal, found⟩ := ok_of_bind found
          cases found
          have said : Action.mentionsOf (ActionTree.one (.group ("@" ++ group) actions)).actions =
              Action.mentionsOf listed.actions := by
            simp only [ActionTree.actions, Action.mentionsOf, Action.mentions,
              List.append_nil, ActionTree.normalizeAt_ok normal]
          rw [said]
          exact .group awake refers known (inside looked) following
  · case h_2 single =>
      obtain ⟨action, known, rfl⟩ := ok_of_map found
      have said : Action.mentionsOf (ActionTree.one action).actions =
          action.leaves.map ({ action := · }) := by
        simp only [ActionTree.actions, Action.mentionsOf, List.append_nil]
        exact Action.mentions_eq_leaves action (synchronous name action known)
      rw [said]
      exact .name awake single known following

private theorem entryTrees_expand {values : List Toml.Value} {trees : List ActionTree}
    (found : scope.entryTrees inner depth inProgress values = .ok trees) :
    Expands scope values (Action.mentionsOf (ActionTree.members trees)) := by
  induction values generalizing trees with
  | nil =>
      rw [entryTrees] at found
      cases found
      rw [ActionTree.members, Action.mentionsOf]
      exact .nil
  | cons value rest previous =>
      cases value with
      | string name =>
          rw [entryTrees] at found
          split at found
          · case h_1 text sleeps =>
              split at found
              · cases found
              · case h_2 delay read =>
                  obtain ⟨tree, looked, found⟩ := ok_of_bind found
                  obtain ⟨actions, normal, found⟩ := ok_of_bind found
                  cases found
                  rw [ActionTree.members, ActionTree.members, Action.mentionsOf,
                    Action.mentionsOf, Action.mentions, List.append_nil,
                    ActionTree.normalizeAt_ok normal]
                  exact .sleep sleeps read (inside looked)
          · case h_2 awake =>
              obtain ⟨tree, named, found⟩ := ok_of_bind found
              obtain ⟨others, rested, found⟩ := ok_of_bind found
              cases found
              rw [ActionTree.mentionsOf_members_cons]
              exact nameTree_expands synchronous inside awake named (previous rested)
      | array items =>
          rw [entryTrees] at found
          obtain ⟨tree, looked, found⟩ := ok_of_bind found
          obtain ⟨others, rested, found⟩ := ok_of_bind found
          cases found
          rw [ActionTree.mentionsOf_members_cons]
          exact .array (inside looked) (previous rested)
      | _ => cases found

end Lists

/-- A list that is accepted gives actions that say what the list says. -/
theorem actions_expand {scope : Scope} (synchronous : scope.vocabulary.Synchronous)
    {values : List Toml.Value} {actions : List Action}
    (accepted : (do (← scope.actions values).normalize) = .ok actions) :
    Expands scope values (Action.mentionsOf actions) := by
  have listed (levels : Nat) {inProgress : List String} {values : List Toml.Value}
      {tree : ActionTree} (looked : scope.listTree levels inProgress values = .ok tree) :
      Expands scope values (Action.mentionsOf tree.actions) := by
    induction levels generalizing inProgress values tree with
    | zero => cases looked
    | succ levels previous =>
        rw [listTree] at looked
        obtain ⟨trees, found, rfl⟩ := ok_of_map looked
        exact entryTrees_expand synchronous previous found
  obtain ⟨tree, resolved, normal⟩ := ok_of_bind accepted
  rw [ActionTree.normalizeAt_ok normal]
  exact listed _ resolved

end Scope

end HomeRules
