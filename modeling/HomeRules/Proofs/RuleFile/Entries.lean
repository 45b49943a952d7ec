import HomeRules.Proofs.Faults
import HomeRules.Proofs.Text
import HomeRules.RuleFile.Actions
import Mathlib.Logic.Relation

/-!
# Entries of action lists

Looking up an action list looks up the lists one level below it: the lists inside of it, the members
of the groups that it refers to and what follows a sleep. It keeps the names of the groups in which
it is. Where all of them were found, no group leads back to itself.
-/

set_option autoImplicit false

namespace HomeRules

/-! ## What a text says -/

/-- A value that stands in a list or in a list inside of it. -/
inductive Occurs (value : Toml.Value) : List Toml.Value → Prop where
  | here {values : List Toml.Value} (member : value ∈ values) : Occurs value values
  | inside {items values : List Toml.Value} (member : .array items ∈ values)
      (occurs : Occurs value items) : Occurs value values

/-- A list refers to a group. -/
def Mentions (name : String) (values : List Toml.Value) : Prop :=
  Occurs (.string ("@" ++ name)) values

namespace Groups

def Refers (groups : Groups) (name other : String) : Prop :=
  ∃ members, groups.get? name = some members ∧ Mentions other members

def Acyclic (groups : Groups) : Prop :=
  ∀ name, ¬Relation.TransGen groups.Refers name name

/-- A list that lies one level below another one, with the group whose members it has. What follows
a sleep lies below the sleep. -/
inductive Enters (groups : Groups) : List Toml.Value → Option String → List Toml.Value → Prop where
  | array {items rest : List Toml.Value} : Enters groups (.array items :: rest) none items
  | group {name : String} {members rest : List Toml.Value}
      (known : groups.get? name = some members) :
      Enters groups (.string ("@" ++ name) :: rest) (some name) members
  | sleep {text : String} {rest : List Toml.Value} :
      Enters groups (.string ("sleep:" ++ text) :: rest) none rest
  | later {value : Toml.Value} {rest next : List Toml.Value} {name : Option String}
      (awake : ∀ text, value ≠ .string ("sleep:" ++ text)) (enters : Enters groups rest name next) :
      Enters groups (value :: rest) name next

/-- A list that lies so many levels below another one. -/
inductive LiesBelow (groups : Groups) : Nat → List Toml.Value → List Toml.Value → Prop where
  | self {values : List Toml.Value} : LiesBelow groups 0 values values
  | enter {levels : Nat} {values next inner : List Toml.Value} {name : Option String}
      (enters : Enters groups values name next) (below : LiesBelow groups levels next inner) :
      LiesBelow groups (levels + 1) values inner

end Groups

/-- Nothing is wrong with the entries of a list, taken one by one. -/
structure Scope.Readable (scope : Scope) (values : List Toml.Value) : Prop where
  entries : ∀ value, Occurs value values →
    (∃ name, value = .string name) ∨ ∃ items, value = .array items
  delays : ∀ text, Occurs (.string ("sleep:" ++ text)) values →
    ∃ delay, Duration.parse? text = some delay
  groups : ∀ name, Mentions name values → ∃ members, scope.groups.get? name = some members
  names : ∀ name, Occurs (.string name) values → (∀ text, name ≠ "sleep:" ++ text) →
    (∀ group, name ≠ "@" ++ group) → ∃ action, scope.vocabulary.action name = .ok action

/-! ## Entries -/

/-- The kinds of entries of a list. -/
inductive Entry : Toml.Value → Prop where
  | sleep (text : String) : Entry (.string ("sleep:" ++ text))
  | group (name : String) : Entry (.string ("@" ++ name))
  | name {name : String} (awake : ∀ text, name ≠ "sleep:" ++ text)
      (single : ∀ group, name ≠ "@" ++ group) : Entry (.string name)
  | array (items : List Toml.Value) : Entry (.array items)
  | other {value : Toml.Value} (text : ∀ name, value ≠ .string name)
      (list : ∀ items, value ≠ .array items) : Entry value

private theorem stripBeginning_eq_some_iff {beginning text rest : String} :
    Text.stripBeginning beginning text = some rest ↔ text = beginning ++ rest := by
  rw [Text.stripBeginning, Option.map_eq_some_iff]
  constructor
  · rintro ⟨characters, found, rfl⟩
    rw [← String.toList_inj, String.toList_append, String.toList_ofList]
    exact Text.dropBeginning_eq_some_iff.mp found
  · rintro rfl
    refine ⟨rest.toList, ?_, String.ofList_toList⟩
    rw [Text.dropBeginning_eq_some_iff, String.toList_append]

private theorem stripBeginning_eq_none_iff {beginning text : String} :
    Text.stripBeginning beginning text = none ↔ ∀ rest, text ≠ beginning ++ rest := by
  simp only [Option.eq_none_iff_forall_ne_some, ne_eq, stripBeginning_eq_some_iff]

theorem group_awake (name text : String) : "@" ++ name ≠ "sleep:" ++ text := by
  intro same
  have characters := congrArg String.toList same
  rw [String.toList_append, String.toList_append] at characters
  cases characters

theorem Entry.of (value : Toml.Value) : Entry value := by
  cases value with
  | string name =>
      by_cases sleeps : ∃ text, name = "sleep:" ++ text
      · obtain ⟨text, rfl⟩ := sleeps
        exact .sleep text
      by_cases refers : ∃ group, name = "@" ++ group
      · obtain ⟨group, rfl⟩ := refers
        exact .group group
      exact .name (not_exists.mp sleeps) (not_exists.mp refers)
  | array items => exact .array items
  | _ => exact .other nofun nofun

namespace Scope

section Entries

variable (scope : Scope) (inner : ListLookup) (depth : Nat) (inProgress : List String)
  (rest : List Toml.Value)

theorem entryTrees_sleep (text : String) :
    scope.entryTrees inner depth inProgress (.string ("sleep:" ++ text) :: rest) =
      match Duration.parse? text with
      | none => .error (.invalid (.invalidDelay ("sleep:" ++ text)))
      | some delay => do
        let tree ← inner inProgress rest
        let actions ← tree.normalizeAt (depth + 1)
        return [.one (.after delay actions)] := by
  cases read : Duration.parse? text <;>
    simp only [entryTrees, stripBeginning_eq_some_iff.mpr rfl, read]

theorem entryTrees_group (name : String) :
    scope.entryTrees inner depth inProgress (.string ("@" ++ name) :: rest) = do
      let tree ← scope.groupTree inner depth inProgress name
      let trees ← scope.entryTrees inner depth inProgress rest
      return tree :: trees := by
  rw [entryTrees, stripBeginning_eq_none_iff.mpr (group_awake name), nameTree,
    stripBeginning_eq_some_iff.mpr rfl]

theorem entryTrees_name {name : String} (awake : ∀ text, name ≠ "sleep:" ++ text)
    (single : ∀ group, name ≠ "@" ++ group) :
    scope.entryTrees inner depth inProgress (.string name :: rest) = do
      let tree ← (scope.vocabulary.action name).map .one
      let trees ← scope.entryTrees inner depth inProgress rest
      return tree :: trees := by
  rw [entryTrees, stripBeginning_eq_none_iff.mpr awake, nameTree,
    stripBeginning_eq_none_iff.mpr single]

theorem entryTrees_other {value : Toml.Value} (text : ∀ name, value ≠ .string name)
    (list : ∀ items, value ≠ .array items) :
    ∃ error, scope.entryTrees inner depth inProgress (value :: rest) = .error error := by
  cases value with
  | string name => exact absurd rfl (text name)
  | array items => exact absurd rfl (list items)
  | _ => exact ⟨_, rfl⟩

end Entries

/-! ## What is found -/

theorem occurs_cons {value first : Toml.Value} {rest : List Toml.Value} :
    Occurs value (first :: rest) ↔
      value = first ∨ (∃ items, first = .array items ∧ Occurs value items) ∨ Occurs value rest := by
  constructor
  · intro occurs
    cases occurs with
    | here member =>
        rcases List.mem_cons.mp member with same | later
        · exact .inl same
        · exact .inr (.inr (.here later))
    | inside member occurs =>
        rcases List.mem_cons.mp member with same | later
        · exact .inr (.inl ⟨_, same.symm, occurs⟩)
        · exact .inr (.inr (.inside later occurs))
  · rintro (rfl | ⟨items, rfl, occurs⟩ | occurs)
    · exact .here List.mem_cons_self
    · exact .inside List.mem_cons_self occurs
    · cases occurs with
      | here member => exact .here (List.mem_cons_of_mem _ member)
      | inside member occurs => exact .inside (List.mem_cons_of_mem _ member) occurs

theorem append_string_inj {beginning first second : String} :
    Toml.Value.string (beginning ++ first) = .string (beginning ++ second) ↔ first = second := by
  simp

section Found

variable {scope : Scope} {inner : ListLookup} {depth : Nat} {inProgress : List String}
  {values : List Toml.Value} {trees : List ActionTree}

theorem groupTree_ok {name : String} {tree : ActionTree}
    (found : scope.groupTree inner depth inProgress name = .ok tree) :
    name ∉ inProgress ∧ ∃ members, scope.groups.get? name = some members ∧
      ∃ listed actions, inner (inProgress ++ [name]) members = .ok listed ∧
        tree = .one (.group ("@" ++ name) actions) := by
  rw [groupTree] at found
  split at found
  case isTrue => cases found
  case isFalse fresh =>
    split at found
    case h_1 => cases found
    case h_2 members known =>
      obtain ⟨listed, looked, found⟩ := ok_of_bind found
      obtain ⟨actions, -, found⟩ := ok_of_bind found
      exact ⟨by simpa using fresh, members, known, listed, actions, looked,
        (Except.ok.inj found).symm⟩

private theorem entryTrees_tail {value : Toml.Value} {rest : List Toml.Value}
    (awake : ∀ text, value ≠ .string ("sleep:" ++ text))
    (found : scope.entryTrees inner depth inProgress (value :: rest) = .ok trees) :
    ∃ others, scope.entryTrees inner depth inProgress rest = .ok others := by
  cases Entry.of value with
  | sleep text => exact absurd rfl (awake text)
  | group name =>
      rw [entryTrees_group] at found
      obtain ⟨_, -, found⟩ := ok_of_bind found
      obtain ⟨others, rested, -⟩ := ok_of_bind found
      exact ⟨others, rested⟩
  | name unslept single =>
      rw [entryTrees_name _ _ _ _ _ unslept single] at found
      obtain ⟨_, -, found⟩ := ok_of_bind found
      obtain ⟨others, rested, -⟩ := ok_of_bind found
      exact ⟨others, rested⟩
  | array items =>
      obtain ⟨_, -, found⟩ := ok_of_bind found
      obtain ⟨others, rested, -⟩ := ok_of_bind found
      exact ⟨others, rested⟩
  | other text list =>
      obtain ⟨error, failed⟩ := scope.entryTrees_other inner depth inProgress rest text list
      cases failed.symm.trans found

/-- Every list one level down was found, and a group that was referred to was not in progress. -/
private theorem enters_found {name : Option String} {next : List Toml.Value}
    (enters : scope.groups.Enters values name next)
    (found : scope.entryTrees inner depth inProgress values = .ok trees) :
    (∀ group ∈ name, group ∉ inProgress) ∧
      ∃ tree, inner (inProgress ++ name.toList) next = .ok tree := by
  induction enters generalizing trees with
  | array =>
      obtain ⟨tree, looked, -⟩ := ok_of_bind found
      exact ⟨nofun, tree, by simpa using looked⟩
  | group known =>
      rw [entryTrees_group] at found
      obtain ⟨tree, grouped, -⟩ := ok_of_bind found
      obtain ⟨fresh, members, present, listed, -, looked, -⟩ := groupTree_ok grouped
      cases known.symm.trans present
      exact ⟨by simpa using fresh, listed, looked⟩
  | sleep =>
      rw [entryTrees_sleep] at found
      split at found
      case h_1 => cases found
      case h_2 delay read =>
        obtain ⟨tree, looked, -⟩ := ok_of_bind found
        exact ⟨nofun, tree, by simpa using looked⟩
  | later awake enters previous =>
      obtain ⟨others, rested⟩ := entryTrees_tail awake found
      exact previous rested

private theorem mentions_enter {group : String} (mentions : Mentions group values)
    (found : scope.entryTrees inner depth inProgress values = .ok trees) :
    (∃ members, scope.groups.get? group = some members ∧
      scope.groups.Enters values (some group) members) ∨
    ∃ next, scope.groups.Enters values none next ∧ Mentions group next := by
  induction values generalizing trees with
  | nil => cases mentions <;> contradiction
  | cons value rest previous =>
      have later (awake : ∀ text, value ≠ .string ("sleep:" ++ text))
          (mentions : Mentions group rest) :
          (∃ members, scope.groups.get? group = some members ∧
            scope.groups.Enters (value :: rest) (some group) members) ∨
          ∃ next, scope.groups.Enters (value :: rest) none next ∧ Mentions group next := by
        obtain ⟨others, rested⟩ := entryTrees_tail awake found
        rcases previous mentions rested with ⟨members, known, enters⟩ | ⟨next, enters, mentions⟩
        · exact .inl ⟨members, known, .later awake enters⟩
        · exact .inr ⟨next, .later awake enters, mentions⟩
      rcases occurs_cons.mp mentions with rfl | ⟨items, rfl, inside⟩ | rested
      · rw [entryTrees_group] at found
        obtain ⟨tree, grouped, -⟩ := ok_of_bind found
        obtain ⟨-, members, known, -⟩ := groupTree_ok grouped
        exact .inl ⟨members, known, .group known⟩
      · exact .inr ⟨items, .array, inside⟩
      · by_cases sleeps : ∃ text, value = .string ("sleep:" ++ text)
        · obtain ⟨text, rfl⟩ := sleeps
          exact .inr ⟨rest, .sleep, rested⟩
        · exact later (not_exists.mp sleeps) rested

theorem listTree_succ_ok {levels : Nat} {tree : ActionTree}
    (found : scope.listTree (levels + 1) inProgress values = .ok tree) :
    ∃ trees, scope.entryTrees (scope.listTree levels) (maxDepth - levels) inProgress values =
      .ok trees ∧ tree = .many trees := by
  rw [listTree] at found
  obtain ⟨trees, listed, same⟩ := ok_of_map found
  exact ⟨trees, listed, same.symm⟩

/-- A group that a list refers to was not in progress when the list was looked up, and was found
after it. -/
theorem listTree_mentions {levels : Nat} {tree : ActionTree} {group : String}
    (looked : scope.listTree levels inProgress values = .ok tree)
    (mentions : Mentions group values) :
    group ∉ inProgress ∧ ∃ members, scope.groups.get? group = some members ∧
      ∃ lower listed, scope.listTree lower (inProgress ++ [group]) members = .ok listed := by
  induction levels generalizing values tree with
  | zero => cases looked
  | succ levels previous =>
      obtain ⟨trees, found, -⟩ := listTree_succ_ok looked
      rcases mentions_enter mentions found with ⟨members, known, enters⟩ | ⟨next, enters, inside⟩
      · obtain ⟨fresh, listed, looked⟩ := enters_found enters found
        exact ⟨fresh group rfl, members, known, levels, listed, looked⟩
      · obtain ⟨-, listed, looked⟩ := enters_found enters found
        rw [Option.toList_none, List.append_nil] at looked
        exact previous looked inside

/-- No group in progress is reached from a list that was found. -/
private theorem listTree_fresh {name other : String} {members : List Toml.Value}
    (reaches : Relation.TransGen scope.groups.Refers name other)
    (known : scope.groups.get? name = some members) {levels : Nat} {tree : ActionTree}
    (found : scope.listTree levels inProgress members = .ok tree) : other ∉ inProgress := by
  induction reaches using Relation.TransGen.head_induction_on generalizing
    members levels tree inProgress with
  | single refers =>
      obtain ⟨same, present, mentions⟩ := refers
      cases known.symm.trans present
      exact (listTree_mentions found mentions).1
  | head refers reaches previous =>
      obtain ⟨same, present, mentions⟩ := refers
      cases known.symm.trans present
      obtain ⟨-, next, there, lower, listed, looked⟩ := listTree_mentions found mentions
      have fresh := previous there looked
      exact fun member => fresh (List.mem_append_left _ member)

end Found

theorem acyclic_of_group (scope : Scope)
    (found : ∀ name members, scope.groups.get? name = some members →
      ∃ tree, scope.group name = .ok tree) : scope.groups.Acyclic := by
  intro name cycle
  obtain ⟨next, ⟨members, known, -⟩, -⟩ := Relation.TransGen.head'_iff.mp cycle
  obtain ⟨tree, grouped⟩ := found name members known
  obtain ⟨-, same, present, listed, -, looked, -⟩ := groupTree_ok grouped
  cases known.symm.trans present
  exact listTree_fresh cycle known looked (by simp)

end Scope

end HomeRules
