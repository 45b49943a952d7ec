import HomeRules.Proofs.RuleFile.Entries
import HomeRules.Proofs.Schema.Reading

/-!
# How deep an action list may be

Where groups do not lead back to themselves and nothing is wrong with single entries, a list is
refused just if some list lies too many levels below it. What was found is never too deep to be
normalized where it lies.
-/

set_option autoImplicit false

namespace HomeRules

namespace Scope

section Depth

variable {scope : Scope} {inner : ListLookup} {depth : Nat} {inProgress : List String}
  {values : List Toml.Value}

private theorem reach_le {limit : Nat} {trees : List ActionTree}
    (inside : ∀ {inProgress values tree}, inner inProgress values = .ok tree → tree.nesting < limit)
    (found : scope.entryTrees inner depth inProgress values = .ok trees) :
    ActionTree.reach trees ≤ limit := by
  induction values generalizing trees with
  | nil =>
      cases found
      simp [ActionTree.reach]
  | cons value rest previous =>
      cases Entry.of value with
      | sleep text =>
          rw [entryTrees_sleep] at found
          split at found
          case h_1 => cases found
          case h_2 delay read =>
            obtain ⟨tree, -, found⟩ := ok_of_bind found
            obtain ⟨actions, -, found⟩ := ok_of_bind found
            cases found
            simp [ActionTree.reach]
      | group name =>
          rw [entryTrees_group] at found
          obtain ⟨tree, grouped, found⟩ := ok_of_bind found
          obtain ⟨others, rested, found⟩ := ok_of_bind found
          cases found
          obtain ⟨-, members, -, listed, actions, -, rfl⟩ := groupTree_ok grouped
          rw [ActionTree.reach]
          exact previous rested
      | name awake single =>
          rw [entryTrees_name _ _ _ _ _ awake single] at found
          obtain ⟨tree, named, found⟩ := ok_of_bind found
          obtain ⟨others, rested, found⟩ := ok_of_bind found
          cases found
          obtain ⟨action, -, rfl⟩ := ok_of_map named
          rw [ActionTree.reach]
          exact previous rested
      | array items =>
          obtain ⟨tree, looked, found⟩ := ok_of_bind found
          obtain ⟨others, rested, found⟩ := ok_of_bind found
          cases found
          have here := inside looked
          have later := previous rested
          cases tree with
          | many items =>
              rw [ActionTree.nesting] at here
              rw [ActionTree.reach]
              omega
          | _ => simpa [ActionTree.reach] using later
      | other text list =>
          obtain ⟨error, failed⟩ := scope.entryTrees_other inner depth inProgress rest text list
          cases failed.symm.trans found

theorem nesting_lt {levels : Nat} {tree : ActionTree}
    (looked : scope.listTree levels inProgress values = .ok tree) : tree.nesting < levels := by
  induction levels generalizing inProgress values tree with
  | zero => cases looked
  | succ levels previous =>
      obtain ⟨trees, found, rfl⟩ := listTree_succ_ok looked
      rw [ActionTree.nesting]
      exact Nat.lt_succ_of_le (reach_le previous found)

/-- A lookup is refused for its depth just if a condition holds, and for nothing else. -/
structure TooDeepIff {α : Type} (result : Except SchemaError α) (deep : Prop) : Prop where
  refused : deep → result = .error .tooDeep
  found : ¬deep → ∃ value, result = .ok value

namespace TooDeepIff

variable {α β : Type} {result : Except SchemaError α} {deep : Prop}

theorem map {change : α → β} (first : TooDeepIff result deep) :
    TooDeepIff (result.map change) deep := by
  constructor
  case refused =>
    intro held
    rw [first.refused held]
    rfl
  case found =>
    intro shallow
    obtain ⟨value, found⟩ := first.found shallow
    exact ⟨change value, by rw [found]; rfl⟩

theorem bind {next : α → Except SchemaError β} {later : Prop}
    (first : TooDeepIff result deep)
    (second : ∀ value, result = .ok value → TooDeepIff (next value) later) :
    TooDeepIff (result >>= next) (deep ∨ later) := by
  by_cases held : deep
  · constructor
    case refused =>
      intro
      rw [first.refused held]
      rfl
    case found => exact fun shallow => absurd (.inl held) shallow
  · obtain ⟨value, found⟩ := first.found held
    have rest := second value found
    rw [found]
    constructor
    case refused => exact fun either => rest.refused (either.resolve_left held)
    case found => exact fun shallow => rest.found fun later => shallow (.inr later)

theorem bind_ok {next : α → Except SchemaError β} (first : TooDeepIff result deep)
    (second : ∀ value, result = .ok value → ∃ made, next value = .ok made) :
    TooDeepIff (result >>= next) deep := by
  constructor
  case refused =>
    intro held
    rw [first.refused held]
    rfl
  case found =>
    intro shallow
    obtain ⟨value, found⟩ := first.found shallow
    rw [found]
    exact second value found

theorem congr {other : Prop} (first : TooDeepIff result deep) (same : deep ↔ other) :
    TooDeepIff result other :=
  propext same ▸ first

end TooDeepIff

private theorem enters_cons {groups : Groups} {value : Toml.Value} {rest next : List Toml.Value}
    {name : Option String} :
    groups.Enters (value :: rest) name next ↔
      (value = .array next ∧ name = none) ∨
      (∃ group, value = .string ("@" ++ group) ∧ name = some group ∧
        groups.get? group = some next) ∨
      (∃ text, value = .string ("sleep:" ++ text) ∧ name = none ∧ next = rest) ∨
      (∀ text, value ≠ .string ("sleep:" ++ text)) ∧ groups.Enters rest name next := by
  constructor
  · intro enters
    cases enters with
    | array => exact .inl ⟨rfl, rfl⟩
    | group known => exact .inr (.inl ⟨_, rfl, rfl, known⟩)
    | sleep => exact .inr (.inr (.inl ⟨_, rfl, rfl, rfl⟩))
    | later awake enters => exact .inr (.inr (.inr ⟨awake, enters⟩))
  · rintro (⟨rfl, rfl⟩ | ⟨group, rfl, rfl, known⟩ | ⟨text, rfl, rfl, rfl⟩ | ⟨awake, enters⟩)
    · exact .array
    · exact .group known
    · exact .sleep
    · exact .later awake enters

private theorem enters_none {groups : Groups} {next : List Toml.Value}
    (enters : groups.Enters values none next) {value : Toml.Value} (occurs : Occurs value next) :
    Occurs value values := by
  generalize same : (none : Option String) = name at enters
  induction enters with
  | array => exact .inside List.mem_cons_self occurs
  | group => cases same
  | sleep => exact occurs_cons.mpr (.inr (.inr occurs))
  | later awake enters previous => exact occurs_cons.mpr (.inr (.inr (previous occurs same)))

private theorem enters_some {groups : Groups} {next : List Toml.Value} {group : String}
    (enters : groups.Enters values (some group) next) :
    Mentions group values ∧ groups.get? group = some next := by
  generalize same : some group = name at enters
  induction enters with
  | array => cases same
  | group known =>
      cases same
      exact ⟨.here List.mem_cons_self, known⟩
  | sleep => cases same
  | later awake enters previous =>
      obtain ⟨mentions, known⟩ := previous same
      exact ⟨occurs_cons.mpr (.inr (.inr mentions)), known⟩

private theorem Readable.of_occurs (readable : scope.Readable values) {next : List Toml.Value}
    (occurs : ∀ value, Occurs value next → Occurs value values) : scope.Readable next where
  entries value inside := readable.entries value (occurs _ inside)
  delays text inside := readable.delays text (occurs _ inside)
  groups name inside := readable.groups name (occurs _ inside)
  names name inside := readable.names name (occurs _ inside)

section Entered

variable {groups : Groups} {deep : List Toml.Value → Prop} {rest : List Toml.Value}

/-- Something holds of a list that is one level down. -/
def Entered (groups : Groups) (deep : List Toml.Value → Prop) (values : List Toml.Value) : Prop :=
  ∃ name next, groups.Enters values name next ∧ deep next

private theorem entered_nil : Entered groups deep [] ↔ False := by
  constructor
  · rintro ⟨name, next, enters, -⟩
    cases enters
  · exact False.elim

private theorem entered_sleep (text : String) :
    Entered groups deep (.string ("sleep:" ++ text) :: rest) ↔ deep rest := by
  simp [Entered, enters_cons, eq_comm, group_awake]

private theorem entered_group {name : String} {members : List Toml.Value}
    (known : groups.get? name = some members) :
    Entered groups deep (.string ("@" ++ name) :: rest) ↔
      deep members ∨ Entered groups deep rest := by
  simp [Entered, enters_cons, eq_comm, group_awake, or_and_right, exists_or, known]

private theorem entered_name {name : String} (awake : ∀ text, name ≠ "sleep:" ++ text)
    (single : ∀ group, name ≠ "@" ++ group) :
    Entered groups deep (.string name :: rest) ↔ Entered groups deep rest := by
  simp [Entered, enters_cons, awake, single]

private theorem entered_array {items : List Toml.Value} :
    Entered groups deep (.array items :: rest) ↔ deep items ∨ Entered groups deep rest := by
  simp [Entered, enters_cons, or_and_right, exists_or]

end Entered

section Limits

variable {deep : List Toml.Value → Prop}

private theorem groupTree_limits {name : String} {members : List Toml.Value}
    (known : scope.groups.get? name = some members) (fresh : name ∉ inProgress)
    (looked : TooDeepIff (inner (inProgress ++ [name]) members) (deep members))
    (normal : ∀ tree, inner (inProgress ++ [name]) members = .ok tree →
      ∃ actions, tree.normalizeAt (depth + 1) = .ok actions) :
    TooDeepIff (scope.groupTree inner depth inProgress name) (deep members) := by
  rw [groupTree, if_neg (by simpa using fresh), known]
  apply looked.bind_ok
  intro tree found
  obtain ⟨actions, made⟩ := normal tree found
  exact ⟨.one (.group ("@" ++ name) actions), by rw [made]; rfl⟩

private theorem entryTrees_limits (readable : scope.Readable values)
    (fresh : ∀ name next, scope.groups.Enters values (some name) next → name ∉ inProgress)
    (looked : ∀ name next, scope.groups.Enters values name next →
      TooDeepIff (inner (inProgress ++ name.toList) next) (deep next))
    (normal : ∀ {inProgress values tree}, inner inProgress values = .ok tree →
      ∃ actions, tree.normalizeAt (depth + 1) = .ok actions) :
    TooDeepIff (scope.entryTrees inner depth inProgress values)
      (Entered scope.groups deep values) := by
  induction values with
  | nil =>
      rw [entered_nil]
      exact ⟨nofun, fun _ => ⟨[], rfl⟩⟩
  | cons value rest previous =>
      have later (awake : ∀ text, value ≠ .string ("sleep:" ++ text)) :
          TooDeepIff (scope.entryTrees inner depth inProgress rest)
            (Entered scope.groups deep rest) :=
        previous
          (readable.of_occurs fun _ occurs => occurs_cons.mpr (.inr (.inr occurs)))
          (fun _ _ enters => fresh _ _ (.later awake enters))
          (fun _ _ enters => looked _ _ (.later awake enters))
      cases Entry.of value with
      | sleep text =>
          obtain ⟨delay, read⟩ := readable.delays text (.here List.mem_cons_self)
          have below := looked none rest .sleep
          rw [Option.toList_none, List.append_nil] at below
          rw [entered_sleep, entryTrees_sleep, read]
          apply below.bind_ok
          intro tree found
          obtain ⟨actions, made⟩ := normal found
          exact ⟨[.one (.after delay actions)], by rw [made]; rfl⟩
      | group name =>
          obtain ⟨members, known⟩ := readable.groups name (.here List.mem_cons_self)
          have enters : scope.groups.Enters (.string ("@" ++ name) :: rest) (some name) members :=
            .group known
          have grouped := groupTree_limits known (fresh _ _ enters) (looked _ _ enters)
            fun _ found => normal found
          rw [entered_group known, entryTrees_group]
          apply grouped.bind
          intro tree _
          exact (later (by simp [group_awake])).map
      | name awake single =>
          obtain ⟨action, known⟩ := readable.names _ (.here List.mem_cons_self) awake single
          rw [entered_name awake single, entryTrees_name _ _ _ _ _ awake single, known]
          exact (later (by simpa using awake)).map
      | array items =>
          have below := looked none items .array
          rw [Option.toList_none, List.append_nil] at below
          rw [entered_array]
          apply below.bind
          intro tree _
          exact (later nofun).map
      | other text list =>
          rcases readable.entries _ (.here List.mem_cons_self) with ⟨name, same⟩ | ⟨items, same⟩
          · exact absurd same (text name)
          · exact absurd same (list items)

private theorem normalizeAt_listTree {levels : Nat} (within : levels ≤ maxDepth)
    {tree : ActionTree} (looked : scope.listTree levels inProgress values = .ok tree) :
    ∃ actions, tree.normalizeAt (maxDepth - levels + 1) = .ok actions := by
  have shallow := nesting_lt looked
  rw [ActionTree.normalizeAt_eq, if_neg (by omega)]
  exact ⟨_, rfl⟩

/-- Some list lies so many levels below a list. -/
def Reaches (groups : Groups) (levels : Nat) (values : List Toml.Value) : Prop :=
  ∃ below inner, levels ≤ below ∧ groups.LiesBelow below values inner

private theorem entered_reaches {groups : Groups} {levels : Nat} :
    Entered groups (Reaches groups levels) values ↔ Reaches groups (levels + 1) values := by
  constructor
  · rintro ⟨name, next, enters, below, inner, enough, lies⟩
    exact ⟨below + 1, inner, Nat.succ_le_succ enough, .enter enters lies⟩
  · rintro ⟨below, inner, enough, lies⟩
    cases lies with
    | self => omega
    | enter enters lies => exact ⟨_, _, enters, _, _, Nat.le_of_succ_le_succ enough, lies⟩

/-- Every group in progress leads to the list that is looked up, so none is entered again. -/
private theorem listTree_limits (acyclic : scope.groups.Acyclic)
    (members : ∀ name members, scope.groups.get? name = some members → scope.Readable members)
    {levels : Nat} (within : levels ≤ maxDepth + 1) (readable : scope.Readable values)
    (leads : ∀ name ∈ inProgress, ∀ other, Mentions other values →
      Relation.TransGen scope.groups.Refers name other) :
    TooDeepIff (scope.listTree levels inProgress values)
      (Reaches scope.groups levels values) := by
  induction levels generalizing inProgress values with
  | zero =>
      have deep : Reaches scope.groups 0 values := ⟨0, values, Nat.le_refl 0, .self⟩
      exact ⟨fun _ => rfl, fun shallow => absurd deep shallow⟩
  | succ levels previous =>
      have fresh (name : String) (next : List Toml.Value)
          (enters : scope.groups.Enters values (some name) next) : name ∉ inProgress := by
        intro member
        obtain ⟨mentions, -⟩ := enters_some enters
        exact acyclic name (leads name member name mentions)
      have looked (name : Option String) (next : List Toml.Value)
          (enters : scope.groups.Enters values name next) :
          TooDeepIff (scope.listTree levels (inProgress ++ name.toList) next)
            (Reaches scope.groups levels next) := by
        cases name with
        | none =>
            have occurs (value : Toml.Value) (inside : Occurs value next) : Occurs value values :=
              enters_none enters inside
            apply previous (Nat.le_of_succ_le within) (readable.of_occurs occurs)
            intro name member other mentions
            rw [Option.toList_none, List.append_nil] at member
            exact leads name member other (occurs _ mentions)
        | some group =>
            obtain ⟨referred, known⟩ := enters_some enters
            apply previous (Nat.le_of_succ_le within) (members group next known)
            intro name member other mentions
            have refers : scope.groups.Refers group other := ⟨next, known, mentions⟩
            rcases List.mem_append.mp member with before | here
            · exact (leads name before group referred).tail refers
            · obtain rfl : name = group := by simpa using here
              exact .single refers
      rw [listTree, ← entered_reaches]
      exact (entryTrees_limits readable fresh looked
        (normalizeAt_listTree (Nat.le_of_succ_le_succ within))).map

theorem actions_limits (acyclic : scope.groups.Acyclic)
    (members : ∀ name members, scope.groups.get? name = some members → scope.Readable members)
    (readable : scope.Readable values) :
    TooDeepIff (scope.actions values) (Reaches scope.groups (maxDepth + 1) values) :=
  listTree_limits acyclic members (Nat.le_refl _) readable nofun

theorem group_limits (acyclic : scope.groups.Acyclic)
    (members : ∀ name members, scope.groups.get? name = some members → scope.Readable members)
    {name : String} (known : scope.groups.get? name = some values) :
    TooDeepIff (scope.group name) (Reaches scope.groups maxDepth values) := by
  apply groupTree_limits known List.not_mem_nil
  · apply listTree_limits acyclic members (Nat.le_succ _) (members name values known)
    intro other inside next mentions
    obtain rfl : other = name := by simpa using inside
    exact .single ⟨values, known, mentions⟩
  · intro tree looked
    simpa using normalizeAt_listTree (Nat.le_refl maxDepth) looked

theorem normalize_of_actions {tree : ActionTree} (looked : scope.actions values = .ok tree) :
    ∃ actions, tree.normalize = .ok actions := by
  have shallow := nesting_lt looked
  rw [ActionTree.normalize, ActionTree.normalizeAt_eq, if_neg (by omega)]
  exact ⟨_, rfl⟩

end Limits

end Depth

end Scope

end HomeRules
