import HomeRules.Proofs.RuleFile.Depth
import HomeRules.RuleFile.Resolution

/-!
# References between groups

Looking up names counts levels and gives up below the deepest one. It therefore ends for every text,
also where groups lead back to themselves, and such a file is always refused.
-/

set_option autoImplicit false

namespace HomeRules

namespace Scope

/-! ## Lookups without levels -/

/-- A lookup that counts how deep it is, looks up the lists below by itself and has no other
bound. -/
def Recurs (scope : Scope) (lookup : Nat → ListLookup) : Prop :=
  ∀ depth inProgress values, lookup depth inProgress values =
    if maxDepth < depth then .error .tooDeep
    else (scope.entryTrees (lookup (depth + 1)) depth inProgress values).map .many

theorem recurs_iff {scope : Scope} {lookup : Nat → ListLookup} :
    scope.Recurs lookup ↔ ∀ depth, lookup depth = scope.listTree (maxDepth + 1 - depth) := by
  constructor
  · intro recurs depth
    generalize left : maxDepth + 1 - depth = levels
    induction levels generalizing depth with
    | zero =>
        funext inProgress values
        rw [recurs, if_pos (by omega), listTree]
    | succ levels previous =>
        funext inProgress values
        have here : maxDepth - levels = depth := by omega
        rw [recurs, if_neg (by omega), previous (depth + 1) (by omega), listTree, here]
  · intro same depth inProgress values
    rw [same, same]
    by_cases deep : maxDepth < depth
    · rw [if_pos deep, Nat.sub_eq_zero_of_le deep, listTree]
    · have left : maxDepth + 1 - depth = maxDepth - depth + 1 := by omega
      have here : maxDepth - (maxDepth - depth) = depth := by omega
      rw [if_neg deep, left, listTree, here, Nat.add_sub_add_right]

end Scope

/-! ## Files -/

/-- An action list of a branch, or of a branch inside of it. -/
inductive BranchSpec.Lists (values : List Toml.Value) : BranchSpec → Prop where
  | here {condition : String} {branches : List BranchSpec} :
      Lists values (.mk condition (some values) branches)
  | inside {condition : String} {actions : Option (List Toml.Value)} {branches : List BranchSpec}
      {branch : BranchSpec} (member : branch ∈ branches) (lists : Lists values branch) :
      Lists values (.mk condition actions branches)

/-- An action list that stands in a rule file. -/
inductive RuleFile.Lists (file : RuleFile) (values : List Toml.Value) : Prop where
  | group {name : String} (known : file.groups.get? name = some values)
  | rule {rule : RuleSpec} (member : rule ∈ file.rules) (actions : rule.actions = some values)
  | branch {rule : RuleSpec} {branch : BranchSpec} (member : rule ∈ file.rules)
      (inside : branch ∈ rule.branches) (lists : branch.Lists values)
  | state {state : StateSpec} (member : state ∈ file.states) (actions : state.actions = some values)

namespace Scope

section Accepted

variable {scope : Scope}

private theorem ok_of_mapM {ε ι α : Type} {read : ι → Except ε α} {items : List ι} {values : List α}
    (done : items.mapM read = .ok values) : ∀ item ∈ items, ∃ value, read item = .ok value := by
  induction items generalizing values with
  | nil => nofun
  | cons item rest previous =>
      rw [List.mapM_cons] at done
      obtain ⟨value, first, done⟩ := ok_of_bind done
      obtain ⟨others, rested, -⟩ := ok_of_bind done
      intro other member
      rcases List.mem_cons.mp member with rfl | later
      · exact ⟨value, first⟩
      · exact previous rested other later

private theorem ok_of_forM {ε ι : Type} {work : ι → Except ε Unit} {items : List ι}
    (done : items.forM work = .ok ()) : ∀ item ∈ items, work item = .ok () := by
  induction items with
  | nil => nofun
  | cons item rest previous =>
      obtain ⟨⟨⟩, first, rested⟩ := ok_of_bind done
      intro other member
      rcases List.mem_cons.mp member with rfl | later
      · exact first
      · exact previous rested other later

private theorem ok_of_foldlM {ε ι σ : Type} {work : σ → ι → Except ε σ} {items : List ι}
    {start last : σ} (done : items.foldlM work start = .ok last) :
    ∀ item ∈ items, ∃ before after, work before item = .ok after := by
  induction items generalizing start with
  | nil => nofun
  | cons item rest previous =>
      rw [List.foldlM_cons] at done
      obtain ⟨middle, first, rested⟩ := ok_of_bind done
      intro other member
      rcases List.mem_cons.mp member with rfl | later
      · exact ⟨start, middle, first⟩
      · exact previous rested other later

private theorem branches_ok {depth : Nat} {specs : List BranchSpec}
    {drafts : List (Condition × BranchDraft)} (resolved : scope.branches depth specs = .ok drafts) :
    ∀ spec ∈ specs, ∃ draft, scope.branch depth spec = .ok draft := by
  induction specs generalizing drafts with
  | nil => nofun
  | cons spec rest previous =>
      cases spec with
      | mk text actions inner =>
          rw [branches] at resolved
          obtain ⟨condition, -, resolved⟩ := ok_of_bind resolved
          obtain ⟨draft, first, resolved⟩ := ok_of_bind resolved
          obtain ⟨others, rested, -⟩ := ok_of_bind resolved
          intro other member
          rcases List.mem_cons.mp member with rfl | later
          · exact ⟨draft, first⟩
          · exact previous rested other later

private theorem branch_lists {spec : BranchSpec} {values : List Toml.Value}
    (lists : spec.Lists values) {depth : Nat} {draft : BranchDraft}
    (resolved : scope.branch depth spec = .ok draft) : ∃ tree, scope.actions values = .ok tree := by
  induction lists generalizing depth draft with
  | @here condition branches =>
      unfold branch at resolved
      split at resolved
      case isTrue => cases resolved
      case isFalse =>
        cases branches with
        | nil =>
            obtain ⟨tree, looked, -⟩ := ok_of_map resolved
            exact ⟨tree, looked⟩
        | cons => cases resolved
  | @inside condition actions branches other member lists previous =>
      unfold branch at resolved
      split at resolved
      case isTrue => cases resolved
      case isFalse =>
        cases branches with
        | nil => cases member
        | cons first rest =>
            cases actions with
            | some values => cases resolved
            | none =>
                obtain ⟨drafts, inner, -⟩ := ok_of_map resolved
                obtain ⟨draft, made⟩ := branches_ok inner other member
                exact previous made

private theorem rule_ok {spec : RuleSpec} {draft : ConditionDraft}
    (resolved : scope.rule spec = .ok draft) :
    (∀ values, spec.actions = some values → ∃ tree, scope.actions values = .ok tree) ∧
      ∃ drafts, scope.branches 1 spec.branches = .ok drafts := by
  rw [rule] at resolved
  split at resolved
  case isTrue => cases resolved
  case isFalse =>
    dsimp only at resolved
    cases written : spec.actions with
    | some values =>
        rw [written] at resolved
        obtain ⟨start, begun, resolved⟩ := ok_of_bind resolved
        obtain ⟨drafts, inner, -⟩ := ok_of_bind resolved
        obtain ⟨tree, looked, -⟩ := ok_of_map begun
        exact ⟨fun _ same => Option.some.inj same ▸ ⟨tree, looked⟩, drafts, inner⟩
    | none =>
        rw [written] at resolved
        dsimp only at resolved
        split at resolved
        case isTrue => cases resolved
        case isFalse =>
          obtain ⟨start, -, resolved⟩ := ok_of_bind resolved
          obtain ⟨drafts, inner, -⟩ := ok_of_bind resolved
          exact ⟨nofun, drafts, inner⟩

private theorem state_ok {spec : StateSpec} {state : State} (made : scope.state spec = .ok state)
    {values : List Toml.Value} (written : spec.actions = some values) :
    ∃ tree, scope.actions values = .ok tree := by
  obtain ⟨condition, -, made⟩ := ok_of_bind made
  rw [written] at made
  obtain ⟨tree, looked, -⟩ := ok_of_bind made
  exact ⟨tree, looked⟩

private theorem machine_ok {specs : List StateSpec} {machine : StateMachine}
    (made : scope.machine specs = .ok machine) :
    ∀ spec ∈ specs, ∃ state, scope.state spec = .ok state := by
  obtain ⟨started, listed, -⟩ := ok_of_bind made
  intro spec member
  obtain ⟨before, after, done⟩ := ok_of_foldlM listed spec member
  obtain ⟨state, made, -⟩ := ok_of_bind done
  exact ⟨state, made⟩

private theorem mem_keys_of_get? {α : Type} {name : String} {value : α} {table : Dictionary α}
    (known : table.get? name = some value) : name ∈ table.keys := by
  induction table with
  | nil => cases known
  | cons entry rest previous =>
      rw [Dictionary.get?] at known
      split at known
      case isTrue same => exact List.mem_cons.mpr (.inl same.symm)
      case isFalse => exact List.mem_cons_of_mem _ (previous known)

/-- Every list of an accepted file was found, and every group on its own. -/
private theorem resolve_ok {vocabulary : Vocabulary} {file : RuleFile} {rules : ResolvedRules}
    (resolved : file.resolve vocabulary = .ok rules) :
    (∀ name members, file.groups.get? name = some members →
      ∃ tree, Scope.group { vocabulary, groups := file.groups } name = .ok tree) ∧
    ∀ values, file.Lists values → (∃ name, file.groups.get? name = some values) ∨
      ∃ tree, Scope.actions { vocabulary, groups := file.groups } values = .ok tree := by
  obtain ⟨⟨⟩, grouped, resolved⟩ := ok_of_bind resolved
  obtain ⟨entries, ruled, resolved⟩ := ok_of_bind resolved
  obtain ⟨states, stated, -⟩ := ok_of_bind resolved
  constructor
  · intro name members known
    obtain ⟨tree, found, -⟩ := ok_of_bind (ok_of_forM grouped name (mem_keys_of_get? known))
    exact ⟨tree, found⟩
  · intro values lists
    cases lists with
    | group known => exact .inl ⟨_, known⟩
    | rule member written =>
        obtain ⟨entry, made⟩ := ok_of_mapM ruled _ member
        obtain ⟨body, made, -⟩ := ok_of_bind made
        exact .inr ((rule_ok made).1 values written)
    | branch member inside lists =>
        obtain ⟨entry, made⟩ := ok_of_mapM ruled _ member
        obtain ⟨body, made, -⟩ := ok_of_bind made
        obtain ⟨-, drafts, inner⟩ := rule_ok made
        obtain ⟨draft, made⟩ := branches_ok inner _ inside
        exact .inr (branch_lists lists made)
    | state member written =>
        rw [stateEntries] at stated
        split at stated
        case isTrue empty => simp_all
        case isFalse =>
          obtain ⟨machine, built, -⟩ := ok_of_bind stated
          obtain ⟨state, made⟩ := machine_ok built _ member
          exact .inr (state_ok made written)

/-- In an accepted file no group leads back to itself, and every group that is referred to
exists. -/
theorem accepted_groups {vocabulary : Vocabulary} {file : RuleFile} {rules : ResolvedRules}
    (resolved : file.resolve vocabulary = .ok rules) :
    file.groups.Acyclic ∧ ∀ values, file.Lists values → ∀ name, Mentions name values →
      ∃ members, file.groups.get? name = some members := by
  obtain ⟨grouped, listed⟩ := resolve_ok resolved
  have acyclic : file.groups.Acyclic :=
    acyclic_of_group { vocabulary, groups := file.groups } grouped
  refine ⟨acyclic, ?_⟩
  intro values lists name mentions
  rcases listed values lists with ⟨group, known⟩ | ⟨tree, looked⟩
  · obtain ⟨tree, found⟩ := grouped group values known
    obtain ⟨-, same, present, inner, -, looked, -⟩ := groupTree_ok found
    cases known.symm.trans present
    obtain ⟨-, members, there, -⟩ := listTree_mentions looked mentions
    exact ⟨members, there⟩
  · obtain ⟨-, members, there, -⟩ := listTree_mentions looked mentions
    exact ⟨members, there⟩

end Accepted

/-- Looking up has one outcome for every text, though it has no bound but its own count of levels.
In an accepted file no group leads back to itself and every group that is referred to exists, and a
file with a group that leads back to itself is refused. Where groups do not lead back to themselves
and nothing is wrong with single entries, a list is refused just if some list lies more than the
deepest level below it, and a group just if its members lie more than that below a reference. -/
theorem references_end (vocabulary : Vocabulary) (file : RuleFile) :
    let scope : Scope := { vocabulary, groups := file.groups }
    (∃ lookup, scope.Recurs lookup ∧ (∀ other, scope.Recurs other → other = lookup) ∧
      (∀ values, scope.actions values = lookup 0 [] values) ∧
      ∀ name, scope.group name = scope.groupTree (lookup 1) 0 [] name) ∧
    (∀ rules, file.resolve vocabulary = .ok rules → file.groups.Acyclic ∧
      ∀ values, file.Lists values → ∀ name, Mentions name values →
        ∃ members, file.groups.get? name = some members) ∧
    (∀ name, Relation.TransGen file.groups.Refers name name →
      ∃ error, file.resolve vocabulary = .error error) ∧
    (file.groups.Acyclic →
      (∀ name members, file.groups.get? name = some members → scope.Readable members) →
      (∀ values, scope.Readable values →
        TooDeepIff (scope.actions values) (∃ levels inner, maxDepth < levels ∧
          file.groups.LiesBelow levels values inner) ∧
        TooDeepIff (do (← scope.actions values).normalize) (∃ levels inner, maxDepth < levels ∧
          file.groups.LiesBelow levels values inner)) ∧
      ∀ name members, file.groups.get? name = some members →
        TooDeepIff (scope.group name) (∃ levels inner, maxDepth < 1 + levels ∧
          file.groups.LiesBelow levels members inner)) := by
  dsimp only
  refine ⟨⟨_, recurs_iff.mpr fun _ => rfl, ?_, fun _ => rfl, fun _ => rfl⟩,
    fun _ => accepted_groups, ?_, ?_⟩
  · intro other recurs
    funext depth
    exact recurs_iff.mp recurs depth
  · intro name cycle
    cases resolved : file.resolve vocabulary with
    | error error => exact ⟨error, rfl⟩
    | ok rules => exact absurd cycle ((accepted_groups resolved).1 name)
  · intro acyclic members
    constructor
    · intro values readable
      have limits := actions_limits acyclic members readable
      exact ⟨limits, limits.bind_ok fun tree looked => normalize_of_actions looked⟩
    · intro name values known
      have limits : TooDeepIff (Scope.group { vocabulary, groups := file.groups } name)
          (Reaches file.groups maxDepth values) := group_limits acyclic members known
      apply limits.congr
      simp only [Reaches, Nat.add_comm 1, Nat.lt_succ_iff]

end Scope

/-- Two groups of which one refers to the other in two places. -/
def sharing : RuleFile where
  groups := [("a", [.string "@b", .array [.string "@b"]]), ("b", [])]
  rules := [{ event := "door", actions := some [.string "@a"] }]

/-- Two groups that lead back to themselves, behind a sleep and inside of a list. -/
def circling : RuleFile where
  groups := [("a", [.string "sleep:1s", .string "@b"]), ("b", [.array [.string "@a"]])]

/-- Lists inside of each other. -/
def boxes : Nat → List Toml.Value
  | 0 => []
  | count + 1 => [.array (boxes count)]

private theorem readable_boxes (scope : Scope) (count : Nat) : scope.Readable (boxes count) := by
  have lists (value : Toml.Value) (occurs : Occurs value (boxes count)) :
      ∃ items, value = .array items := by
    induction count with
    | zero => cases occurs <;> contradiction
    | succ count previous =>
        rcases Scope.occurs_cons.mp occurs with rfl | ⟨items, same, inside⟩ | later
        · exact ⟨_, rfl⟩
        · cases same
          exact previous inside
        · cases later <;> contradiction
  constructor
  case entries => exact fun value occurs => .inr (lists value occurs)
  case delays => exact fun text occurs => nomatch lists _ occurs
  case groups => exact fun name occurs => nomatch lists _ occurs
  case names => exact fun name occurs => nomatch lists _ occurs

private theorem occurs_sharing {name : String} {members : List Toml.Value}
    (known : sharing.groups.get? name = some members) {value : Toml.Value}
    (occurs : Occurs value members) : value = .string "@b" ∨ value = .array [.string "@b"] := by
  have none (occurs : Occurs value []) : False := by cases occurs <;> contradiction
  simp only [sharing, Dictionary.get?] at known
  split at known
  · cases known
    rcases Scope.occurs_cons.mp occurs with first | ⟨items, same, -⟩ | later
    · exact .inl first
    · cases same
    rcases Scope.occurs_cons.mp later with second | ⟨items, same, inside⟩ | last
    · exact .inr second
    · cases same
      rcases Scope.occurs_cons.mp inside with inner | ⟨items, same, -⟩ | last
      · exact .inl inner
      · cases same
      · exact (none last).elim
    · exact (none last).elim
  · split at known
    · cases known
      exact (none occurs).elim
    · cases known

private theorem readable_sharing (name : String) (members : List Toml.Value)
    (known : sharing.groups.get? name = some members) :
    Scope.Readable { vocabulary := {}, groups := sharing.groups } members := by
  constructor
  case entries =>
    intro value occurs
    exact (occurs_sharing known occurs).imp (⟨_, ·⟩) (⟨_, ·⟩)
  case delays =>
    intro text occurs
    rcases occurs_sharing known occurs with same | same
    · exact absurd (Toml.Value.string.inj same).symm (group_awake "b" text)
    · cases same
  case groups =>
    intro group occurs
    rcases occurs_sharing known occurs with same | same
    · obtain rfl : group = "b" := Scope.append_string_inj.mp same
      exact ⟨[], rfl⟩
    · cases same
  case names =>
    intro text occurs awake single
    rcases occurs_sharing known occurs with same | same
    · exact absurd (Toml.Value.string.inj same) (single "b")
    · cases same

private theorem below_boxes (groups : Groups) (count levels : Nat) (inner : List Toml.Value)
    (below : groups.LiesBelow levels (boxes count) inner) : levels ≤ count := by
  induction count generalizing levels with
  | zero =>
      cases below with
      | self => exact Nat.le_refl 0
      | enter enters => cases enters
  | succ count previous =>
      cases below with
      | self => exact Nat.zero_le _
      | enter enters below =>
          cases enters with
          | array => exact Nat.succ_le_succ (previous _ below)
          | later awake enters => cases enters

private theorem boxes_below (groups : Groups) (count : Nat) :
    groups.LiesBelow count (boxes count) [] := by
  induction count with
  | zero => exact .self
  | succ count previous => exact .enter .array previous

/-- The first two groups do not lead back to themselves, the others do. An empty list may stand in
eight lists, but not in nine. -/
theorem references_end_sharing :
    sharing.groups.Acyclic ∧ (∃ error, circling.resolve {} = .error error) ∧
      Scope.actions { vocabulary := {}, groups := sharing.groups } (boxes 9) = .error .tooDeep ∧
      ∃ tree, Scope.actions { vocabulary := {}, groups := sharing.groups } (boxes 8) =
        .ok tree := by
  obtain ⟨-, accepts, -, limits⟩ := Scope.references_end {} sharing
  obtain ⟨-, -, refuses, -⟩ := Scope.references_end {} circling
  have resolved : sharing.resolve {} = .ok { draft := [{
      key := "door"
      body := .unconditional (.many [.one (.group "@a"
        [.group "@b" [], .group "[]" [.group "@b" []]])]) }] } := by cbv
  have onward : circling.groups.Refers "a" "b" := ⟨_, rfl, .here (by simp)⟩
  have back : circling.groups.Refers "b" "a" :=
    ⟨_, rfl, .inside List.mem_cons_self (.here (by simp))⟩
  obtain ⟨acyclic, -⟩ := accepts _ resolved
  obtain ⟨lists, -⟩ := limits acyclic readable_sharing
  refine ⟨acyclic, refuses "a" (.tail (.single onward) back),
    (lists _ (readable_boxes _ 9)).1.refused ?_, (lists _ (readable_boxes _ 8)).1.found ?_⟩
  · exact ⟨9, [], by decide, boxes_below _ 9⟩
  · rintro ⟨levels, inner, deep, below⟩
    exact absurd (below_boxes _ _ _ _ below) (Nat.not_le.mpr deep)

end HomeRules