import HomeRules.Proofs.RuleFile.Entries
import HomeRules.Proofs.Schema.Build
import HomeRules.RuleFile.Resolution

/-!
# Sequences of actions and sleeps

A list that has neither lists nor groups in it is a sequence of actions and sleeps. What follows a
sleep lies one level below it, as the entries of an inner list do, so that the depth of a sequence
is the number of its sleeps. Up to the limit a sequence is accepted, and is built with all of its
actions in their order; beyond it, it is refused as if it were nested.
-/

set_option autoImplicit false

namespace HomeRules

/-! ## Sequences -/

/-- A step of a sequence. -/
inductive SequenceStep where
  | act (action : Action)
  | sleep (delay : Duration)

/-- An entry of a list is the name of an action, or a sleep. -/
inductive Scope.ReadsAs (scope : Scope) : Toml.Value → SequenceStep → Prop where
  | act {name : String} {action : Action} (awake : ∀ text, name ≠ "sleep:" ++ text)
      (single : ∀ group, name ≠ "@" ++ group) (known : scope.vocabulary.action name = .ok action) :
      ReadsAs scope (.string name) (.act action)
  | sleep (text : String) {delay : Duration} (read : Duration.parse? text = some delay) :
      ReadsAs scope (.string ("sleep:" ++ text)) (.sleep delay)

namespace SequenceStep

/-- The actions that a sequence names. -/
def named : List SequenceStep → List Action
  | [] => []
  | .act action :: rest => action :: named rest
  | .sleep _ :: rest => named rest

def delays : List SequenceStep → List Duration
  | [] => []
  | .act _ :: rest => delays rest
  | .sleep delay :: rest => delay :: delays rest

/-- The actions that a sequence comes to. A sleep puts off all that follows it. -/
def arranged : List SequenceStep → List Action
  | [] => []
  | .act action :: rest => action :: arranged rest
  | .sleep delay :: rest => [.after delay (arranged rest)]

end SequenceStep

/-- The last action of a list is put off by each of some delays, one inside the other. Taken
together, the actions that stand before them and behind the last one are these. -/
inductive Action.Unfolds : List Duration → List Action → List Action → Prop where
  | whole {actions : List Action} : Unfolds [] actions actions
  | later {delay : Duration} {delays : List Duration} {before inner behind : List Action}
      (unfolds : Unfolds delays inner behind) :
      Unfolds (delay :: delays) (before ++ [.after delay inner]) (before ++ behind)

theorem Action.Unfolds.cons {delays : List Duration} {actions all : List Action}
    (unfolds : Unfolds delays actions all) (first : Action) :
    Unfolds delays (first :: actions) (first :: all) := by
  cases unfolds with
  | whole => exact .whole
  | @later _ _ before _ _ unfolds => exact @later _ _ (first :: before) _ _ unfolds

/-- A sequence is arranged with each of its actions once, in their order. -/
theorem SequenceStep.arranged_unfolds (steps : List SequenceStep) :
    Action.Unfolds (delays steps) (arranged steps) (named steps) := by
  induction steps with
  | nil => exact .whole
  | cons step rest previous =>
      cases step with
      | act action => exact previous.cons action
      | sleep delay => exact @Action.Unfolds.later _ _ [] _ _ previous

/-! ## Looking up -/

namespace Scope

open SequenceStep

variable {scope : Scope} {values : List Toml.Value} {steps : List SequenceStep}

private theorem entryTrees_sequence (reads : List.Forall₂ scope.ReadsAs values steps)
    {levels : Nat} (within : levels ≤ maxDepth) {inner : ListLookup} (inProgress : List String)
    (lower : ∀ {values steps}, List.Forall₂ scope.ReadsAs values steps →
      inner inProgress values =
        if (delays steps).length < levels then .ok (.ofList (arranged steps))
        else .error .tooDeep) :
    scope.entryTrees inner (maxDepth - levels) inProgress values =
      if (delays steps).length ≤ levels then .ok ((arranged steps).map .one)
      else .error .tooDeep := by
  induction reads with
  | nil => rfl
  | @cons value step rest later read reads previous =>
      cases read with
      | act awake single known =>
          rw [entryTrees_name _ _ _ _ _ awake single, known, previous]
          change _ = if (delays later).length ≤ levels then _ else _
          split <;> rfl
      | @sleep text delay read =>
          rw [entryTrees_sleep, read]
          dsimp only
          rw [lower reads]
          change _ = if (delays later).length < levels then _ else _
          by_cases shallow : (delays later).length < levels
          · -- There is a level left, and the rest of the list is normalized on it.
            have inside : maxDepth - levels + 1 ≤ maxDepth := by omega
            have normal := ActionTree.normalizeAt_ofList inside (arranged later)
            rw [if_pos shallow, if_pos shallow]
            change (ActionTree.normalizeAt _ _ >>= fun actions =>
              pure [ActionTree.one (.after delay actions)]) = _
            rw [normal]
            rfl
          · rw [if_neg shallow, if_neg shallow]
            rfl

private theorem listTree_sequence {levels : Nat} (within : levels ≤ maxDepth + 1)
    (reads : List.Forall₂ scope.ReadsAs values steps) (inProgress : List String) :
    scope.listTree levels inProgress values =
      if (delays steps).length < levels then .ok (.ofList (arranged steps))
      else .error .tooDeep := by
  induction levels generalizing values steps with
  | zero => rfl
  | succ levels previous =>
      have below : levels ≤ maxDepth := Nat.le_of_succ_le_succ within
      have found := entryTrees_sequence reads below inProgress
        fun reads => previous (Nat.le_succ_of_le below) reads
      rw [listTree, found]
      simp only [Nat.lt_succ_iff]
      split <;> rfl

/-- What a sequence resolves to. -/
theorem actions_sequence (reads : List.Forall₂ scope.ReadsAs values steps) :
    scope.actions values =
      if (delays steps).length ≤ maxDepth then .ok (.ofList (arranged steps))
      else .error .tooDeep := by
  rw [actions, listTree_sequence (Nat.le_refl _) reads]
  simp only [Nat.lt_succ_iff]

/-- A sequence with at most eight sleeps is accepted wherever it stands, and the rule that is built
of it has each action that the sequence names once, in their order, with the sleeps between them.
Every sequence with more sleeps is refused. -/
theorem sequences_accepted (reads : List.Forall₂ scope.ReadsAs values steps) :
    Action.Unfolds (delays steps) (arranged steps) (named steps) ∧
    (∀ depth ≤ 8, (do (← scope.actions values).normalizeAt depth) =
      if (delays steps).length ≤ 8 then .ok (arranged steps) else .error .tooDeep) ∧
    ∀ (spec : RuleSpec) (kind : EventKind), spec.actions = some values → spec.branches = [] →
      (do (← scope.rule spec).build kind) =
        if (delays steps).length ≤ 8 then .ok (.unconditional (arranged steps))
        else .error .tooDeep := by
  have resolved : scope.actions values =
      if (delays steps).length ≤ 8 then .ok (.ofList (arranged steps)) else .error .tooDeep :=
    actions_sequence reads
  refine ⟨arranged_unfolds steps, fun depth within => ?_, fun spec kind lists plain => ?_⟩
  · rw [resolved]
    split
    · exact ActionTree.normalizeAt_ofList within _
    · rfl
  · have started : scope.rule spec = (scope.actions values).map .unconditional := by
      simp only [rule, lists, plain, branches]
      cases scope.actions values with
      | error error => cases spec.firstMatch <;> rfl
      | ok tree => cases spec.firstMatch <;> rfl
    rw [started, resolved]
    split
    · have normal := ActionTree.normalizeAt_ofList (Nat.zero_le maxDepth) (arranged steps)
      change (ActionTree.normalizeAt _ _ >>= fun actions =>
        pure (ConditionSchema.unconditional actions)) = _
      rw [normal]
      rfl
    · rfl

private def porch : Scope :=
  { vocabulary := .ofLists [] [.call "light.on" [], .call "light.off" []] }

private def evening : List Toml.Value :=
  ["light.on", "sleep:2s", "light.off", "sleep:1m", "light.on"].map .string

private theorem light_reads {name : String} {action : Action} (light : 'l' ∈ name.toList.head?)
    (known : scope.vocabulary.action name = .ok action) :
    scope.ReadsAs (.string name) (.act action) := by
  refine .act ?_ ?_ known
  all_goals
    rintro text rfl
    rw [String.toList_append] at light
    cases light

private theorem evening_reads :
    List.Forall₂ porch.ReadsAs evening [.act (.call "light.on" []), .sleep (.ofMilliseconds 2000),
      .act (.call "light.off" []), .sleep (.ofMilliseconds 60000), .act (.call "light.on" [])] :=
  .cons (light_reads rfl rfl) <| .cons (.sleep "2s" (by decide +kernel)) <|
    .cons (light_reads rfl rfl) <| .cons (.sleep "1m" (by decide +kernel)) <|
    .cons (light_reads rfl rfl) .nil

/-- The light goes off after two seconds and on again a minute later. -/
theorem sequences_accepted_evening :
    (do (← porch.rule { event := "dusk", actions := some evening }).build (.bus "dusk")) =
      .ok (.unconditional [.call "light.on" [], .after (.ofMilliseconds 2000) [
        .call "light.off" [], .after (.ofMilliseconds 60000) [.call "light.on" []]]]) :=
  (sequences_accepted evening_reads).2.2 _ _ rfl rfl

/-- Nine sleeps in a row are nine levels, though no list lies in another one. -/
theorem nine_sleeps_refused :
    (∃ steps, List.Forall₂ porch.ReadsAs
      (List.replicate 9 (.string "sleep:1s") ++ [.string "light.on"]) steps) ∧
    porch.actions (List.replicate 9 (.string "sleep:1s") ++ [.string "light.on"]) =
      .error .tooDeep := by
  have second : porch.ReadsAs (.string "sleep:1s") (.sleep (.ofMilliseconds 1000)) :=
    .sleep "1s" (by decide +kernel)
  have light : porch.ReadsAs (.string "light.on") (.act (.call "light.on" [])) :=
    light_reads rfl rfl
  have reads : List.Forall₂ porch.ReadsAs
      (List.replicate 9 (.string "sleep:1s") ++ [.string "light.on"])
      (List.replicate 9 (.sleep (.ofMilliseconds 1000)) ++ [.act (.call "light.on" [])]) := by
    simp only [List.replicate, List.cons_append, List.nil_append, List.forall₂_cons, second, light,
      List.Forall₂.nil, and_self]
  exact ⟨⟨_, reads⟩, (actions_sequence reads).trans rfl⟩

end Scope

end HomeRules
