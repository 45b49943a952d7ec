import HomeRules.Schema.Selection

/-!
# Which guards are asked

What a selection reaches, without following its recursion: in declaration order all
guards are asked, or those up to the first that holds, each once and each about the
same event and world. What it selects then depends on their answers only.
-/

set_option autoImplicit false

namespace HomeRules

/-- Whether a guard holds; one that fails does not. -/
def Verdict.holds (verdict : Verdict) : Bool :=
  match verdict.answer with
  | .ok value => value
  | .error _ => false

def Verdict.fails (verdict : Verdict) : Bool :=
  match verdict.answer with
  | .ok _ => false
  | .error _ => true

namespace ConditionSchema

variable (ask : Condition → Verdict)

/-- The items whose guards are asked: all, or of an exclusive mapping those up to the
first whose guard holds. -/
def askedItems : ConditionSchema → List GuardedActions
  | .unconditional _ => []
  | .conditional items false => items
  | .conditional items true =>
    items.take (items.findIdx (fun item => (ask item.condition).holds) + 1)

/-- The action lists that match: the one without a guard, all whose guards hold, or of
an exclusive mapping the first of these. -/
def matching : ConditionSchema → List (List Action)
  | .unconditional actions => [actions]
  | .conditional items false =>
    (items.filter fun item => (ask item.condition).holds).map (·.actions)
  | .conditional items true =>
    ((items.find? fun item => (ask item.condition).holds).toList).map (·.actions)

private theorem reachItems_all (items : List GuardedActions) :
    reachItems ask false items = items.map fun item => ⟨item, ask item.condition⟩ := by
  induction items with
  | nil => rfl
  | cons item rest previous => simp [reachItems, previous]

private theorem reachItems_first (items : List GuardedActions) :
    reachItems ask true items =
      (items.take (items.findIdx (fun item => (ask item.condition).holds) + 1)).map
        fun item => ⟨item, ask item.condition⟩ := by
  induction items with
  | nil => rfl
  | cons item rest previous =>
      have same : Reached.holds ⟨item, ask item.condition⟩ = (ask item.condition).holds := rfl
      cases holds : (ask item.condition).holds with
      | true => simp [reachItems, same, holds, List.findIdx_cons]
      | false => simp [reachItems, same, holds, List.findIdx_cons, previous]

/-- The guards that are asked, with what they answer. -/
theorem reach_eq (body : ConditionSchema) :
    body.reach ask = (body.askedItems ask).map fun item => ⟨item, ask item.condition⟩ := by
  cases body with
  | unconditional actions => rfl
  | conditional items exclusive =>
      cases exclusive with
      | false => exact reachItems_all ask items
      | true => exact reachItems_first ask items

private theorem filter_take_findIdx (holds : GuardedActions → Bool) (items : List GuardedActions) :
    (items.take (items.findIdx holds + 1)).filter holds = (items.find? holds).toList := by
  induction items with
  | nil => rfl
  | cons item rest previous =>
      cases found : holds item with
      | true => simp [List.findIdx_cons, found]
      | false => simp [List.findIdx_cons, found, previous]

/-- The lists that are selected are those that match. -/
theorem selected_eq (body : ConditionSchema) :
    body.selected (body.reach ask) = body.matching ask := by
  rw [reach_eq]
  cases body with
  | unconditional actions => rfl
  | conditional items exclusive =>
      have kept (asked : List GuardedActions) :
          ((asked.map fun item => (⟨item, ask item.condition⟩ : Reached)).filter
            Reached.holds).map (·.item.actions) =
              (asked.filter fun item => (ask item.condition).holds).map (·.actions) := by
        rw [List.filter_map, List.map_map]
        rfl
      cases exclusive with
      | false => exact kept items
      | true =>
          rw [matching, ← filter_take_findIdx]
          exact kept _

/-- The guards that fail among those that are asked. -/
theorem failures_eq (body : ConditionSchema) :
    ((body.reach ask).filter (·.failure?.isSome)).length =
      ((body.askedItems ask).filter fun item => (ask item.condition).fails).length := by
  have same (item : GuardedActions) : (Reached.failure? ⟨item, ask item.condition⟩).isSome =
      (ask item.condition).fails := by
    unfold Reached.failure? Verdict.fails
    cases (ask item.condition).answer <;> rfl
  rw [reach_eq, List.filter_map, List.length_map]
  simp only [Function.comp_def, same]

/-- As many lists match as asked guards hold; without guards, one. -/
theorem matching_length (body : ConditionSchema) :
    (body.matching ask).length = match body with
      | .unconditional _ => 1
      | .conditional _ _ =>
        ((body.askedItems ask).filter fun item => (ask item.condition).holds).length := by
  cases body with
  | unconditional actions => rfl
  | conditional items exclusive =>
      cases exclusive with
      | false => exact List.length_map _
      | true =>
          simp only [matching, askedItems, List.length_map]
          rw [filter_take_findIdx]

end ConditionSchema

end HomeRules
