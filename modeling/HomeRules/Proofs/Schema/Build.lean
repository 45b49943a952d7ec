import HomeRules.Proofs.Dictionary
import HomeRules.Proofs.Faults
import HomeRules.Schema.Build

/-!
# What a build gives

A draft that can be built gives one entry for each of its bindings, in their order, and no
two entries are of one kind.
-/

set_option autoImplicit false

namespace HomeRules

/-! ## Action lists -/

private theorem normalizeItems_ones (depth : Nat) (actions : List Action) :
    ActionTree.normalizeItems depth (actions.map .one) = .ok actions := by
  induction actions with
  | nil => rw [List.map_nil, ActionTree.normalizeItems]
  | cons action rest previous =>
      rw [List.map_cons, ActionTree.normalizeItems, previous]
      rfl

theorem ActionTree.normalizeAt_ofList {depth : Nat} (within : depth ≤ maxDepth)
    (actions : List Action) : (ofList actions).normalizeAt depth = .ok actions := by
  unfold normalizeAt ofList
  rw [if_neg (Nat.not_lt.mpr within)]
  exact normalizeItems_ones depth actions

/-! ## Mappings of action lists -/

def BranchDraft.plain (branch : Condition × List Action) : Condition × BranchDraft :=
  (branch.1, .actions (.ofList branch.2))

theorem flattenBranches_plain (kind : EventKind) (branches : List (Condition × List Action)) :
    flattenBranches kind [] 0 (branches.map BranchDraft.plain) =
      .ok (branches.map fun branch => ⟨Condition.conjunction [branch.1], branch.2⟩) := by
  induction branches with
  | nil => simp [flattenBranches]
  | cons branch rest previous =>
      have normal := ActionTree.normalizeAt_ofList (Nat.zero_le maxDepth) branch.2
      rw [List.map_cons, BranchDraft.plain, flattenBranches, normal, previous]
      rfl

/-! ## Entries -/

/-- An entry that a binding of a draft can be built into. -/
structure DraftEntry.Builds (draft : DraftEntry) (entry : SchemaEntry) : Prop where
  kind : EventKind.parse draft.key = .ok entry.kind
  body : draft.body.build entry.kind = .ok entry.body
  mode : entry.mode = draft.mode

theorem buildEntries_builds {seen : List EventKind} {draft : EventDraft}
    {entries : List SchemaEntry} (built : buildEntries seen draft = .ok entries) :
    List.Forall₂ DraftEntry.Builds draft entries ∧ (entries.map (·.kind)).Nodup ∧
      ∀ entry ∈ entries, entry.kind ∉ seen := by
  induction draft generalizing seen entries with
  | nil =>
      cases built
      exact ⟨.nil, List.nodup_nil, fun _ member => absurd member List.not_mem_nil⟩
  | cons binding rest previous =>
      rw [buildEntries] at built
      split at built
      case h_1 => cases built
      case h_2 kind parsed =>
        split at built
        case isTrue => cases built
        case isFalse new =>
          obtain ⟨body, bodyBuilt, built⟩ := ok_of_bind built
          obtain ⟨others, othersBuilt, built⟩ := ok_of_bind built
          cases built
          obtain ⟨builds, distinct, fresh⟩ := previous othersBuilt
          refine ⟨.cons ⟨parsed, bodyBuilt, rfl⟩ builds, ?_, ?_⟩
          · refine List.nodup_cons.mpr ⟨fun again => ?_, distinct⟩
            obtain ⟨entry, member, same⟩ := List.mem_map.mp again
            exact fresh entry member (same ▸ List.mem_cons_self)
          · intro entry member
            rcases List.mem_cons.mp member with rfl | later
            · simpa using new
            · exact fun old => fresh entry later (List.mem_cons_of_mem _ old)

def DraftEntry.kind? (binding : DraftEntry) : Option EventKind :=
  (EventKind.parse binding.key).toOption

theorem DraftEntry.Builds.kind?_eq {binding : DraftEntry} {entry : SchemaEntry}
    (builds : binding.Builds entry) : binding.kind? = some entry.kind := by
  rw [DraftEntry.kind?, builds.kind, Except.toOption]

/-- A draft that is built gives an entry for each binding, and their kinds differ. -/
theorem EventDraft.build_builds {draft : EventDraft} {schema : EventSchema}
    (built : draft.build = .ok schema) :
    List.Forall₂ DraftEntry.Builds draft schema.entries ∧ schema.kinds.Nodup := by
  obtain ⟨entries, entriesBuilt, built⟩ := ok_of_bind built
  cases built
  obtain ⟨builds, distinct, _⟩ := buildEntries_builds entriesBuilt
  exact ⟨builds, distinct⟩

theorem EventDraft.kinds_nodup {draft : EventDraft} {schema : EventSchema}
    (built : draft.build = .ok schema) : (draft.map DraftEntry.kind?).Nodup := by
  obtain ⟨builds, distinct⟩ := build_builds built
  have kinds : draft.map DraftEntry.kind? = schema.kinds.map some := by
    rw [EventSchema.kinds, List.map_map, ← List.forall₂_eq_eq_eq, List.forall₂_map_left_iff,
      List.forall₂_map_right_iff]
    exact builds.imp fun _ _ builds => builds.kind?_eq
  rw [kinds]
  exact List.Nodup.map (fun _ _ => Option.some.inj) distinct

/-- The entry of a schema for a kind is what the binding of that kind is built into. -/
theorem EventDraft.entry?_builds {draft : EventDraft} {schema : EventSchema}
    (built : draft.build = .ok schema) (kind : EventKind) :
    Option.Rel DraftEntry.Builds (draft.find? (·.kind? == some kind)) (schema.entry? kind) := by
  have builds := (build_builds built).1
  unfold EventSchema.entry?
  generalize schema.entries = entries at builds
  clear built
  induction builds with
  | nil => exact .none
  | @cons binding entry _ _ builds _ previous =>
      rw [List.find?_cons, List.find?_cons, builds.kind?_eq, Option.some_beq_some]
      by_cases same : entry.kind = kind
      · simp only [same, beq_self_eq_true, decide_true]
        exact .some builds
      · simp only [same, beq_eq_false_iff_ne.mpr same, decide_false]
        exact previous

/-- Where kinds differ, an entry is the one for its kind. -/
theorem EventSchema.entry?_of_mem {schema : EventSchema} (distinct : schema.kinds.Nodup)
    {entry : SchemaEntry} (member : entry ∈ schema.entries) :
    schema.entry? entry.kind = some entry := by
  rw [EventSchema.entry?]
  exact find?_key distinct member

/-- Each binding of a draft is built into the entry that the schema has for its kind. -/
theorem EventDraft.entry_of_mem {draft : EventDraft} {schema : EventSchema}
    (built : draft.build = .ok schema) {binding : DraftEntry} (bound : binding ∈ draft) :
    ∃ entry, schema.entry? entry.kind = some entry ∧ binding.Builds entry := by
  obtain ⟨builds, distinct⟩ := build_builds built
  clear built
  obtain ⟨entry, member, built⟩ : ∃ entry ∈ schema.entries, binding.Builds entry := by
    generalize schema.entries = entries at builds
    induction builds with
    | nil => cases bound
    | cons first _ previous =>
        rcases List.mem_cons.mp bound with rfl | later
        · exact ⟨_, List.mem_cons_self, first⟩
        · obtain ⟨entry, member, built⟩ := previous later
          exact ⟨entry, List.mem_cons_of_mem _ member, built⟩
  exact ⟨entry, EventSchema.entry?_of_mem distinct member, built⟩

end HomeRules
