import HomeRules.Proofs.Host.Dispatch
import HomeRules.Proofs.Schema.Build
import HomeRules.Proofs.Schema.Reading

/-!
# What asking for the first match does

A mapping that asks for its first match lets one of its leaves act at most, the first whose
conditions all hold, no matter when it asks and what is appended to it. The request is one of
the whole entry: a mapping that asks for it and is then nested in another one is built as if it
had not, and all of its leaves that hold act.
-/

set_option autoImplicit false

namespace HomeRules

namespace ConditionDraft

def inclusive : ConditionDraft → ConditionDraft
  | .unconditional tree => .unconditional tree
  | .conditional branches _ => .conditional branches false

theorem inclusive_push (draft : ConditionDraft) (condition : Condition) (branch : BranchDraft) :
    (draft.push condition branch).inclusive = draft.inclusive.push condition branch := by
  cases draft <;> rfl

theorem inclusive_firstMatch (draft : ConditionDraft) :
    draft.firstMatch.inclusive = draft.inclusive := by
  cases draft <;> rfl

theorem inclusive_whenNested (draft : ConditionDraft) (condition : Condition)
    (nested : ConditionDraft) :
    (draft.whenNested condition nested).inclusive =
      draft.inclusive.whenNested condition nested := by
  cases nested <;> exact inclusive_push _ _ _

theorem whenNested_inclusive (draft : ConditionDraft) (condition : Condition)
    (nested : ConditionDraft) :
    draft.whenNested condition nested.inclusive = draft.whenNested condition nested := by
  cases nested <;> rfl

end ConditionDraft

namespace Composition

/-- What was written, without any request for a first match. -/
def unasked : Composition → Composition
  | .unconditional tree => .unconditional tree
  | .conditions => .conditions
  | .when start condition tree => .when start.unasked condition tree
  | .whenNested start condition nested => .whenNested start.unasked condition nested.unasked
  | .firstMatch start => start.unasked

/-- What was written, without the requests for a first match in nested mappings. -/
def unaskedInside : Composition → Composition
  | .unconditional tree => .unconditional tree
  | .conditions => .conditions
  | .when start condition tree => .when start.unaskedInside condition tree
  | .whenNested start condition nested =>
    .whenNested start.unaskedInside condition nested.unasked
  | .firstMatch start => .firstMatch start.unaskedInside

theorem draft_unasked (written : Composition) :
    written.unasked.draft = written.draft.inclusive := by
  -- What is nested goes in without its request, so it does not matter that both sides differ there.
  induction written with
  | unconditional tree => rfl
  | conditions => rfl
  | when start condition tree started =>
      rw [unasked, draft, draft, started]
      exact (ConditionDraft.inclusive_push _ _ _).symm
  | whenNested start condition nested started inner =>
      rw [unasked, draft, draft, started, inner, ConditionDraft.whenNested_inclusive,
        ConditionDraft.inclusive_whenNested]
  | firstMatch start started =>
      rw [unasked, draft, started, ConditionDraft.inclusive_firstMatch]

/-- What nested mappings ask for is not part of the draft. -/
theorem draft_unaskedInside (written : Composition) :
    written.unaskedInside.draft = written.draft := by
  induction written with
  | unconditional tree => rfl
  | conditions => rfl
  | when start condition tree started => rw [unaskedInside, draft, draft, started]
  | whenNested start condition nested started _ =>
      rw [unaskedInside, draft, draft, started, draft_unasked,
        ConditionDraft.whenNested_inclusive]
  | firstMatch start started => rw [unaskedInside, draft, draft, started]

/-- The leaves that act: all that hold, or of a mapping that asks for it the first. -/
def acting (holds : Leaf → Bool) (written : Composition) : List Leaf :=
  if written.exclusive then (written.leaves.find? holds).toList else written.leaves.filter holds

theorem due_eq (answers : Answers) (written : Composition) :
    written.due answers = (written.acting (·.holds answers)).map (·.tree.actions) := by
  rw [due, acting]
  split
  · rw [List.take_one, List.head?_filter]
  · rfl

/-- The leaf actions due for an entry that was built are those of the leaves that act. -/
theorem dueLeaves_eq {written : Composition} {kind : EventKind} {body : ConditionSchema}
    (built : written.draft.build kind = .ok body) (host : Host) (occasion : Occasion) :
    host.dueLeaves occasion body = Action.leavesOf
      ((written.acting (·.holds fun probe => probe.sensor.read host.world occasion.payload)).flatMap
        (·.tree.actions)) := by
  have reports := written.build_reports (Answers.faithful_read host.world occasion.payload) kind
  rw [built] at reports
  obtain ⟨-, selects⟩ := reports
  rw [ConditionSchema.selected_eq, due_eq] at selects
  rw [Host.dueLeaves, List.flatMap_def, ← selects]
  rfl

end Composition

/-- A dispatch in its generation visits the actions of the leaves that act, in their order. It
would do the same if nested mappings had not asked for their first match. -/
theorem Binding.first_match_acts {bindings : List Binding} {schema : EventSchema}
    (built : EventDraft.build (bindings.map Binding.draft) = .ok schema) {binding : Binding}
    (bound : binding ∈ bindings) (owner : Option String) (publish : Publisher)
    (payload : Payload) (host : Host) :
    let occasion : Occasion := { generation := host.generation, owner, payload }
    let holds (leaf : Leaf) : Bool :=
      leaf.holds fun probe => probe.sensor.read host.world payload
    binding.body.unaskedInside.draft = binding.body.draft ∧
    ∃ kind, EventKind.parse binding.key = .ok kind ∧
      let ready := Host.readyDispatch occasion { schema with owner } kind
      Host.ran (Host.dispatch publish host.generation { schema with owner } kind payload) host =
        Host.ran ((Action.leavesOf ((binding.body.acting holds).flatMap (·.tree.actions))).foldlM
            (Host.visitNext publish occasion) (Host.answer ready host))
          (Host.after ready host) := by
  intro occasion holds
  refine ⟨binding.body.draft_unaskedInside, ?_⟩
  obtain ⟨entry, found, builds⟩ := EventDraft.entry_of_mem built (List.mem_map_of_mem bound)
  refine ⟨entry.kind, builds.kind, ?_⟩
  have due : host.leavesDue occasion { schema with owner } entry.kind =
      Action.leavesOf ((binding.body.acting holds).flatMap (·.tree.actions)) := by
    have same : EventSchema.entry? { schema with owner } entry.kind = some entry := found
    rw [Host.leavesDue, same]
    exact Composition.dueLeaves_eq builds.body host occasion
  rw [← due]
  exact Host.ran_dispatch_ready publish { schema with owner } entry.kind payload host

def dark : Condition :=
  .flag "dark" "dark"

def duringTheNight : Host where
  world := { flags := [("dark", true)] }

/-- A hall that asks for its first match before it has a branch: at night a dim light for
whoever is awake, and otherwise a bright one. -/
def hall : Binding where
  key := "motion"
  body := (Composition.conditions.firstMatch.whenNested dark
    (Composition.conditions.when (.flag "awake" "awake") (.one (.call "dim" [])))).when
      dark (.one (.call "bright" []))
  mode := .parallel

def hallRules : EventSchema where
  entries := [{
    kind := .bus "motion"
    body := .conditional [
      ⟨.conjunction [dark, .flag "awake" "awake"], [.call "dim" []]⟩,
      ⟨dark, [.call "bright" []]⟩] true
    mode := .parallel }]

theorem hall_built : EventDraft.build ([hall].map Binding.draft) = .ok hallRules := by cbv

/-- A night in which nobody is awake makes the hall bright. -/
theorem Binding.first_match_acts_hall :
    ∃ kind, EventKind.parse hall.key = .ok kind ∧
      Host.ran (Host.dispatch (Host.publishWithin 1) 0 hallRules kind (.bus [])) duringTheNight =
        (.ok { matched := 1, executed := 1 },
          { duringTheNight with deeds := [.called 0 "bright", .asked 0, .asked 0] }) := by
  have bound : hall ∈ [hall] := List.mem_cons_self
  obtain ⟨_, kind, parsed, visits⟩ := Binding.first_match_acts hall_built bound none
    (Host.publishWithin 1) (.bus []) duringTheNight
  have motion : EventKind.parse hall.key = .ok (.bus "motion") := by cbv
  cases parsed.symm.trans motion
  refine ⟨_, motion, visits.trans ?_⟩
  rfl

def porchLights : Composition :=
  ((Composition.conditions.when dark (.one (.call "lamp" []))).when dark
    (.one (.call "lantern" []))).firstMatch

def porch : Binding where
  key := "motion"
  body := Composition.conditions.whenNested dark porchLights
  mode := .parallel

def porchRules : EventSchema where
  entries := [{
    kind := .bus "motion"
    body := .conditional [
      ⟨.conjunction [dark, dark], [.call "lamp" []]⟩,
      ⟨.conjunction [dark, dark], [.call "lantern" []]⟩] false
    mode := .parallel }]

/-- Both lights of the porch are switched on, although the mapping that they are branches of
asked for its first match. -/
theorem nested_first_match_lost :
    porchLights.exclusive = true ∧
    EventDraft.build [porch.draft] = .ok porchRules ∧
    Host.ran (Host.dispatch (Host.publishWithin 1) 0 porchRules (.bus "motion") (.bus []))
        duringTheNight =
      (.ok { matched := 2, executed := 2 },
        { duringTheNight with
          deeds := [.called 0 "lantern", .called 0 "lamp", .asked 0, .asked 0] }) := by
  refine ⟨rfl, ?_, ?_⟩
  · cbv
  · rfl

end HomeRules
