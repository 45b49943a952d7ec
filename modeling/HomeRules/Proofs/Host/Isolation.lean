import HomeRules.Proofs.Host.Runs

/-!
# Generations are isolated

Once the counter of generations has moved on, nothing is started any more under a
generation that it has left, and once a cycle has stopped what was there, no task of
such a generation is given control again. The order of the deeds of a host says so
for the whole of a run; an invariant that every stir keeps carries it.
-/

set_option autoImplicit false

namespace HomeRules

/-- A deed does not come too late after an earlier one: what it starts belongs to no
generation that the counter had left, and the task it gives control to belongs to none
that had been stopped. -/
def Deed.Timely (later earlier : Deed) : Prop :=
  (∀ current generation, earlier = .advanced current → later.started? = some generation →
    current ≤ generation) ∧
  (∀ current generation task, earlier = .halted current → later = .resumed generation task →
    current ≤ generation)

namespace Host

/-- What the deeds so far promise about the deeds to come. -/
structure Sealed (host : Host) : Prop where
  timely : host.deeds.Pairwise Deed.Timely
  advanced : ∀ current, .advanced current ∈ host.deeds → current ≤ host.generation
  halted : ∀ current, .halted current ∈ host.deeds → current ≤ host.generation
  cleared : ∀ current, .halted current ∈ host.deeds →
    ∀ task ∈ host.supervisor.tasks, current ≤ task.generation

namespace Sealed

variable {host : Host}

/-- A deed of the present may be recorded when no task changes. -/
theorem mark (holds : host.Sealed) {deed : Deed}
    (started : ∀ generation, deed.started? = some generation → host.generation ≤ generation)
    (resumed : ∀ generation task, deed = .resumed generation task →
      ∃ task ∈ host.supervisor.tasks, task.generation = generation)
    (advanced : ∀ current, deed = .advanced current → current ≤ host.generation)
    (halted : ∀ current, deed = .halted current →
      current ≤ host.generation ∧ host.supervisor.tasks = []) :
    (after (Host.mark deed) host).Sealed := by
  refine ⟨List.pairwise_cons.mpr ⟨fun earlier member => ⟨?_, ?_⟩, holds.timely⟩, ?_, ?_, ?_⟩
  · rintro current generation rfl start
    exact Nat.le_trans (holds.advanced current member) (started generation start)
  · rintro current generation id rfl given
    obtain ⟨task, tracked, rfl⟩ := resumed generation id given
    exact holds.cleared current member task tracked
  · intro current member
    rcases List.mem_cons.mp member with same | earlier
    · exact advanced current same.symm
    · exact holds.advanced current earlier
  · intro current member
    rcases List.mem_cons.mp member with same | earlier
    · exact (halted current same.symm).1
    · exact holds.halted current earlier
  · intro current member task tracked
    rcases List.mem_cons.mp member with same | earlier
    · rw [show (after (Host.mark deed) host).supervisor.tasks = [] from
        (halted current same.symm).2] at tracked
      cases tracked
    · exact holds.cleared current earlier task tracked

/-- Something may be started under the current generation. -/
theorem start (holds : host.Sealed) {deed : Deed}
    (current : deed.started? = some host.generation) : (after (Host.mark deed) host).Sealed := by
  refine holds.mark ?_ ?_ ?_ ?_
  · intro generation start
    rw [current] at start
    exact Nat.le_of_eq (Option.some.inj start)
  · rintro generation task rfl
    cases current
  · rintro now rfl
    cases current
  · rintro now rfl
    cases current

/-- Tasks may go, and new ones may come under the current generation. -/
theorem track (holds : host.Sealed) {next : Host} (deeds : next.deeds = host.deeds)
    (generation : next.generation = host.generation)
    (tasks : ∀ task ∈ next.supervisor.tasks, task.generation = host.generation ∨
      ∃ old ∈ host.supervisor.tasks, old.generation = task.generation) : next.Sealed := by
  refine ⟨deeds ▸ holds.timely, ?_, ?_, ?_⟩
  · rw [deeds, generation]
    exact holds.advanced
  · rw [deeds, generation]
    exact holds.halted
  · rw [deeds]
    intro current member task tracked
    rcases tasks task tracked with fresh | ⟨old, present, same⟩
    · rw [fresh]
      exact holds.halted current member
    · rw [← same]
      exact holds.cleared current member old present

end Sealed

theorem Stir.sealed {host next : Host} (stir : Stir true host next) (holds : host.Sealed) :
    next.Sealed := by
  have kept (task : Task) (member : task ∈ host.supervisor.tasks) :
      task.generation = host.generation ∨
        ∃ old ∈ host.supervisor.tasks, old.generation = task.generation :=
    .inr ⟨task, member, rfl⟩
  cases stir with
  | quiet same =>
      have supervisor : next.supervisor = host.supervisor := congrArg Core.supervisor same
      refine holds.track (congrArg Core.deeds same) (congrArg Core.generation same) ?_
      rw [supervisor]
      exact kept
  | start deed current => exact holds.start current
  | resume task tracked =>
      refine holds.mark ?_ ?_ ?_ ?_
      · rintro _ ⟨⟩
      · rintro generation id ⟨⟩
        exact ⟨task, tracked, rfl⟩
      · rintro _ ⟨⟩
      · rintro _ ⟨⟩
  | spawn name generation owner work =>
      simp only [Host.spawn, after_get_bind]
      split
      case isFalse => exact holds
      case isTrue current =>
        have tracked : Sealed { host with
            supervisor := (host.supervisor.add name generation owner work).1 } := by
          refine holds.track rfl rfl fun task member => ?_
          rcases List.mem_append.mp member with old | new
          · exact kept task (List.mem_of_mem_filter old)
          · rw [List.mem_singleton.mp new]
            exact .inl current.symm
        have now : (Deed.accepted generation host.supervisor.nextId).started? =
          some host.generation := congrArg some current.symm
        exact (tracked.start now).track rfl rfl fun task member => .inr ⟨task, member, rfl⟩
  | progress id point =>
      refine holds.track rfl rfl fun task member => ?_
      obtain ⟨old, present, rfl⟩ := List.mem_map.mp member
      refine .inr ⟨old, present, ?_⟩
      split <;> rfl
  | cancelTask id =>
      exact holds.track rfl rfl fun task member => kept task (List.mem_of_mem_filter member)
  | cancelOwner owner =>
      exact holds.track rfl rfl fun task member => kept task (List.mem_of_mem_filter member)
  | dropTasks =>
      exact holds.track rfl rfl fun task member => absurd member List.not_mem_nil
  | advance inside =>
      have moved : Sealed { host with generation := host.generation + 1 } :=
        ⟨holds.timely, fun now member => Nat.le_succ_of_le (holds.advanced now member),
          fun now member => Nat.le_succ_of_le (holds.halted now member), holds.cleared⟩
      refine moved.mark ?_ ?_ ?_ ?_
      · rintro _ ⟨⟩
      · rintro _ _ ⟨⟩
      · rintro now ⟨⟩
        exact Nat.le_refl _
      · rintro _ ⟨⟩
  | halt inside stopped =>
      refine holds.mark ?_ ?_ ?_ ?_
      · rintro _ ⟨⟩
      · rintro _ _ ⟨⟩
      · rintro _ ⟨⟩
      · rintro current ⟨⟩
        exact ⟨Nat.le_refl _, stopped⟩

theorem Reaches.sealed {host next : Host} (path : Reaches true host next)
    (holds : host.Sealed) : next.Sealed :=
  path.stirred Sealed (fun _ _ stir => stir.sealed) holds

/-! ## What is left of a generation -/

/-- Whoever still holds something of a generation can start nothing with it. -/
structure Inert (host : Host) (generation : Generation) : Prop where
  dispatch : ∀ publish schema kind payload, ∃ outcome,
    ran (dispatch publish generation schema kind payload) host = (.ok outcome, host)
  evaluate : ∀ publish body payload,
    ran (evaluate publish generation body payload) host = (.ok { stale := true }, host)
  delivery : ∀ publish delivery payload, delivery.generation = generation →
    ran (dispatchInside publish delivery payload) host = (.ok (), host)
  waking : ∀ task actions payload, task.generation = generation →
    after (finishDelayed task actions payload) host = after (progress task.id .ended) host
  spawn : ∀ name owner work, (spawn name generation owner work).run host = (none, host)

theorem runEntry_stale {host : Host} {occasion : Occasion}
    (stale : host.generation ≠ occasion.generation) (publish : Publisher) (restart : Bool)
    (body : ConditionSchema) :
    ran (runEntry publish occasion restart body) host = (.ok { stale := true }, host) := by
  rw [runEntry, ran_get_bind, if_pos stale, ran_pure]

theorem dispatch_stale {host : Host} {generation : Generation}
    (stale : host.generation ≠ generation) (publish : Publisher) (schema : EventSchema)
    (kind : EventKind) (payload : Payload) :
    ∃ outcome,
      ran (dispatch publish generation schema kind payload) host = (.ok outcome, host) := by
  unfold dispatch
  split
  · exact ⟨_, rfl⟩
  · exact ⟨_, runEntry_stale stale _ _ _⟩

/-- A dispatch that enters a gate and leaves it again has not changed the gate. -/
theorem leave_entered {gates : List Gate} {id : GateId} {entered : Gate}
    (admitted : (gates.getD id {}).enter? = some entered) :
    (gates.modify id fun _ => entered).modify id Gate.leave = gates := by
  have left : entered.leave = gates.getD id {} := by
    unfold Gate.enter? at admitted
    split at admitted
    · cases admitted
      rfl
    · cases admitted
  refine List.ext_getElem? fun index => ?_
  rw [List.getElem?_modify, List.getElem?_modify]
  by_cases same : id = index
  · subst same
    cases found : gates[id]? with
    | none => simp
    | some gate => simp [left, List.getD, found]
  · simp [same]

theorem dispatchInside_stale {host : Host} {delivery : Delivery}
    (stale : host.generation ≠ delivery.generation) (publish : Publisher) (payload : Payload) :
    ran (dispatchInside publish delivery payload) host = (.ok (), host) := by
  cases admitted : (host.gate delivery.gate).enter? with
  | none => exact ran_dispatchInside_refused admitted payload
  | some entered =>
      have entering : (after (changeGate delivery.gate fun _ => entered) host).generation ≠
        delivery.generation := stale
      obtain ⟨outcome, idle⟩ :=
        dispatch_stale entering publish delivery.schema delivery.kind payload
      have unmoved : { host with gates :=
          (host.gates.modify delivery.gate fun _ => entered).modify delivery.gate Gate.leave } =
            host := by
        rw [leave_entered admitted]
      rw [ran_dispatchInside_admitted admitted, idle]
      exact congrArg (Prod.mk _) unmoved

theorem inert_of_ne {host : Host} {generation : Generation} (left : host.generation ≠ generation) :
    host.Inert generation where
  dispatch := dispatch_stale left
  evaluate publish body payload := runEntry_stale left publish false body
  delivery publish delivery payload same := dispatchInside_stale (same ▸ left) publish payload
  waking task actions payload same := by
    subst same
    rw [finishDelayed, after_get_bind, if_neg left]
  spawn name owner work := by
    unfold Host.spawn
    change (if host.generation = generation then _ else
      pure none : Step (Option TaskHandle)).run host = _
    rw [if_neg left]
    rfl

/-! ## Whole runs -/

/-- A host that keeps generations apart, in what it did and in what it still can do. -/
structure Isolated (host : Host) : Prop where
  timely : host.deeds.Pairwise Deed.Timely
  retired : ∀ generation < host.generation, host.Inert generation
  cleared : ∀ current, .halted current ∈ host.deeds →
    ∀ task ∈ host.supervisor.tasks, current ≤ task.generation

end Host

end HomeRules
