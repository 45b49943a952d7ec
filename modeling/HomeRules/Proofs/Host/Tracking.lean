import HomeRules.Proofs.Host.Runs

/-!
# Numbers of tasks

A task is known by its number, which is given out once: whoever is no longer tracked under
it never is again, and nobody else takes it. The owner of a task does not change either. The
timers of the managers are tasks without an owner.
-/

set_option autoImplicit false

namespace HomeRules

/-! ## What can become of the tracked tasks -/

namespace Supervisor

/-- One thing that can happen to the tracked tasks. -/
inductive Moves (supervisor : Supervisor) : Supervisor → Prop where
  | rest : Moves supervisor supervisor
  | add (name : String) (generation : Generation) (owner : Option String) (work : Work) :
      Moves supervisor (supervisor.add name generation owner work).1
  | advance (id : TaskId) (progress : Progress) : Moves supervisor (supervisor.advance id progress)
  | drop (keep : Task → Bool) :
      Moves supervisor { supervisor with tasks := supervisor.tasks.filter keep }

/-- Every tracked task has a number of its own, which was given out. -/
structure Numbered (supervisor : Supervisor) : Prop where
  distinct : (supervisor.tasks.map (·.id)).Nodup
  below : ∀ task ∈ supervisor.tasks, task.id < supervisor.nextId

/-- A number was given out, and a task that is still tracked under it has such an owner. -/
structure Issued (supervisor : Supervisor) (id : TaskId) (owned : Option String → Prop) :
    Prop where
  below : id < supervisor.nextId
  owned : ∀ task ∈ supervisor.tasks, task.id = id → owned task.owner

variable {supervisor next : Supervisor}

theorem add_tasks (supervisor : Supervisor) (name : String) (generation : Generation)
    (owner : Option String) (work : Work) :
    (supervisor.add name generation owner work).1.tasks =
      supervisor.tasks.filter (!·.progress.isOver) ++
        [{ id := supervisor.nextId, name, generation, owner, work }] := rfl

private theorem advance_ids (supervisor : Supervisor) (id : TaskId) (progress : Progress) :
    (supervisor.advance id progress).tasks.map (·.id) = supervisor.tasks.map (·.id) := by
  rw [advance, List.map_map]
  refine List.map_congr_left fun task _ => ?_
  rw [Function.comp_apply]
  split <;> rfl

theorem moves_cancelAll (supervisor : Supervisor) : supervisor.Moves supervisor.cancelAll.1 := by
  rw [cancelAll, ← List.filter_false supervisor.tasks]
  exact .drop _

theorem Moves.numbered (moves : supervisor.Moves next) (numbered : supervisor.Numbered) :
    next.Numbered := by
  cases moves with
  | rest => exact numbered
  | add name generation owner work =>
      constructor
      · rw [add_tasks, List.map_append, List.nodup_append]
        refine ⟨numbered.distinct.sublist (List.filter_sublist.map _), by simp, ?_⟩
        intro id old other new
        obtain ⟨task, member, rfl⟩ := List.mem_map.mp old
        rw [List.mem_singleton.mp new]
        exact Nat.ne_of_lt (numbered.below task (List.mem_of_mem_filter member))
      · intro task member
        rcases List.mem_append.mp member with old | new
        · exact Nat.lt_succ_of_lt (numbered.below task (List.mem_of_mem_filter old))
        · rw [List.mem_singleton.mp new]
          exact Nat.lt_succ_self _
  | advance id progress =>
      have ids := advance_ids supervisor id progress
      constructor
      · rw [ids]
        exact numbered.distinct
      · intro task member
        have tracked : task.id ∈ supervisor.tasks.map (·.id) :=
          ids ▸ List.mem_map_of_mem member
        obtain ⟨old, present, same⟩ := List.mem_map.mp tracked
        rw [← same]
        exact numbered.below old present
  | drop keep =>
      constructor
      · exact numbered.distinct.sublist (List.filter_sublist.map _)
      · exact fun task member => numbered.below task (List.mem_of_mem_filter member)

theorem Moves.issued (moves : supervisor.Moves next) {id : TaskId}
    {owned : Option String → Prop} (issued : supervisor.Issued id owned) :
    next.Issued id owned := by
  cases moves with
  | rest => exact issued
  | add name generation owner work =>
      constructor
      · exact Nat.lt_succ_of_lt issued.below
      · intro task member same
        rcases List.mem_append.mp member with old | new
        · exact issued.owned task (List.mem_of_mem_filter old) same
        · rw [List.mem_singleton.mp new] at same
          exact absurd same (Nat.ne_of_gt issued.below)
  | advance other progress =>
      constructor
      · exact issued.below
      · intro task member same
        obtain ⟨old, present, rfl⟩ := List.mem_map.mp member
        have owner := issued.owned old present
        split at same <;> simp_all
  | drop keep =>
      constructor
      · exact issued.below
      · exact fun task member => issued.owned task (List.mem_of_mem_filter member)

theorem Moves.nextId_le (moves : supervisor.Moves next) : supervisor.nextId ≤ next.nextId := by
  cases moves with
  | add name generation owner work => exact Nat.le_succ _
  | _ => exact Nat.le_refl _

theorem Issued.task?_eq_none {id : TaskId} (gone : supervisor.Issued id fun _ => False) :
    supervisor.task? id = none := by
  rw [task?, List.find?_eq_none]
  exact fun task member same => gone.owned task member (by simpa using same)

theorem unfinished_split (tasks : List Task) (keep : Task → Bool) :
    unfinished tasks = unfinished (tasks.filter (!keep ·)) + unfinished (tasks.filter keep) := by
  simp only [unfinished]
  rw [List.filter_comm _ keep, List.filter_comm _ (!keep ·), Nat.add_comm]
  exact List.length_eq_length_filter_add keep

/-- At most one tracked task has a number. -/
theorem Numbered.filter_id (numbered : supervisor.Numbered) (id : TaskId) :
    supervisor.tasks.filter (·.id = id) = (supervisor.task? id).toList := by
  have distinct := numbered.distinct
  unfold task?
  generalize supervisor.tasks = tasks at distinct ⊢
  induction tasks with
  | nil => rfl
  | cons task rest previous =>
      rw [List.map_cons, List.nodup_cons] at distinct
      by_cases same : task.id = id
      · have others : rest.filter (·.id = id) = [] := by
          refine List.filter_eq_nil_iff.mpr fun other member equal => distinct.1 ?_
          rw [same, ← of_decide_eq_true equal]
          exact List.mem_map_of_mem member
        simp [same, others]
      · simp [same, previous distinct.2]

end Supervisor

namespace Host

/-! ## What a stir does to tasks and deeds -/

private theorem spawn_moves (name : String) (generation : Generation) (owner : Option String)
    (work : Work) (host : Host) :
    host.supervisor.Moves (after (spawn name generation owner work) host).supervisor := by
  simp only [spawn, after_get_bind]
  split
  · exact .add name generation owner work
  · exact .rest

theorem Stir.moves {cycling : Bool} {host next : Host} (stir : Stir cycling host next) :
    host.supervisor.Moves next.supervisor := by
  cases stir with
  | quiet same =>
      rw [show next.supervisor = host.supervisor from congrArg Core.supervisor same]
      exact .rest
  | spawn name generation owner work => exact spawn_moves name generation owner work host
  | progress id point => exact .advance id point
  | cancelTask id => exact .drop _
  | cancelOwner owner => exact .drop _
  | dropTasks => exact host.supervisor.moves_cancelAll
  | _ => exact .rest

/-- A stir records at most one deed, and control is given to tracked tasks only. -/
theorem Stir.deeds {cycling : Bool} {host next : Host} (stir : Stir cycling host next) :
    ∃ since, next.deeds = since ++ host.deeds ∧ ∀ generation id,
      Deed.resumed generation id ∈ since → ∃ task ∈ host.supervisor.tasks, task.id = id := by
  cases stir with
  | quiet same => exact ⟨[], congrArg Core.deeds same, by simp⟩
  | start deed current =>
      refine ⟨[deed], rfl, fun generation id member => ?_⟩
      rw [← List.mem_singleton.mp member] at current
      cases current
  | resume task tracked =>
      refine ⟨[.resumed task.generation task.id], rfl, fun generation id member => ?_⟩
      cases List.mem_singleton.mp member
      exact ⟨task, tracked, rfl⟩
  | spawn name generation owner work =>
      simp only [Host.spawn, after_get_bind]
      split
      · exact ⟨[_], rfl, by simp⟩
      · exact ⟨[], rfl, by simp⟩
  | advance inside => exact ⟨[_], rfl, by simp⟩
  | halt inside stopped => exact ⟨[_], rfl, by simp⟩
  | _ => exact ⟨[], rfl, by simp⟩

/-- Deeds are only added. -/
theorem Reaches.deeds {cycling : Bool} {start host : Host} (path : Reaches cycling start host) :
    ∃ since, host.deeds = since ++ start.deeds := by
  refine path.stirred (fun later => ∃ since, later.deeds = since ++ start.deeds)
    (fun earlier later stir before => ?_) ⟨[], rfl⟩
  obtain ⟨since, before⟩ := before
  obtain ⟨new, recorded, _⟩ := stir.deeds
  exact ⟨new ++ since, by rw [recorded, before, List.append_assoc]⟩

/-! ## Reachable hosts -/

/-- A host becomes another in the course of a run: by changes, and by files that are
written. -/
abbrev Evolves : Host → Host → Prop :=
  Relation.ReflTransGen fun host next => Change true host next ∨ ∃ tree, next = { host with tree }

theorem Reaches.evolves {cycling : Bool} {host next : Host} (path : Reaches cycling host next) :
    host.Evolves next := by
  have wide : Reaches true host next := by
    cases cycling with
    | false => exact Reaches.widen path
    | true => exact path
  exact Relation.ReflTransGen.mono (fun _ _ => .inl) _ _ wide

theorem run_evolves (operations : List Operation) (host : Host) :
    host.Evolves (after (run operations) host) :=
  run_keeps (host.Evolves ·) (fun _ _ path evolves => evolves.trans path.evolves)
    (fun _ tree evolves => evolves.tail (.inr ⟨tree, rfl⟩)) operations host .refl

/-- What every stir keeps holds in the course of a run, if files do not matter to it. -/
theorem Evolves.stirred (fact : Host → Prop)
    (kept : ∀ host next, Stir true host next → fact host → fact next)
    (written : ∀ host tree, fact host → fact { host with tree })
    {host next : Host} (path : host.Evolves next) (holds : fact host) : fact next := by
  induction path with
  | refl => exact holds
  | tail _ step previous =>
      rcases step with change | ⟨tree, rfl⟩
      · exact Reaches.stirred fact kept (.single change) previous
      · exact written _ tree previous

theorem Evolves.issued {host next : Host} (path : host.Evolves next) {id : TaskId}
    {owned : Option String → Prop} (issued : host.supervisor.Issued id owned) :
    next.supervisor.Issued id owned :=
  path.stirred (·.supervisor.Issued id owned) (fun _ _ stir => stir.moves.issued)
    (fun _ _ issued => issued) issued

theorem Evolves.nextId_le {host next : Host} (path : host.Evolves next) :
    host.supervisor.nextId ≤ next.supervisor.nextId :=
  path.stirred (host.supervisor.nextId ≤ ·.supervisor.nextId)
    (fun _ _ stir before => Nat.le_trans before stir.moves.nextId_le) (fun _ _ before => before)
    (Nat.le_refl _)

/-- A task that is not tracked any more is never given control again. -/
theorem Evolves.idle {host next : Host} (path : host.Evolves next) {id : TaskId}
    (gone : host.supervisor.Issued id fun _ => False) :
    ∃ since, next.deeds = since ++ host.deeds ∧ ∀ generation, .resumed generation id ∉ since := by
  let fact (later : Host) : Prop := later.supervisor.Issued id (fun _ => False) ∧
    ∃ since, later.deeds = since ++ host.deeds ∧ ∀ generation, .resumed generation id ∉ since
  have holds : fact next := by
    refine path.stirred fact (fun earlier later stir holds => ?_) (fun _ _ holds => holds)
      ⟨gone, [], rfl, by simp⟩
    obtain ⟨gone, since, deeds, idle⟩ := holds
    obtain ⟨new, recorded, tracked⟩ := stir.deeds
    refine ⟨stir.moves.issued gone, new ++ since, ?_, fun generation member => ?_⟩
    · rw [recorded, deeds, List.append_assoc]
    · rcases List.mem_append.mp member with now | before
      · obtain ⟨task, present, same⟩ := tracked generation id now
        exact gone.owned task present same
      · exact idle generation before
  exact holds.2

end Host

end HomeRules
