import HomeRules.Proofs.Host.Chronicle

/-!
# Who is tracked

A task is live from when it was started until something ends it: its own end, a cancellation of
it, of its owner, or of everything. The tracked tasks that have not ended are exactly these, so
what the supervisor answers can be read off the chronicle.
-/

set_option autoImplicit false

namespace HomeRules

/-! ## Live tasks -/

/-- Whether a happening ends a live task of a number and an owner. -/
def Happening.Ends (id : TaskId) (owner : Option String) : Happening → Prop
  | .finished other => other = id
  | .cancelled other => other = id
  | .ownerCancelled other => owner = some other
  | .allCancelled => True
  | _ => False

def Happening.isSpawned : Happening → Bool
  | .spawned _ => true
  | _ => false

/-- How many tasks were started. -/
def started (history : List Happening) : Nat :=
  history.countP Happening.isSpawned

/-- A task was started, as the one of its number, and nothing has ended it since. -/
def Live (history : List Happening) (id : TaskId) (owner : Option String) : Prop :=
  ∃ before since, history = before ++ .spawned owner :: since ∧ id = started before ∧
    ∀ happening ∈ since, ¬happening.Ends id owner

theorem started_concat (history : List Happening) (happening : Happening) :
    started (history ++ [happening]) = started history + if happening.isSpawned then 1 else 0 := by
  rw [started, List.countP_append, List.countP_singleton]
  rfl

theorem live_concat {history : List Happening} {happening : Happening} {id : TaskId}
    {owner : Option String} :
    Live (history ++ [happening]) id owner ↔
      Live history id owner ∧ ¬happening.Ends id owner ∨
        happening = .spawned owner ∧ id = started history := by
  constructor
  · rintro ⟨before, since, split, numbered, spared⟩
    -- The last happening started the task, or it is among those that followed.
    rcases List.eq_nil_or_concat' since with rfl | ⟨earlier, last, rfl⟩
    · obtain ⟨rfl, same⟩ := List.append_inj' split rfl
      exact .inr ⟨List.singleton_inj.mp same, numbered⟩
    · rw [← List.cons_append, ← List.append_assoc] at split
      obtain ⟨rfl, same⟩ := List.append_inj' split rfl
      obtain rfl : happening = last := List.singleton_inj.mp same
      refine .inl ⟨⟨before, earlier, rfl, numbered, fun other member => ?_⟩, ?_⟩
      · exact spared other (List.mem_append_left _ member)
      · exact spared happening (List.mem_append_right _ (List.mem_singleton_self _))
  · rintro (⟨⟨before, since, rfl, numbered, spared⟩, spares⟩ | ⟨rfl, numbered⟩)
    · refine ⟨before, since ++ [happening], by simp, numbered, fun other member => ?_⟩
      rcases List.mem_append.mp member with old | new
      · exact spared other old
      · rw [List.mem_singleton.mp new]
        exact spares
    · exact ⟨history, [], rfl, numbered, fun _ member => absurd member List.not_mem_nil⟩

/-! ## Tracked tasks -/

namespace Supervisor

/-- A task of a number and an owner is tracked and has not ended. -/
def Tracks (supervisor : Supervisor) (id : TaskId) (owner : Option String) : Prop :=
  ∃ task ∈ supervisor.running, task.id = id ∧ task.owner = owner

variable {supervisor : Supervisor} {id : TaskId} {owner : Option String}

theorem tracks_add (name : String) (generation : Generation) (own : Option String) (work : Work) :
    (supervisor.add name generation own work).1.Tracks id owner ↔
      supervisor.Tracks id owner ∨ own = owner ∧ id = supervisor.nextId := by
  simp only [Tracks, running_add, List.mem_append, List.mem_singleton, or_and_right, exists_or,
    exists_eq_left]
  rw [and_comm, @eq_comm _ id]

theorem tracks_filter {keep : Task → Bool} {kept : Prop}
    (decides : ∀ task, task.id = id → task.owner = owner → (keep task = true ↔ kept)) :
    ({ supervisor with tasks := supervisor.tasks.filter keep } : Supervisor).Tracks id owner ↔
      supervisor.Tracks id owner ∧ kept := by
  simp only [Tracks, running_drop, List.mem_filter]
  constructor
  · rintro ⟨task, ⟨running, keeps⟩, number, own⟩
    exact ⟨⟨task, running, number, own⟩, (decides task number own).mp keeps⟩
  · rintro ⟨⟨task, running, number, own⟩, keeps⟩
    exact ⟨task, ⟨running, (decides task number own).mpr keeps⟩, number, own⟩

theorem mem_running {task : Task} :
    task ∈ supervisor.running ↔ task ∈ supervisor.tasks ∧ task.progress.isOver = false := by
  simp [running]

theorem Numbered.task? (numbered : supervisor.Numbered) {task : Task}
    (tracked : task ∈ supervisor.tasks) : supervisor.task? task.id = some task :=
  find?_key numbered.distinct tracked

theorem exists_tracks :
    (∃ owner, supervisor.Tracks id owner) ↔ ∃ task ∈ supervisor.running, task.id = id := by
  constructor
  · rintro ⟨owner, task, running, same, -⟩
    exact ⟨task, running, same⟩
  · rintro ⟨task, running, same⟩
    exact ⟨task.owner, task, running, same, rfl⟩

theorem Numbered.issued (numbered : supervisor.Numbered) (tracks : supervisor.Tracks id owner) :
    id < supervisor.nextId := by
  obtain ⟨task, running, rfl, -⟩ := tracks
  exact numbered.below task (mem_running.mp running).1

theorem Numbered.owner_eq (numbered : supervisor.Numbered) {other : Option String}
    (tracks : supervisor.Tracks id owner) (twin : supervisor.Tracks id other) : owner = other := by
  obtain ⟨task, running, rfl, rfl⟩ := tracks
  obtain ⟨second, present, same, rfl⟩ := twin
  rw [List.inj_on_of_nodup_map numbered.distinct (mem_running.mp present).1
    (mem_running.mp running).1 same]

/-- Progress changes neither the number nor the owner of a task, and ends it if it is an end. -/
theorem tracks_advance {other : TaskId} {point : Progress}
    (going : ∀ task ∈ supervisor.tasks, task.id = other → task.progress.isOver = false) :
    (supervisor.advance other point).Tracks id owner ↔
      supervisor.Tracks id owner ∧ ¬(point.isOver = true ∧ other = id) := by
  constructor
  · rintro ⟨task, running, rfl, rfl⟩
    obtain ⟨member, unfinished⟩ := mem_running.mp running
    obtain ⟨old, present, rfl⟩ := List.mem_map.mp member
    split at unfinished
    · case isTrue same =>
        rw [if_pos same]
        refine ⟨⟨old, mem_running.mpr ⟨present, going old present same⟩, rfl, rfl⟩, ?_⟩
        rintro ⟨ended, -⟩
        rw [ended] at unfinished
        cases unfinished
    · case isFalse apart =>
        rw [if_neg apart]
        refine ⟨⟨old, mem_running.mpr ⟨present, unfinished⟩, rfl, rfl⟩, ?_⟩
        exact fun ended => apart ended.2.symm
  · rintro ⟨⟨task, running, rfl, rfl⟩, goes⟩
    obtain ⟨present, unfinished⟩ := mem_running.mp running
    have member : (if task.id = other then { task with progress := point } else task) ∈
        (supervisor.advance other point).tasks := List.mem_map_of_mem present
    by_cases same : task.id = other
    · rw [if_pos same] at member
      refine ⟨_, mem_running.mpr ⟨member, ?_⟩, rfl, rfl⟩
      simpa [same] using goes
    · rw [if_neg same] at member
      exact ⟨task, mem_running.mpr ⟨member, unfinished⟩, rfl, rfl⟩

end Supervisor

namespace Host

section Happenings

variable {host next : Host} {happening : Happening} (happens : Happens host happening next)
include happens

/-- A happening starts one task under the next number, or it starts none. -/
theorem Happens.nextId :
    next.supervisor.nextId = host.supervisor.nextId + if happening.isSpawned then 1 else 0 := by
  cases happens with
  | aside tasks turns => rw [tasks]; rfl
  | spawn name owner work => rw [(spawn_current host name owner work rfl).2.1]; rfl
  | _ => rfl

theorem Happens.tracks {id : TaskId} {owner : Option String} :
    next.supervisor.Tracks id owner ↔
      host.supervisor.Tracks id owner ∧ ¬happening.Ends id owner ∨
        happening = .spawned owner ∧ id = host.supervisor.nextId := by
  cases happens with
  | aside tasks turns => simp [tasks, Happening.Ends]
  | spawn name own work =>
      rw [(spawn_current host name own work rfl).2.1, Supervisor.tracks_add]
      simp [Happening.Ends]
  | resume task running => simp [Happening.Ends, mark]
  | wait turn point going =>
      refine (Supervisor.tracks_advance turn.going).trans ?_
      simp [going, Happening.Ends]
  | finish turn point ended =>
      refine (Supervisor.tracks_advance turn.going).trans ?_
      simp [ended, Happening.Ends]
  | cancel other =>
      have spared (task : Task) (number : task.id = id) (_ : task.owner = owner) :
          decide (task.id ≠ other) = true ↔ ¬other = id := by
        rw [decide_eq_true_iff, number, ne_comm]
      refine (Supervisor.tracks_filter spared).trans ?_
      simp [Happening.Ends]
  | cancelOwner other =>
      have spared (task : Task) (_ : task.id = id) (own : task.owner = owner) :
          decide (task.owner ≠ some other) = true ↔ ¬owner = some other := by
        rw [decide_eq_true_iff, own]
      refine (Supervisor.tracks_filter spared).trans ?_
      simp [Happening.Ends]
  | cancelAll => simp [Supervisor.Tracks, Supervisor.running, Supervisor.cancelAll, Happening.Ends]

/-- Control is given to tracked tasks that have not ended. -/
theorem Happens.turns : ∃ since, next.turns = since ++ host.turns ∧
    ∀ id ∈ since, ∃ owner, host.supervisor.Tracks id owner := by
  cases happens with
  | aside tasks turns => exact ⟨[], turns, by simp⟩
  | spawn name owner work =>
      refine ⟨[], ?_, by simp⟩
      rw [Host.spawn, after_get_bind, if_pos rfl]
      rfl
  | resume task running =>
      refine ⟨[task.id], rfl, fun id member => ?_⟩
      rw [List.mem_singleton.mp member]
      exact ⟨task.owner, task, running, rfl, rfl⟩
  | _ => exact ⟨[], rfl, by simp⟩

end Happenings

/-! ## Along a chronicle -/

section Chronicles

variable {start host next : Host} {history later : List Happening} {id : TaskId}
  {owner : Option String}

theorem Chronicle.numbered (path : Chronicle start history host)
    (numbered : start.supervisor.Numbered) : host.supervisor.Numbered := by
  induction path with
  | start => exact numbered
  | next _ happens previous => exact happens.moves.numbered previous

/-- Of a host that has not started any task, the live tasks are the tracked ones. -/
theorem Chronicle.live (path : Chronicle start history host) (fresh : start.supervisor = {}) :
    host.supervisor.nextId = started history ∧
      ∀ id owner, Live history id owner ↔ host.supervisor.Tracks id owner := by
  induction path with
  | start =>
      rw [fresh]
      refine ⟨rfl, fun id owner => ⟨?_, ?_⟩⟩
      · rintro ⟨before, since, split, -⟩
        simp at split
      · rintro ⟨task, running, -⟩
        cases running
  | @next history happening host next _ happens previous =>
      obtain ⟨issued, live⟩ := previous
      constructor
      · rw [happens.nextId, started_concat, issued]
      · intro id owner
        rw [live_concat, happens.tracks, live, issued]

/-- A task whose number was given out is tracked for as long as nothing ends it. -/
theorem Chronicle.tracks (path : Chronicle host later next) (issued : id < host.supervisor.nextId) :
    id < next.supervisor.nextId ∧ (next.supervisor.Tracks id owner ↔
      host.supervisor.Tracks id owner ∧ ∀ happening ∈ later, ¬happening.Ends id owner) := by
  induction path with
  | start => simp [issued]
  | next _ happens previous =>
      obtain ⟨below, tracked⟩ := previous
      constructor
      · rw [happens.nextId]
        exact Nat.lt_add_right _ below
      · rw [happens.tracks, tracked]
        simp only [Nat.ne_of_lt below, and_false, or_false, List.mem_append, List.mem_singleton,
          or_imp, forall_and, forall_eq, and_assoc]

/-- Of the tasks whose numbers were given out before, only those are given control that were
tracked then and had not ended. -/
theorem Chronicle.turns (path : Chronicle host later next) :
    ∃ since, next.turns = since ++ host.turns ∧ ∀ id ∈ since, id < host.supervisor.nextId →
      ∃ owner, host.supervisor.Tracks id owner := by
  induction path with
  | start => exact ⟨[], rfl, fun _ member => absurd member List.not_mem_nil⟩
  | next before happens previous =>
      obtain ⟨since, given, tracked⟩ := previous
      obtain ⟨new, added, held⟩ := happens.turns
      refine ⟨new ++ since, by rw [added, given, List.append_assoc], fun id member issued => ?_⟩
      rcases List.mem_append.mp member with now | earlier
      · obtain ⟨owner, tracks⟩ := held id now
        exact ⟨owner, ((before.tracks issued).2.mp tracks).1⟩
      · exact tracked id earlier issued

end Chronicles

/-! ## Answers -/

section Answers

variable {host : Host} {id : TaskId}

theorem answer_cancelTask (numbered : host.supervisor.Numbered) :
    answer (cancelTask id) host = true ↔ ∃ owner, host.supervisor.Tracks id owner := by
  change (host.supervisor.task? id).any (!·.progress.isOver) = true ↔ _
  constructor
  · intro running
    cases found : host.supervisor.task? id with
    | none =>
        rw [found] at running
        cases running
    | some task =>
        rw [found] at running
        obtain ⟨tracked, same⟩ := Supervisor.of_task? found
        have going : task.progress.isOver = false := by simpa using running
        exact ⟨task.owner, task, Supervisor.mem_running.mpr ⟨tracked, going⟩, same, rfl⟩
  · rintro ⟨owner, task, running, rfl, -⟩
    obtain ⟨tracked, going⟩ := Supervisor.mem_running.mp running
    rw [numbered.task? tracked]
    simp [going]

theorem answer_cancelOwner (numbered : host.supervisor.Numbered) (owner : String) :
    ∃ ids : List TaskId, ids.Nodup ∧
      (∀ id, id ∈ ids ↔ host.supervisor.Tracks id (some owner)) ∧
      answer (cancelOwner owner) host = ids.length := by
  have same : answer (cancelOwner owner) host =
      (host.running.filter (·.owner = some owner)).length := by
    change Supervisor.unfinished _ = _
    rw [Supervisor.unfinished, List.filter_comm]
    rfl
  refine ⟨(host.running.filter (·.owner = some owner)).map (·.id), ?_, fun id => ?_, ?_⟩
  · exact numbered.distinct.sublist ((List.filter_sublist.trans List.filter_sublist).map _)
  · simp only [Supervisor.Tracks, List.mem_map, List.mem_filter, decide_eq_true_eq, and_assoc]
    exact exists_congr fun task => and_congr_right fun _ => and_comm
  · rw [same, List.length_map]

/-- Of the tasks that were tracked, those of which no timeout is reported have stopped. -/
theorem answer_cancelAll (grace : Duration) : ∃ stopped detached : List Task,
    (detached ++ stopped).Perm host.supervisor.tasks ∧
      answer (cancelAll grace) host = (stopped.length, detached.map fun task =>
        { task := task.name, generation := task.generation, grace }) := by
  let late (task : Task) : Bool := grace.isZero && !task.progress.isOver
  have reports : host.supervisor.tasks.filterMap (Task.timeout? grace) =
      (host.supervisor.tasks.filter late).map fun task =>
        { task := task.name, generation := task.generation, grace } := by
    rw [← List.filterMap_eq_map, List.filterMap_filter]
    rfl
  have split := List.filter_append_perm late host.supervisor.tasks
  refine ⟨_, _, split, ?_⟩
  change (host.supervisor.tasks.length - (host.supervisor.tasks.filterMap _).length,
    host.supervisor.tasks.filterMap _) = _
  rw [reports, List.length_map, ← split.length_eq, List.length_append, Nat.add_sub_cancel_left]

/-! ### Turns -/

theorem runTask_untracked (gone : ∀ owner, ¬host.supervisor.Tracks id owner) :
    after (runTask id) host = host := by
  rw [runTask, after_get_bind]
  cases found : host.supervisor.task? id with
  | none => rfl
  | some task =>
      obtain ⟨tracked, same⟩ := Supervisor.of_task? found
      have ended : task.progress.isOver ≠ false := fun going =>
        gone task.owner ⟨task, Supervisor.mem_running.mpr ⟨tracked, going⟩, same, rfl⟩
      dsimp only
      cases point : task.progress with
      | fresh => simp [point, Progress.isOver] at ended
      | waiting due rounds => simp [point, Progress.isOver] at ended
      | _ => rfl

/-- A task that can go on does so when it is given control. -/
theorem runTask_live (numbered : host.supervisor.Numbered) {task : Task}
    (running : task ∈ host.running) (able : task.progress ≠ .stalled) :
    ∃ since, (after (runTask task.id) host).turns = since ++ task.id :: host.turns := by
  obtain ⟨tracked, going⟩ := Supervisor.mem_running.mp running
  let resumed := after (mark (.resumed task.generation task.id)) host
  -- The chronicle starts anew here, since only what is after the first moment of the turn counts.
  have begun : Chronicled resumed (some task.id) resumed := by
    obtain ⟨-, turn, -⟩ := resume_chronicled ⟨⟨[], .start⟩, nofun, numbered⟩ running
    exact ⟨⟨[], .start⟩, turn, numbered⟩
  have onward {next : Host} (chronicled : Chronicled resumed none next) :
      ∃ since, next.turns = since ++ task.id :: host.turns := by
    obtain ⟨history, told⟩ := chronicled.told
    obtain ⟨since, given, -⟩ := told.turns
    exact ⟨since, given⟩
  rw [runTask, after_get_bind, numbered.task? tracked]
  dsimp only
  cases point : task.progress with
  | fresh => exact onward (beginTask_chronicled task _ begun)
  | waiting due rounds => exact onward (continueTask_chronicled task due rounds _ begun)
  | stalled => exact absurd point able
  | _ => simp [point, Progress.isOver] at going

end Answers

/-! ## What can be told of every host -/

/-- Whatever happens later, a task is not given control, does nothing if it were, and cannot be
cancelled again. -/
def Over (host : Host) (id : TaskId) : Prop :=
  ∀ later next, Chronicle host later next →
    answer (cancelTask id) next = false ∧ after (runTask id) next = next ∧
      ∃ since, next.turns = since ++ host.turns ∧ id ∉ since

/-- What the supervisor does and answers after a history. -/
structure Exact (history : List Happening) (host : Host) : Prop where
  /-- What is done next goes into the chronicle as what it is. -/
  told : ∀ intervention : Intervention, ∃ later, intervention.Tells host later ∧
    Chronicle host later (after (intervene intervention) host)
  tracked : ∀ id owner, Live history id owner ↔ host.supervisor.Tracks id owner
  active : ∃ ids : List TaskId, ids.Nodup ∧ (∀ id, id ∈ ids ↔ ∃ owner, Live history id owner) ∧
    host.supervisor.activeCount = ids.length
  /-- A task is started under the next number, or nothing happens. -/
  spawns : ∀ name generation owner work,
    if host.generation = generation then
      answer (spawn name generation owner work) host =
          some { id := started history, name, generation } ∧
        (after (spawn name generation owner work) host).running = host.running ++
          [{ id := started history, name, generation, owner, work }]
    else answer (spawn name generation owner work) host = none ∧
      after (spawn name generation owner work) host = host
  /-- A new task is live for as long as nothing ends it that happens after its start. -/
  lasts : ∀ name owner work later next,
    Chronicle (after (spawn name host.generation owner work) host) later next →
      (next.supervisor.Tracks (started history) owner ↔
        ∀ happening ∈ later, ¬happening.Ends (started history) owner)
  /-- A task that can go on is given control when its turn comes. -/
  goes : ∀ task ∈ host.running, task.progress ≠ .stalled →
    ∃ since, (after (runTask task.id) host).turns = since ++ task.id :: host.turns
  ended : ∀ id < started history, (∀ owner, ¬Live history id owner) → host.Over id
  cancels : ∀ id < started history,
    (answer (cancelTask id) host = true ↔ ∃ owner, Live history id owner) ∧
      (after (cancelTask id) host).Over id
  cancelsOwner : ∀ owner, ∃ ids : List TaskId, ids.Nodup ∧
    (∀ id, id ∈ ids ↔ Live history id (some owner)) ∧
      answer (cancelOwner owner) host = ids.length ∧
      ∀ id ∈ ids, (after (cancelOwner owner) host).Over id
  /-- All that were tracked have stopped or are reported as detached. -/
  cancelsAll : ∀ grace, ∃ stopped detached : List Task,
    (detached ++ stopped).Perm host.supervisor.tasks ∧
      answer (cancelAll grace) host = (stopped.length, detached.map fun task =>
        { task := task.name, generation := task.generation, grace }) ∧
      (after (cancelAll grace) host).supervisor.tasks = [] ∧
      ∀ id < started history, (after (cancelAll grace) host).Over id

theorem over_of_untracked {host : Host} (numbered : host.supervisor.Numbered) {id : TaskId}
    (issued : id < host.supervisor.nextId) (gone : ∀ owner, ¬host.supervisor.Tracks id owner) :
    host.Over id := by
  intro later next path
  have absent (owner : Option String) : ¬next.supervisor.Tracks id owner := fun tracks =>
    gone owner ((path.tracks issued).2.mp tracks).1
  obtain ⟨since, given, tracked⟩ := path.turns
  refine ⟨?_, runTask_untracked absent, since, given, fun member => ?_⟩
  · rw [← Bool.not_eq_true, answer_cancelTask (path.numbered numbered)]
    exact fun ⟨owner, tracks⟩ => absent owner tracks
  · obtain ⟨owner, tracks⟩ := tracked id member issued
    exact gone owner tracks

/-- The same after something that ends the task, whether or not it was live. -/
theorem Happens.settles {host next : Host} {happening : Happening}
    (happens : Happens host happening next) (numbered : host.supervisor.Numbered) {id : TaskId}
    (issued : id < host.supervisor.nextId)
    (ends : ∀ owner, host.supervisor.Tracks id owner → happening.Ends id owner) :
    next.Over id := by
  have below : id < next.supervisor.nextId := by
    rw [happens.nextId]
    exact Nat.lt_add_right _ issued
  refine over_of_untracked (happens.moves.numbered numbered) below fun owner tracks => ?_
  rcases happens.tracks.mp tracks with ⟨held, spared⟩ | ⟨-, new⟩
  · exact spared (ends owner held)
  · exact Nat.ne_of_lt issued new

theorem exact_of_live {host : Host} {history : List Happening}
    (numbered : host.supervisor.Numbered)
    (issued : host.supervisor.nextId = started history)
    (live : ∀ id owner, Live history id owner ↔ host.supervisor.Tracks id owner) :
    Exact history host where
  told := intervene_tells numbered
  tracked := live
  active := by
    refine ⟨host.running.map (·.id), ?_, fun id => ?_, (List.length_map _).symm⟩
    · exact numbered.distinct.sublist (List.filter_sublist.map _)
    · simp only [live, Supervisor.exists_tracks, List.mem_map]
  spawns name generation owner work := by
    split
    · case isTrue current =>
        obtain ⟨accepted, added, -⟩ := spawn_current host name owner work current
        rw [← issued]
        refine ⟨accepted, ?_⟩
        rw [Host.running, added, Supervisor.running_add]
    · case isFalse stale => exact spawn_refused host name owner work stale
  lasts name owner work later next path := by
    have happens : Happens host _ _ := .spawn name owner work
    have begun : (after (spawn name host.generation owner work) host).supervisor.Tracks
        (started history) owner := happens.tracks.mpr (.inr ⟨rfl, issued.symm⟩)
    have below : started history <
        (after (spawn name host.generation owner work) host).supervisor.nextId := by
      rw [happens.nextId, issued]
      exact Nat.lt_succ_self _
    rw [(path.tracks below).2]
    exact and_iff_right begun
  goes task running able := runTask_live numbered running able
  ended id below gone := by
    refine over_of_untracked numbered (issued ▸ below) fun owner tracks => ?_
    exact gone owner ((live id owner).mpr tracks)
  cancels id below := by
    refine ⟨?_, (Happens.cancel id).settles numbered (issued ▸ below) fun _ _ => rfl⟩
    simp only [answer_cancelTask numbered, live]
  cancelsOwner owner := by
    obtain ⟨ids, distinct, mine, counted⟩ := answer_cancelOwner numbered owner
    refine ⟨ids, distinct, fun id => by rw [mine, live], counted, fun id member => ?_⟩
    have tracks := (mine id).mp member
    refine (Happens.cancelOwner owner).settles numbered (numbered.issued tracks) fun other twin => ?_
    exact numbered.owner_eq twin tracks
  cancelsAll grace := by
    obtain ⟨stopped, detached, split, answered⟩ := @answer_cancelAll host grace
    -- The warnings that follow the cancellation leave the supervisor alone.
    have dropped := (after_cancelAll grace host).1
    have emptied : Happens host _ _ := .cancelAll
    refine ⟨stopped, detached, split, answered, ?_, fun id below => over_of_untracked ?_ ?_ ?_⟩
    · rw [dropped]
      rfl
    · rw [dropped]
      exact emptied.moves.numbered numbered
    · rw [dropped]
      exact issued ▸ below
    · rw [dropped]
      rintro owner ⟨task, running, -⟩
      cases running

end Host

end HomeRules
