import HomeRules.Proofs.Host.Enduring
import HomeRules.Proofs.Host.Holdings

/-!
# Chronicles of tasks

What happens to the tasks of a host, in steps so small that each starts one task, or ends what one
cancellation ends, or gives control to one task. Whatever is done to a host, and however much time
passes, it follows a chronicle of such happenings.
-/

set_option autoImplicit false

namespace HomeRules

inductive Happening where
  /-- Something that starts and ends no task, and gives control to none. -/
  | aside
  | spawned (owner : Option String)
  | resumed (id : TaskId)
  /-- A task ended in its own turn, by itself or by a panic. -/
  | finished (id : TaskId)
  | cancelled (id : TaskId)
  | ownerCancelled (owner : String)
  | allCancelled
  deriving DecidableEq

namespace Host

/-- The tasks that were given control, the last one first. -/
def turns (host : Host) : List TaskId :=
  host.deeds.filterMap Deed.turn?

/-- A task was given control last, and has not ended. -/
structure InTurn (host : Host) (id : TaskId) : Prop where
  last : host.turns.head? = some id
  going : ∀ task ∈ host.supervisor.tasks, task.id = id → task.progress.isOver = false

/-- One happening, and the host after it. -/
inductive Happens (host : Host) : Happening → Host → Prop where
  | aside {next : Host} (tasks : next.supervisor = host.supervisor)
      (turns : next.turns = host.turns) : Happens host .aside next
  | spawn (name : String) (owner : Option String) (work : Work) :
      Happens host (.spawned owner) (after (spawn name host.generation owner work) host)
  | resume (task : Task) (running : task ∈ host.running) :
      Happens host (.resumed task.id) (after (mark (.resumed task.generation task.id)) host)
  | wait {id : TaskId} (turn : host.InTurn id) (point : Progress) (going : point.isOver = false) :
      Happens host .aside (after (progress id point) host)
  | finish {id : TaskId} (turn : host.InTurn id) (point : Progress) (ended : point.isOver = true) :
      Happens host (.finished id) (after (progress id point) host)
  | cancel (id : TaskId) : Happens host (.cancelled id) (after (cancelTask id) host)
  | cancelOwner (owner : String) :
      Happens host (.ownerCancelled owner) (after (cancelOwner owner) host)
  | cancelAll :
      Happens host .allCancelled { host with supervisor := host.supervisor.cancelAll.1 }

/-- What has happened since an earlier host, in the order it happened. -/
inductive Chronicle (start : Host) : List Happening → Host → Prop where
  | start : Chronicle start [] start
  | next {history : List Happening} {happening : Happening} {host next : Host}
      (before : Chronicle start history host) (happens : Happens host happening next) :
      Chronicle start (history ++ [happening]) next

/-- Something that is done to a host, whose generation may also move on outside a load cycle. -/
inductive Intervention where
  | operation (operation : Operation)
  | advanceGeneration

def intervene : Intervention → Step Unit
  | .operation operation => operate operation
  | .advanceGeneration => (fun _ => ()) <$> advanceGeneration

/-! ## What happenings do to the numbers of tasks -/

theorem Happens.moves {host next : Host} {happening : Happening}
    (happens : Happens host happening next) : host.supervisor.Moves next.supervisor := by
  cases happens with
  | aside tasks turns =>
      rw [tasks]
      exact .rest
  | spawn name owner work =>
      rw [(spawn_current host name owner work rfl).2.1]
      exact .add name host.generation owner work
  | resume task running => exact .rest
  | wait turn point going => exact .advance _ point
  | finish turn point ended => exact .advance _ point
  | cancel id => exact .drop _
  | cancelOwner owner => exact .drop _
  | cancelAll => exact host.supervisor.moves_cancelAll

/-! ## What is chronicled -/

/-- A host has a chronicle, in which the task that has control, if any, was resumed last. -/
structure Chronicled (start : Host) (turn : Option TaskId) (host : Host) : Prop where
  told : ∃ history, Chronicle start history host
  turn : ∀ id, turn = some id → host.InTurn id
  numbered : host.supervisor.Numbered

section Serving

variable {start : Host} {turn : Option TaskId}

/-- What gives control to no task and ends none by itself leaves the turn as it is. -/
theorem Chronicled.next {host next : Host} {happening : Happening}
    (chronicled : Chronicled start turn host) (happens : Happens host happening next)
    (turns : next.turns = host.turns)
    (tasks : ∀ task ∈ next.supervisor.tasks,
      task ∈ host.supervisor.tasks ∨ task.progress.isOver = false) :
    Chronicled start turn next := by
  obtain ⟨⟨history, told⟩, control, numbered⟩ := chronicled
  refine ⟨⟨_, told.next happens⟩, fun id given => ?_, happens.moves.numbered numbered⟩
  obtain ⟨last, going⟩ := control id given
  constructor
  · rw [turns]
    exact last
  · intro task member same
    rcases tasks task member with old | running
    · exact going task old same
    · exact running

theorem Chronicled.aside {host next : Host} (chronicled : Chronicled start turn host)
    (tasks : next.supervisor = host.supervisor) (turns : next.turns = host.turns) :
    Chronicled start turn next := by
  refine chronicled.next (.aside tasks turns) turns fun task member => .inl ?_
  rw [← tasks]
  exact member

theorem Chronicled.of_parts {host next : Host} (chronicled : Chronicled start turn host)
    (same : next.parts = host.parts) : Chronicled start turn next := by
  have core : next.core = host.core := congrArg Parts.core same
  refine chronicled.aside (congrArg Core.supervisor core) ?_
  exact congrArg (fun core : Core => core.deeds.filterMap Deed.turn?) core

theorem spawn_chronicled (name : String) (generation : Generation) (owner : Option String)
    (work : Work) : Keeps (Chronicled start turn) (spawn name generation owner work) := by
  intro host chronicled
  by_cases current : host.generation = generation
  · subst current
    have added := (spawn_current host name owner work rfl).2.1
    refine chronicled.next (.spawn name owner work) ?_ fun task member => ?_
    · rw [spawn, after_get_bind, if_pos rfl]
      rfl
    · rw [added, Supervisor.add_tasks, List.mem_append, List.mem_singleton] at member
      rcases member with old | rfl
      · exact .inl (List.mem_of_mem_filter old)
      · exact .inr rfl
  · rw [(spawn_refused host name owner work current).2]
    exact chronicled

theorem chronicled_enduring (start : Host) (turn : Option TaskId) :
    Enduring (Chronicled start turn) where
  still _ _ _ _ _ chronicled := chronicled.aside rfl rfl
  cancel id _ chronicled :=
    chronicled.next (.cancel id) rfl fun _ member => .inl (List.mem_of_mem_filter member)
  spawn := spawn_chronicled
  beside _ _ _ _ chronicled := chronicled.aside rfl rfl
  mark deed other host chronicled := by
    refine chronicled.aside rfl ?_
    exact List.filterMap_cons_none other
  request host chronicled := chronicled.of_parts (changeLoops_parts ReloadLoops.request host)
  cancelOwner owner _ chronicled :=
    chronicled.next (.cancelOwner owner) rfl fun _ member => .inl (List.mem_of_mem_filter member)
  dropTasks _ chronicled :=
    chronicled.next .cancelAll rfl fun _ member => absurd member List.not_mem_nil

theorem chronicled_looping (start : Host) (turn : Option TaskId) :
    Looping (Chronicled start turn) where
  still _ _ parts _ _ _ chronicled := chronicled.of_parts parts

end Serving

/-! ## Turns of tasks -/

section Turns

variable {start : Host} {id : TaskId}

/-- A task gives control back when it waits, stalls or ends. -/
theorem progress_chronicled (id : TaskId) (point : Progress) :
    Leads (Chronicled start (some id)) (progress id point) fun _ => Chronicled start none := by
  intro host chronicled
  obtain ⟨⟨history, told⟩, control, numbered⟩ := chronicled
  cases ended : point.isOver with
  | false =>
      have happens := Happens.wait (control id rfl) point ended
      exact ⟨⟨_, told.next happens⟩, nofun, happens.moves.numbered numbered⟩
  | true =>
      have happens := Happens.finish (control id rfl) point ended
      exact ⟨⟨_, told.next happens⟩, nofun, happens.moves.numbered numbered⟩

theorem sleepTask_chronicled (id : TaskId) (due rounds : Nat) :
    Leads (Chronicled start (some id)) (sleepTask id due rounds) fun _ => Chronicled start none :=
  .bind (progress_chronicled id _) fun _ _ chronicled => chronicled.aside rfl rfl

theorem finishDelayed_chronicled (task : Task) (actions : List Action) (payload : Payload) :
    Leads (Chronicled start (some task.id)) (finishDelayed task actions payload) fun _ =>
      Chronicled start none := by
  have attending := (chronicled_enduring start (some task.id)).upholding.attending
  refine .read fun host => ?_
  dsimp only
  split
  -- The actions may cancel this very task. Then it is not tracked any more, and its end is one of
  -- the happenings that change nothing.
  · have performed (occasion : Occasion) := RunKeeps.attempt
      (.bind (attending.executeAll attending.publish occasion actions {}) fun _ => .pure ())
    refine .bind (performed _).leads fun failure? => ?_
    cases failure? with
    | none => exact progress_chronicled _ _
    | some failure => exact progress_chronicled _ _
  · exact progress_chronicled _ _

theorem finishJob_chronicled (task : Task) (job : Job) :
    Leads (Chronicled start (some task.id)) (finishJob task job) fun _ =>
      Chronicled start none := by
  have attending := (chronicled_enduring start (some task.id)).upholding.attending
  have closed : Keeps (Chronicled start (some task.id))
      (job.closing.forM fun name => note (.ended name)) :=
    .option_forM (fun _ => attending.note _) _
  refine .bind closed.leads fun _ => ?_
  cases job.ending with
  | failed chain => exact .bind (attending.note _).leads fun _ => progress_chronicled _ _
  | _ => exact progress_chronicled _ _

theorem tick_chronicled (task : Task) (delivery : Delivery) (period : Duration)
    (due rounds : Nat) :
    Leads (Chronicled start (some task.id)) (tick task delivery period due rounds) fun _ =>
      Chronicled start none := by
  have attending := (chronicled_enduring start (some task.id)).upholding.attending
  refine .read fun host => ?_
  cases (host.gate delivery.gate).enter? with
  | none => exact progress_chronicled _ _
  | some entered =>
      have dispatched := (attending.dispatchInside attending.publish delivery
        (.tick (rounds + 1))).attempt
      refine .bind dispatched.leads fun failure? => ?_
      cases failure? with
      | none => exact sleepTask_chronicled _ _ _
      | some failure => exact progress_chronicled _ _

theorem beginTask_chronicled (task : Task) :
    Leads (Chronicled start (some task.id)) (beginTask task) fun _ => Chronicled start none := by
  have attending := (chronicled_enduring start (some task.id)).upholding.attending
  refine .read fun host => ?_
  cases task.work with
  | delayed delay actions payload =>
      dsimp only
      split
      · exact finishDelayed_chronicled task actions payload
      · exact sleepTask_chronicled _ _ _
  | job job payload =>
      have opened : Keeps (Chronicled start (some task.id))
          (job.opening.forM fun name => note (.began name payload)) :=
        .option_forM (fun _ => attending.note _) _
      refine .bind opened.leads fun _ => ?_
      split
      · exact finishJob_chronicled task job
      · exact sleepTask_chronicled _ _ _
  | timer gate schema kind period =>
      dsimp only
      split
      · exact sleepTask_chronicled _ _ _
      · exact progress_chronicled _ _

theorem continueTask_chronicled (task : Task) (due rounds : Nat) :
    Leads (Chronicled start (some task.id)) (continueTask task due rounds) fun _ =>
      Chronicled start none := by
  unfold continueTask
  split
  · exact finishDelayed_chronicled _ _ _
  · exact finishJob_chronicled _ _
  · exact tick_chronicled _ _ _ _ _

/-- Control is given to tracked tasks that have not ended. -/
theorem resume_chronicled {host : Host} (chronicled : Chronicled start none host) {task : Task}
    (running : task ∈ host.running) :
    Chronicled start (some task.id) (after (mark (.resumed task.generation task.id)) host) := by
  obtain ⟨⟨history, told⟩, -, numbered⟩ := chronicled
  refine ⟨⟨_, told.next (.resume task running)⟩, fun id given => ?_, numbered⟩
  cases given
  -- Numbers are distinct, so no second task under this number can have ended.
  refine ⟨rfl, fun other member same => ?_⟩
  obtain ⟨tracked, going⟩ := List.mem_filter.mp running
  rw [List.inj_on_of_nodup_map numbered.distinct member tracked same]
  simpa using going

theorem runTask_chronicled (id : TaskId) : Keeps (Chronicled start none) (runTask id) := by
  refine .get fun host chronicled => ?_
  cases found : host.supervisor.task? id with
  | none => exact chronicled
  | some task =>
      obtain ⟨tracked, rfl⟩ := Supervisor.of_task? found
      have resumed (going : task.progress.isOver = false) :=
        resume_chronicled chronicled (List.mem_filter.mpr ⟨tracked, by simp [going]⟩)
      dsimp only
      cases point : task.progress with
      | fresh => exact beginTask_chronicled task _ (resumed (by rw [point]; rfl))
      | waiting due rounds =>
          exact continueTask_chronicled task due rounds _ (resumed (by rw [point]; rfl))
      | _ => exact chronicled

end Turns

theorem chronicled_unbroken (start : Host) : Unbroken (Chronicled start none) where
  toEnduring := chronicled_enduring start none
  looping := chronicled_looping start none
  runTask := runTask_chronicled
  advanceGeneration _ chronicled := chronicled.aside rfl rfl
  pass _ _ _ chronicled := chronicled.aside rfl rfl
  written _ _ chronicled := chronicled.aside rfl rfl

/-- Whatever is done to a host is chronicled. -/
theorem intervene_chronicled (start : Host) (interventions : List Intervention) :
    Keeps (Chronicled start none) (interventions.forM intervene) := by
  have unbroken := chronicled_unbroken start
  refine .forM (fun intervention => ?_) interventions
  cases intervention with
  | operation operation => exact unbroken.operate operation
  | advanceGeneration => exact .bind unbroken.advanceGeneration fun _ => .pure _

/-! ## What is done to tasks -/

theorem after_cancelAll (grace : Duration) (host : Host) :
    (after (cancelAll grace) host).supervisor = host.supervisor.cancelAll.1 ∧
      (after (cancelAll grace) host).turns = host.turns := by
  let dropped : Host := { host with supervisor := host.supervisor.cancelAll.1 }
  have kept : Keeps (fun later => later.supervisor = dropped.supervisor ∧
      later.turns = dropped.turns) (host.supervisor.tasks.forM (warnOfTask grace)) := by
    refine .forM (fun task => ?_) _
    unfold warnOfTask
    split
    · exact fun _ same => same
    · exact .option_forM (fun _ _ same => same) _
  exact kept dropped ⟨rfl, rfl⟩

/-- How what is done to the tasks of a host appears in the chronicle. -/
def Intervention.Tells (host : Host) : Intervention → List Happening → Prop
  | .operation (.spawn _ generation owner _), told =>
    told = [if host.generation = generation then .spawned owner else .aside]
  | .operation (.cancelTask id), told => told = [.cancelled id]
  | .operation (.cancelOwner owner), told => told = [.ownerCancelled owner]
  | .operation (.cancelAll _), told => told = [.allCancelled, .aside]
  | .advanceGeneration, told => told = [.aside]
  | _, _ => True

theorem intervene_tells {host : Host} (numbered : host.supervisor.Numbered)
    (intervention : Intervention) : ∃ told, intervention.Tells host told ∧
      Chronicle host told (after (intervene intervention) host) := by
  have begun : Chronicled host none host := ⟨⟨[], .start⟩, nofun, numbered⟩
  have somehow := (intervene_chronicled host [intervention] host begun).told
  obtain ⟨history, told⟩ := somehow
  cases intervention with
  | advanceGeneration => exact ⟨_, rfl, Chronicle.start.next (.aside rfl rfl)⟩
  | operation operation =>
      cases operation with
      | spawn name generation owner work =>
          refine ⟨_, rfl, ?_⟩
          split
          · case isTrue current =>
              subst current
              exact Chronicle.start.next (.spawn name owner work)
          · case isFalse stale =>
              have same := (spawn_refused host name owner work stale).2
              exact Chronicle.start.next (.aside (congrArg supervisor same) (congrArg turns same))
      | cancelTask id => exact ⟨_, rfl, Chronicle.start.next (.cancel id)⟩
      | cancelOwner owner => exact ⟨_, rfl, Chronicle.start.next (.cancelOwner owner)⟩
      | cancelAll grace =>
          obtain ⟨dropped, still⟩ := after_cancelAll grace host
          have emptied : Chronicle host [.allCancelled] _ := Chronicle.start.next .cancelAll
          exact ⟨_, rfl, emptied.next (.aside dropped still)⟩
      | _ => exact ⟨history, trivial, told⟩

end Host

end HomeRules
