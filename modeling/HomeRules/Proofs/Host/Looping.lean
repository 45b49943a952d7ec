import HomeRules.Proofs.Host.Change

/-!
# Loops, workers and the schedule

The loops, the watcher and the runner move themselves and each other, and at times they run a
load cycle. Apart from that they touch nothing in which events, tasks and managers live. The
schedule gives control to one worker after the other and lets time pass, so that what all of
them keep is kept for as long as it goes on.
-/

set_option autoImplicit false

namespace HomeRules

def Worker.task? : Worker → Option TaskId
  | .task id => some id
  | _ => none

namespace Agenda

/-- The tasks that can go on. -/
def awake (agenda : Agenda) : List TaskId :=
  agenda.ready.filterMap Worker.task?

/-- The tasks that wait for a time. -/
def asleep (agenda : Agenda) : List (Nat × TaskId) :=
  agenda.sleeping.filterMap fun entry => entry.2.task?.map (entry.1, ·)

/-- The tasks that have a place on an agenda. -/
def tasks (agenda : Agenda) : List TaskId :=
  agenda.awake ++ agenda.asleep.map (·.2)

theorem mem_tasks {agenda : Agenda} {id : TaskId} :
    id ∈ agenda.tasks ↔
      (∃ worker ∈ agenda.ready, worker.task? = some id) ∨
        ∃ entry ∈ agenda.sleeping, entry.2.task? = some id := by
  simp [tasks, awake, asleep]

end Agenda

namespace Host

/-! ## Moving the loops -/

/-- A fact that does not depend on the loops, the watcher and the runner, nor on their places
on the agenda. -/
structure Looping (fact : Host → Prop) : Prop where
  still : ∀ host next : Host, next.parts = host.parts → next.clock = host.clock →
    next.agenda.awake = host.agenda.awake → next.agenda.asleep = host.agenda.asleep →
    fact host → fact next

namespace Looping

variable {fact : Host → Prop} (looping : Looping fact)
include looping

theorem ofStill {α : Type} {step : Step α}
    (same : ∀ host, ((after step host).parts, (after step host).clock,
      (after step host).agenda) = (host.parts, host.clock, host.agenda)) : Keeps fact step := by
  intro host holds
  obtain ⟨parts, rest⟩ := Prod.mk.inj (same host)
  obtain ⟨clock, agenda⟩ := Prod.mk.inj rest
  exact looping.still host _ parts clock (congrArg Agenda.awake agenda)
    (congrArg Agenda.asleep agenda) holds

theorem wake {worker : Worker} (other : worker.task? = none) : Keeps fact (wake worker) := by
  intro host holds
  refine looping.still host _ rfl rfl ?_ rfl holds
  change Agenda.awake { host.agenda with ready := host.agenda.ready ++ [worker] } = _
  simp [Agenda.awake, List.filterMap_append, other]

theorem wakeFirst {worker : Worker} (other : worker.task? = none) :
    Keeps fact (wakeFirst worker) := by
  intro host holds
  refine looping.still host _ rfl rfl ?_ rfl holds
  change Agenda.awake { host.agenda with ready := worker :: host.agenda.ready } = _
  simp [Agenda.awake, other]

theorem sleepUntil (due : Nat) {worker : Worker} (other : worker.task? = none) :
    Keeps fact (sleepUntil due worker) := by
  intro host holds
  refine looping.still host _ rfl rfl rfl ?_ holds
  change Agenda.asleep { host.agenda with sleeping := host.agenda.sleeping ++ [(due, worker)] } = _
  simp [Agenda.asleep, List.filterMap_append, other]

theorem changeLoops (change : ReloadLoops → ReloadLoops × Option LoopId) :
    Keeps fact (changeLoops change) :=
  .bind (looping.ofStill fun _ => rfl) fun _ => .option_forM (fun _ => looping.wake rfl) _

theorem continueLoop (id : LoopId) : Keeps fact (continueLoop id) := by
  apply Keeps.get
  intro host holds
  obtain ⟨loops, move⟩ := host.loops.step id !host.reloading.debounce.isZero
  have stepped : fact { host with loops } := looping.still host _ rfl rfl rfl rfl holds
  cases move with
  | wait => exact stepped
  | finish => exact looping.wake rfl _ stepped
  | sleep => exact looping.sleepUntil _ rfl _ stepped
  | «continue» => exact looping.wakeFirst rfl _ stepped
  | cycle => exact stepped

theorem startLoop : Keeps fact startLoop :=
  .bind (looping.ofStill fun _ => rfl) fun _ => .bind (looping.wake rfl) fun _ => .pure _

/-! ### The watcher and the runner -/

theorem sleepWatcher (watcher : Watcher) : Keeps fact (sleepWatcher watcher) :=
  .bind (looping.ofStill fun _ => rfl) fun _ => looping.sleepUntil _ rfl

theorem runWatcher : Keeps fact runWatcher := by
  apply Keeps.get
  intro host holds
  cases host.watcher with
  | none => exact holds
  | some watcher =>
      dsimp only
      split
      · exact looping.still host _ rfl rfl rfl rfl holds
      split
      · exact Keeps.bind (looping.changeLoops _) (fun _ => looping.sleepWatcher _) host holds
      · exact looping.sleepWatcher _ _ holds

theorem startWatcher (scanner : Option Scanner) (interval : Nat) :
    Keeps fact (startWatcher scanner interval) := by
  cases scanner with
  | none => exact .pure _
  | some scanner =>
      unfold Host.startWatcher
      dsimp only
      split
      · exact .pure _
      · exact .read fun _ => looping.sleepWatcher _

theorem moveRunner (point : RunnerPoint) : Keeps fact (moveRunner point) :=
  looping.ofStill fun _ => rfl

theorem finishRunner (outcome : Option HostError) : Keeps fact (finishRunner outcome) :=
  looping.ofStill fun _ => rfl

theorem startRunner : Keeps fact startRunner :=
  .bind (looping.moveRunner _) fun _ => looping.wake rfl

theorem requestStop : Keeps fact requestStop :=
  .bind (looping.ofStill fun _ => rfl) fun _ => looping.wake rfl

end Looping

/-! ## Running cycles -/

/-- A fact that load cycles keep as well. -/
structure Recurring (fact : Host → Prop) : Prop extends Looping fact where
  runCycle : ∀ budget, Keeps fact (runCycle budget)
  shutDown : ∀ budget, Keeps fact (shutDown budget)

namespace Recurring

variable {fact : Host → Prop} (recurring : Recurring fact)
include recurring

theorem reload (budget : Nat) : Keeps fact (reload budget) :=
  .bind (recurring.changeLoops _) fun _ => .bind (recurring.runCycle budget) fun _ =>
    .bind (recurring.changeLoops _) fun _ => .pure _

theorem runLoop (budget : Nat) (id : LoopId) : Keeps fact (runLoop budget id) := by
  refine .bind (recurring.continueLoop id) fun due => ?_
  split
  · refine .bind (recurring.reload budget) fun result => ?_
    cases result with
    | ok report => exact recurring.wakeFirst rfl
    | error error =>
        dsimp only
        split
        · exact .bind (recurring.ofStill fun _ => rfl) fun _ => recurring.wake rfl
        · exact recurring.wakeFirst rfl
  · exact .pure _

theorem serve (budget : Nat) (loop : LoopId) : Keeps fact (serve budget loop) := by
  apply Keeps.read
  intro host
  split
  · refine .bind (recurring.shutDown budget) fun _ =>
      .bind (recurring.ofStill fun _ => rfl) fun _ => ?_
    split
    · exact recurring.finishRunner _
    · exact .bind (recurring.moveRunner _) fun _ => recurring.wake rfl
  · exact .pure _

theorem openService (budget : Nat) : Keeps fact (openService budget) := by
  refine .read fun host => .bind (recurring.reload budget) fun result => ?_
  cases result with
  | error error => exact recurring.finishRunner _
  | ok report =>
      exact .bind recurring.startLoop fun _ => .bind (recurring.startWatcher _ _) fun _ =>
        .bind (recurring.moveRunner _) fun _ => recurring.wake rfl

theorem runRunner (budget : Nat) : Keeps fact (runRunner budget) := by
  apply Keeps.read
  intro host
  dsimp only
  split
  · split
    · exact recurring.openService budget
    · exact .bind (recurring.moveRunner _) fun _ => recurring.wake rfl
  · refine .read fun host => ?_
    split
    · exact recurring.finishRunner _
    · exact .pure _
  · exact recurring.serve budget _
  · exact .read fun host => .option_forM recurring.finishRunner _
  · exact .pure _

theorem runWorker (budget : Nat) {worker : Worker} (other : worker.task? = none) :
    Keeps fact (runWorker budget worker) := by
  cases worker with
  | task id => cases other
  | reloadLoop id => exact recurring.runLoop budget id
  | watcher => exact recurring.runWatcher
  | runner => exact recurring.runRunner budget

end Recurring

/-! ## The schedule -/

/-- What goes on beside a cycle keeps a fact, if taking a worker off the agenda leads to what
`taken` says of it, and control over that worker leads back. -/
theorem runReady_keeps {fact : Host → Prop} {taken : Option Worker → Host → Prop}
    (take : Leads fact takeBesideCycle taken)
    (task : ∀ id, Leads (taken (some (.task id))) (runTask id) fun _ => fact)
    (loop : ∀ id, Leads (taken (some (.reloadLoop id))) (continueLoop id) fun _ => fact)
    (other : ∀ worker host, taken worker host → fact host) (budget : Nat) :
    Keeps fact (runReady budget) := by
  induction budget with
  | zero => exact .pure _
  | succ budget rest =>
      refine .ofLeads (.bind take fun worker => ?_)
      split
      · exact .bind (task _) fun _ => rest.leads
      · exact .bind (loop _) fun _ => rest.leads
      · exact other _

/-- How a fact lasts over the turns of the workers. -/
structure Scheduling (fact : Host → Prop) (taken : Option Worker → Host → Prop) : Prop where
  take : Leads fact takeReady taken
  work : ∀ budget worker, Leads (taken (some worker)) (runWorker budget worker) fun _ => fact
  idle : ∀ host, taken none host → fact host
  pass : ∀ time host, taken none host → (∀ entry ∈ host.agenda.sleeping, time ≤ entry.1) →
    fact (after (passTo time) host)

namespace Scheduling

variable {fact : Host → Prop} {taken : Option Worker → Host → Prop}
  (scheduling : Scheduling fact taken)
include scheduling

theorem settle (budget : Nat) : Keeps fact (settle budget) := by
  induction budget with
  | zero => exact .pure _
  | succ budget rest =>
      refine .ofLeads (.bind scheduling.take fun worker => ?_)
      cases worker with
      | some worker => exact .bind (scheduling.work budget worker) fun _ => rest.leads
      | none => exact scheduling.idle

omit scheduling in
/-- No sleep is over before the next one that is due. -/
private theorem early {host : Host} {due time : Nat} (next : nextDue host = some due)
    (before : time ≤ due) : ∀ entry ∈ host.agenda.sleeping, time ≤ entry.1 := by
  intro entry member
  have least := (List.min?_eq_some_iff.mp next).2 _ (List.mem_map_of_mem member)
  exact Nat.le_trans before least

theorem advanceTo (target budget : Nat) : Keeps fact (advanceTo target budget) := by
  induction budget with
  | zero => exact .pure _
  | succ budget rest =>
      refine .ofLeads (.bind scheduling.take fun worker => ?_)
      cases worker with
      | some worker => exact .bind (scheduling.work budget worker) fun _ => rest.leads
      | none =>
          intro host idle
          dsimp only
          rw [after_get_bind]
          cases next : nextDue host with
          | none =>
              refine scheduling.pass target host idle fun entry member => ?_
              have asleep := List.map_eq_nil_iff.mp (List.min?_eq_none_iff.mp next)
              rw [asleep] at member
              cases member
          | some due =>
              dsimp only
              split
              · exact rest _ (scheduling.pass due host idle (early next (Nat.le_refl _)))
              · case isFalse late =>
                  exact scheduling.pass target host idle (early next (Nat.le_of_not_le late))

theorem awaitRunner (budget : Nat) : Keeps fact (awaitRunner budget) := by
  induction budget with
  | zero => exact .pure _
  | succ budget rest =>
      refine .ofLeads (.bind scheduling.take fun worker => ?_)
      cases worker with
      | some worker => exact .bind (scheduling.work budget worker) fun _ => rest.leads
      | none =>
          intro host idle
          dsimp only
          rw [after_get_bind]
          cases next : nextDue host with
          | none => exact scheduling.idle host idle
          | some due =>
              dsimp only
              split
              · exact scheduling.idle host idle
              · exact rest _ (scheduling.pass due host idle (early next (Nat.le_refl _)))

end Scheduling

/-! ## Workers that can go on -/

/-- Takes a worker off the agenda that is to be given control. -/
def pick (worker : Worker) : Step Unit :=
  modify fun host =>
    { host with agenda := { host.agenda with ready := host.agenda.ready.erase worker } }

/-- What is taken of a host of which a fact holds: a worker that can go on, if there is one. -/
def Picked (fact : Host → Prop) : Option Worker → Host → Prop
  | none, host => fact host ∧ host.agenda.ready = []
  | some worker, host => ∃ earlier, fact earlier ∧ worker ∈ earlier.agenda.ready ∧
      host = after (pick worker) earlier

theorem takeReady_picked (fact : Host → Prop) : Leads fact takeReady (Picked fact) := by
  intro host holds
  rw [takeReady, answer_modifyGet, after_modifyGet]
  cases ready : host.agenda.ready with
  | nil => exact ⟨holds, ready⟩
  | cons worker rest =>
      refine ⟨host, holds, ready ▸ List.mem_cons_self, ?_⟩
      rw [pick, after_modify, ready, List.erase_cons_head]

/-- A fact lasts over the turns if it lasts over the turn of each worker that can go on, and as
time passes no further than to the next sleeper. -/
theorem Scheduling.ofTurns {fact : Host → Prop}
    (work : ∀ host budget, ∀ worker ∈ host.agenda.ready, fact host →
      fact (after (runWorker budget worker) (after (pick worker) host)))
    (pass : ∀ host time, host.agenda.ready = [] →
      (∀ entry ∈ host.agenda.sleeping, time ≤ entry.1) → fact host →
        fact (after (passTo time) host)) : Scheduling fact (Picked fact) where
  take := takeReady_picked fact
  work := by
    rintro budget worker _ ⟨host, holds, ready, rfl⟩
    exact work host budget worker ready holds
  idle _ resting := resting.1
  pass time host resting early := pass host time resting.2 early resting.1

end Host

end HomeRules
