import HomeRules.Proofs.Host.Dispatch
import HomeRules.Proofs.Host.Roster
import HomeRules.Proofs.RuleFile.Expansion

/-!
# The course of an action list

A dispatch calls some of the actions of a list and puts off others, in tasks that call and put
off in their turn. A ledger keeps account of this: which actions were called and when, and
which lists are put off until when. It is kept by visiting the same leaves as the host does.
-/

set_option autoImplicit false

namespace HomeRules

theorem Duration.isZero_ofMilliseconds {count : Nat} :
    (ofMilliseconds count).isZero ↔ count = 0 := by
  simp only [isZero, ofMilliseconds, beq_iff_eq]
  omega

namespace Host

/-! ## Times -/

/-- The time at which a task goes on that sleeps from `now`. To sleep no time is not to sleep. -/
def resumeTime (now : Nat) (delay : Duration) : Nat :=
  if delay.isZero then now else wakeTime now delay

private theorem isTellable_iff {now : Nat} {delay : Duration} : isTellable now delay ↔
    clockStart + (now * 1000000 + delay.nanoseconds) / 1000000000 < clockRange :=
  decide_eq_true_iff

theorem lt_wakeTime {now : Nat} {delay : Duration} (sleeps : ¬delay.isZero) :
    now < wakeTime now delay := by
  have positive : 0 < delay.nanoseconds := by
    simpa [Duration.isZero, Nat.pos_iff_ne_zero] using sleeps
  unfold wakeTime
  split
  · omega
  · simp [longSleep]

theorem le_resumeTime (now : Nat) (delay : Duration) : now ≤ resumeTime now delay := by
  unfold resumeTime
  split
  · exact Nat.le_refl _
  · case isFalse sleeps => exact Nat.le_of_lt (lt_wakeTime sleeps)

theorem isTellable_mono {now later : Nat} {delay : Duration} (passed : now ≤ later)
    (tellable : isTellable later delay) : isTellable now delay := by
  rw [isTellable_iff] at tellable ⊢
  refine Nat.lt_of_le_of_lt (Nat.add_le_add_left (Nat.div_le_div_right ?_) _) tellable
  exact Nat.add_le_add_right (Nat.mul_le_mul_right _ passed) _

theorem wakeTime_eq {now count : Nat} (tellable : isTellable now (.ofMilliseconds count)) :
    wakeTime now (.ofMilliseconds count) = now + count := by
  rw [wakeTime, if_pos tellable]
  simp only [Duration.ofMilliseconds]
  omega

theorem resumeTime_eq {now count : Nat} (tellable : isTellable now (.ofMilliseconds count)) :
    resumeTime now (.ofMilliseconds count) = now + count := by
  unfold resumeTime
  split
  · case isTrue none => rw [Duration.isZero_ofMilliseconds.mp none, Nat.add_zero]
  · exact wakeTime_eq tellable

end Host

namespace Mention

/-- The time of a mention in a list that is begun at `start`. -/
def due (mention : Mention) (start : Nat) : Nat :=
  mention.sleeps.foldl Host.resumeTime start

def timed (start : Nat) (mention : Mention) : Nat × Action :=
  (mention.due start, mention.action)

theorem le_due (mention : Mention) (start : Nat) : start ≤ mention.due start := by
  obtain ⟨sleeps, action⟩ := mention
  induction sleeps generalizing start with
  | nil => exact Nat.le_refl _
  | cons delay rest previous =>
      exact Nat.le_trans (Host.le_resumeTime start delay) (previous _)

/-- As far as the clock can tell it, a mention comes after the sum of its sleeps. -/
theorem due_eq {mention : Mention} {start : Nat}
    (whole : ∀ sleep ∈ mention.sleeps, ∃ count, sleep = .ofMilliseconds count)
    (tellable : Host.isTellable start mention.delay) :
    mention.due start = start + mention.delay.toMilliseconds := by
  obtain ⟨sleeps, action⟩ := mention
  rw [Host.isTellable_iff] at tellable
  simp only [due, delay, Duration.toMilliseconds] at *
  induction sleeps generalizing start with
  | nil => simp
  | cons sleep rest previous =>
      obtain ⟨count, rfl⟩ := whole _ List.mem_cons_self
      simp only [List.foldr_cons, Duration.ofMilliseconds, List.foldl_cons]
        at tellable ⊢
      have first : Host.isTellable start (.ofMilliseconds count) := by
        rw [Host.isTellable_iff, Duration.ofMilliseconds]
        refine Nat.lt_of_le_of_lt (Nat.add_le_add_left (Nat.div_le_div_right ?_) _) tellable
        exact Nat.add_le_add_left (Nat.le_add_right _ _) _
      have resumed : Host.resumeTime start ⟨count * 1000000⟩ = start + count :=
        Host.resumeTime_eq first
      rw [← Nat.add_assoc, ← Nat.add_mul] at tellable
      rw [resumed, previous (fun later member => whole later (List.mem_cons_of_mem _ member))
        tellable]
      omega

end Mention

/-- What may be a leaf of a list in which every action that runs is a call. -/
inductive Action.Prompt : Action → Prop where
  | call (name : String) (commands : List Command) : Prompt (.call name commands)
  | after (delay : Duration) (actions : List Action) : Prompt (.after delay actions)

theorem Action.Prompt.gives {leaf : Action} (prompt : leaf.Prompt) : leaf.gives := by
  cases prompt <;> rfl

/-- Whether every action of a list runs when its time has come. -/
def Action.Calls (actions : List Action) : Prop :=
  ∀ mention ∈ Action.mentionsOf actions, mention.action.isDeferred = false

mutual

private theorem Action.prompt_leaves {action : Action}
    (calls : ∀ mention ∈ action.mentions, mention.action.isDeferred = false) :
    ∀ leaf ∈ action.leaves, leaf.Prompt := by
  cases action with
  | call name commands => exact fun leaf member => List.mem_singleton.mp member ▸ .call _ _
  | task name source => cases calls _ List.mem_cons_self
  | group name members => exact Action.Calls.prompt calls
  | after delay actions => exact fun leaf member => List.mem_singleton.mp member ▸ .after _ _

theorem Action.Calls.prompt {actions : List Action} (calls : Action.Calls actions) :
    ∀ leaf ∈ Action.leavesOf actions, leaf.Prompt := by
  cases actions with
  | nil => exact fun _ member => absurd member List.not_mem_nil
  | cons action rest =>
      intro leaf member
      rcases List.mem_append.mp member with here | later
      · refine Action.prompt_leaves (fun mention present => ?_) leaf here
        exact calls mention (List.mem_append_left _ present)
      · refine Action.Calls.prompt (fun mention present => ?_) leaf later
        exact calls mention (List.mem_append_right _ present)

end

namespace Host

/-! ## Ledgers -/

/-- A list that is put off: the task that waits for it, and when it is due. -/
structure Duty where
  id : TaskId
  due : Nat
  actions : List Action

/-- The actions that were called, with the times, and the lists that are put off. -/
structure Ledger where
  calls : List (Nat × Action) := []
  duties : List Duty := []

namespace Ledger

/-- What is to be called, and when. -/
def promised (ledger : Ledger) : List (Nat × Action) :=
  ledger.duties.flatMap fun duty => (Action.mentionsOf duty.actions).map (·.timed duty.due)

def entries (ledger : Ledger) : List (Nat × Action) :=
  ledger.calls ++ ledger.promised

/-- Enters a leaf that is to be visited in a host. -/
def enter (ledger : Ledger) (host : Host) : Action → Ledger
  | .after delay actions => { ledger with
      duties := ledger.duties ++
        [⟨host.supervisor.nextId, resumeTime host.clock delay, actions⟩] }
  | leaf => { ledger with calls := ledger.calls ++ [(host.clock, leaf)] }

/-- The list that is due when a worker is given control. -/
def due? (ledger : Ledger) (host : Host) (worker : Worker) : Option Duty :=
  ledger.duties.find? fun duty => worker = .task duty.id ∧ duty.due = host.clock ∧
    (host.supervisor.task? duty.id).isSome

def without (ledger : Ledger) (id : TaskId) : Ledger :=
  { ledger with duties := ledger.duties.filter (·.id ≠ id) }

theorem entries_enter (ledger : Ledger) (host : Host) {leaf : Action} (prompt : leaf.Prompt) :
    (ledger.enter host leaf).entries.Perm
      (ledger.entries ++ leaf.mentions.map (·.timed host.clock)) := by
  cases prompt with
  | call name commands =>
      simp only [enter, entries, promised, Action.mentions, List.append_assoc]
      exact (List.perm_append_comm).append_left _
  | after delay actions =>
      simp only [enter, entries, promised, Action.mentions, List.flatMap_append,
        List.flatMap_cons, List.flatMap_nil, List.append_nil, List.append_assoc, List.map_map]
      exact .refl _

/-- A duty is parted from the others by its number. -/
private theorem perm_without {duties : List Duty} (distinct : (duties.map (·.id)).Nodup)
    {duty : Duty} (member : duty ∈ duties) :
    duties.Perm (duties.filter (·.id ≠ duty.id) ++ [duty]) := by
  induction duties with
  | nil => cases member
  | cons other rest previous =>
      rw [List.map_cons, List.nodup_cons] at distinct
      rcases List.mem_cons.mp member with rfl | later
      · have apart : rest.filter (·.id ≠ duty.id) = rest := by
          rw [List.filter_eq_self]
          intro other present
          have apart : other.id ≠ duty.id := fun same =>
            distinct.1 (same ▸ List.mem_map_of_mem present)
          simpa using apart
        rw [List.filter_cons_of_neg (by simp), apart]
        exact (List.perm_append_singleton duty rest).symm
      · have apart : other.id ≠ duty.id := fun same =>
          distinct.1 (same ▸ List.mem_map_of_mem later)
        rw [List.filter_cons_of_pos (by simpa using apart)]
        exact (previous distinct.2 later).cons other

theorem entries_without {ledger : Ledger} (distinct : (ledger.duties.map (·.id)).Nodup)
    {duty : Duty} (member : duty ∈ ledger.duties) :
    ledger.entries.Perm ((ledger.without duty.id).entries ++
      (Action.mentionsOf duty.actions).map (·.timed duty.due)) := by
  rw [entries, entries, without, List.append_assoc]
  refine List.Perm.append_left _ ?_
  have parted := (perm_without distinct member).flatMap_right fun duty =>
    (Action.mentionsOf duty.actions).map (·.timed duty.due)
  rw [List.flatMap_append, List.flatMap_singleton] at parted
  exact parted

end Ledger

def account (publish : Publisher) (occasion : Occasion) (ledger : Ledger) (leaf : Action) :
    Step Ledger := do
  let host ← get
  let _ ← visit publish occasion leaf
  return ledger.enter host leaf

/-- Visits leaves one after the other and enters them. -/
def recount (publish : Publisher) (occasion : Occasion) (ledger : Ledger)
    (leaves : List Action) : Step Ledger :=
  leaves.foldlM (account publish occasion) ledger

/-- Gives control to a worker. If a list is due, its leaves are visited and entered. -/
def Ledger.work (occasion : Occasion) (budget : Nat) (worker : Worker) (ledger : Ledger) :
    Step Ledger := do
  match ledger.due? (← get) worker with
  | none => do
    runWorker budget worker
    return ledger
  | some duty => do
    mark (.resumed occasion.generation duty.id)
    let next ← recount Host.publish occasion (ledger.without duty.id)
      (Action.leavesOf duty.actions)
    progress duty.id .ended
    return next

/-! ## Turns -/

/-- A moment, with the account of one action list up to it. -/
structure Stage where
  ledger : Ledger
  moment : Moment

/-- What happens between turns: anything but control of tasks, load cycles and the passing of
time. -/
def Licence.outside : Licence where
  task _ := False
  timers := True
  loops := True
  cycles := False

/-- One turn: something happens outside of tasks, a worker that can go on is given control, or,
when there is none, time passes, but not beyond the next time at which one wakes up. -/
inductive Turn (occasion : Occasion) (stage : Stage) : Stage → Prop where
  | act {next : Moment} (act : Act .outside stage.moment next) :
      Turn occasion stage { stage with moment := next }
  | work (free : stage.moment.turn = none) (budget : Nat) {worker : Worker}
      (ready : worker ∈ stage.moment.host.agenda.ready) :
      Turn occasion stage {
        ledger := answer (stage.ledger.work occasion budget worker)
          (after (pick worker) stage.moment.host)
        moment := (stage.moment.next (pick worker)).next (runWorker budget worker) }
  | pass (idle : stage.moment.host.agenda.ready = []) (time : Nat)
      (early : ∀ entry ∈ stage.moment.host.agenda.sleeping, time ≤ entry.1) :
      Turn occasion stage { stage with moment := stage.moment.next (passTo time) }

/-- Dispatches an action list in a generation, for a schema that restarts or does not. -/
def dispatched (depth : Nat) (occasion : Occasion) (restart : Bool) (actions : List Action)
    (moment : Moment) : Stage where
  ledger := answer (recount (publishWithin depth) occasion {} (Action.leavesOf actions))
    (after (dropPending restart occasion.owner) moment.host)
  moment := { moment with
    host := (ran (runEntry (publishWithin depth) occasion restart (.unconditional actions))
      moment.host).2 }

end Host

end HomeRules
