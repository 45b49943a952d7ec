import HomeRules.Proofs.Host.Ticking

/-!
# Watching timers

What a host does is watched from some time on, and the ticks that it dispatches are noted.
Whatever it does, a timer of the current generation runs just if its manager delivers, and each
tick is for one live subscription, through a gate that was opened.
-/

set_option autoImplicit false

namespace HomeRules.Host

/-! ## Watching a host -/

/-- A host, and the ticks that were dispatched up to it. -/
structure Watch where
  ticks : List Tick
  host : Host

/-- One thing that happens: an operation, a worker that can go on is given control, or, when there
is none, time passes, but not beyond the next time at which one wakes up. -/
inductive Watch.Next (watch : Watch) : Watch → Prop where
  | operate {operation : Operation} (gentle : operation.gentle) :
      Next watch { watch with host := after (operate operation) watch.host }
  | work (budget : Nat) {worker : Worker} (ready : worker ∈ watch.host.agenda.ready) :
      Next watch {
        ticks := watch.ticks ++ answer (attend budget worker) (after (pick worker) watch.host)
        host := after (attend budget worker) (after (pick worker) watch.host) }
  | pass (idle : watch.host.agenda.ready = []) (time : Nat)
      (early : ∀ entry ∈ watch.host.agenda.sleeping, time ≤ entry.1) :
      Next watch { watch with host := after (passTo time) watch.host }
  | aside {next : Host} (aside : Aside watch.host next) : Next watch { watch with host := next }

abbrev Watch.Reaches : Watch → Watch → Prop :=
  Relation.ReflTransGen Watch.Next

/-! ## What is true all the time -/

/-- What is true of every host between turns. -/
structure Settled (host : Host) : Prop where
  sound : Moment.Sound ⟨[], none, host⟩
  seated : Moment.Seated ⟨[], none, host⟩
  numbered : host.supervisor.Numbered
  clockwork : host.Clockwork

section Settled

variable {licence : Licence} {host next : Host}

theorem Settled.acts (settled : host.Settled) (managed : ¬licence.timers)
    (path : Acting licence ⟨[], none, host⟩ [] none next) : next.Settled := by
  let fact (moment : Moment) : Prop := moment.Sound ∧ moment.Seated ∧
    moment.host.supervisor.Numbered ∧ moment.host.Clockwork
  obtain ⟨sound, seated, numbered, clockwork⟩ : fact ⟨[], none, next⟩ := by
    refine Acting.keeps fact (fun moment next act holds => ?_) path
      ⟨settled.sound, settled.seated, settled.numbered, settled.clockwork⟩
    obtain ⟨sound, seated, numbered, clockwork⟩ := holds
    exact ⟨act.sound managed sound, act.seated seated, act.numbered numbered,
      act.clockwork clockwork⟩
  exact ⟨sound, seated, numbered, clockwork⟩

theorem create_settled (config : ScriptingConfig) (dataDirectory : String) (tree : FileTree)
    (vocabulary : Vocabulary) (shelf : ScriptShelf) :
    (create config dataDirectory tree vocabulary shelf).Settled where
  sound := create_sound config dataDirectory tree vocabulary shelf
  seated := create_seated config dataDirectory tree vocabulary shelf
  numbered := (create_tidy config dataDirectory tree vocabulary shelf).numbered
  clockwork := create_clockwork config dataDirectory tree vocabulary shelf

/-- A gate that was opened does not wait again. -/
theorem Acting.unpending {start : Moment} {inside : List GateId} {turn : Option TaskId}
    (path : Acting licence start inside turn host) {gate : GateId}
    (started : (start.host.gate gate).phase ≠ .pending) : (host.gate gate).phase ≠ .pending :=
  Acting.keeps (fun moment => (moment.host.gate gate).phase ≠ .pending)
    (fun _ _ act before => (act.passage.gate gate).unpending before) path started

theorem Acting.steady {start : Moment} {inside : List GateId} {turn : Option TaskId}
    (path : Acting licence start inside turn host) (clockwork : start.host.Clockwork)
    {timer : Timer} {id : TaskId} (steady : Steady timer id start.host) :
    Steady timer id host :=
  (Acting.keeps (fun moment => moment.host.Clockwork ∧ Steady timer id moment.host)
    (fun _ _ act ⟨clockwork, steady⟩ =>
      ⟨act.clockwork clockwork, act.steady clockwork.wired steady⟩) path ⟨clockwork, steady⟩).2

end Settled

section Watching

variable {watch next : Watch}

theorem pick_acts {licence : Licence} (licensed : licence.cycles) (worker : Worker)
    (host : Host) : Acting licence ⟨[], none, host⟩ [] none (after (pick worker) host) :=
  .single (.schedule licensed rfl (Nat.le_refl _) (fewerTasks List.erase_sublist))

theorem attend_acts (budget : Nat) (worker : Worker) (host : Host) :
    Acting .managed ⟨[], none, host⟩ [] none (after (attend budget worker) host) := by
  rw [after_attend]
  exact runWorker_acts trivial trivial (fun _ => trivial) budget worker host .refl

theorem Watch.Next.path (step : Watch.Next watch next) :
    Acting .managed ⟨[], none, watch.host⟩ [] none next.host := by
  cases step with
  | operate gentle => exact operate_aside gentle.aside (.inl gentle.plain) watch.host .refl
  | work budget ready =>
      exact (pick_acts trivial _ watch.host).trans (attend_acts budget _ _)
  | pass idle time early => exact passTo_acts trivial time watch.host .refl
  | aside aside => exact aside.acts trivial [] none

/-- A tick is noted for the alarm that rings. -/
theorem mem_attend {budget : Nat} {worker : Worker} {host : Host} {tick : Tick}
    (noted : tick ∈ answer (attend budget worker) host) :
    ∃ alarm, host.alarm? worker = some alarm ∧ tick.task = alarm.task ∧
      tick.subscribers = host.servedBy alarm.task ∧ tick.delivery = alarm.delivery := by
  rw [attend, answer_get_bind] at noted
  cases rings : host.alarm? worker with
  | none =>
      rw [rings] at noted
      cases noted
  | some alarm =>
      rw [rings] at noted
      obtain rfl := List.mem_singleton.mp noted
      exact ⟨alarm, rfl, rfl, rfl, rfl⟩

/-- A timer of the current generation runs just if its manager delivers, and no two timers share
a task. Each tick was for one live subscription, and passed a gate that was opened. -/
structure Watch.Orderly (watch : Watch) : Prop where
  runs : ∀ (timer : Timer) task, timer.Live watch.host task →
    timer.generation = watch.host.generation →
      (task.isSome ↔ (watch.host.gate timer.gate).isOpen)
  apart : ∀ (timer other : Timer) id, timer.Live watch.host (some id) →
    other.Live watch.host (some id) → timer = other
  served : ∀ tick ∈ watch.ticks, (∃ number, tick.subscribers = [number]) ∧
    (watch.host.gate tick.delivery.gate).phase ≠ .pending

theorem Watch.Next.served (step : Watch.Next watch next) (settled : watch.host.Settled)
    (served : ∀ tick ∈ watch.ticks, (∃ number, tick.subscribers = [number]) ∧
      (watch.host.gate tick.delivery.gate).phase ≠ .pending) :
    ∀ tick ∈ next.ticks, (∃ number, tick.subscribers = [number]) ∧
      (next.host.gate tick.delivery.gate).phase ≠ .pending := by
  have before (tick : Tick) (member : tick ∈ watch.ticks) :
      (∃ number, tick.subscribers = [number]) ∧
        (next.host.gate tick.delivery.gate).phase ≠ .pending :=
    (served tick member).imp id step.path.unpending
  cases step with
  | @work budget worker ready =>
      intro tick member
      rcases List.mem_append.mp member with old | new
      · exact before tick old
      · obtain ⟨alarm, rings, -, subscribers, delivery⟩ := mem_attend new
        have cycles : Licence.managed.cycles := trivial
        have taken := settled.acts id (pick_acts cycles worker watch.host)
        obtain ⟨-, -, -, -, -, -, opens⟩ := alarm?_eq_some rings
        rw [subscribers, delivery]
        refine ⟨alarm_sole taken.sound taken.clockwork rings, ?_⟩
        refine (attend_acts budget worker (after (pick worker) watch.host)).unpending ?_
        exact Gate.unpending_of_isOpen opens
  | _ => exact before

/-! ## Along a run -/

variable {start : Watch}

theorem Watch.Reaches.acts (path : Watch.Reaches start watch) :
    Acting .managed ⟨[], none, start.host⟩ [] none watch.host := by
  induction path with
  | refl => exact .refl
  | tail _ step previous => exact previous.trans step.path

theorem Watch.Reaches.settled (path : Watch.Reaches start watch) (settled : start.host.Settled) :
    watch.host.Settled :=
  settled.acts id path.acts

theorem Watch.Reaches.orderly {begun : Host} (path : Watch.Reaches ⟨[], begun⟩ watch)
    (settled : begun.Settled) : watch.Orderly where
  runs _ _ := (path.settled settled).clockwork.runs
  apart _ _ _ := (path.settled settled).clockwork.apart
  served := by
    induction path with
    | refl => exact List.forall_mem_nil _
    | tail path step previous => exact step.served (Watch.Reaches.settled path settled) previous

/-- Whatever the host does as time passes is watched. -/
theorem advance_reaches (budget milliseconds : Nat) :
    Keeps (fun host => ∃ ticks, Watch.Reaches start ⟨ticks, host⟩)
      (advance budget milliseconds) := by
  refine .read fun _ => (Scheduling.ofTurns ?_ ?_).advanceTo _ budget
  · rintro host budget worker ready ⟨ticks, path⟩
    refine ⟨_, after_attend budget worker _ ▸ path.tail (.work budget ready)⟩
  · rintro host time idle early ⟨ticks, path⟩
    exact ⟨ticks, path.tail (.pass idle time early)⟩

end Watching

end HomeRules.Host
