import HomeRules.Proofs.Host.RunActs

/-!
# Places of tasks

A task has places on the agenda: among those that go on, and at the times it waits for. Acts
come down to a few shifts of the tasks and their places. Shifts leave alone what belongs to a
task that has no control, as long as the task is tracked, and without load cycles no time passes.
-/

set_option autoImplicit false

namespace HomeRules.Host

/-! ## Shifts -/

/-- The tasks of a host and their places, with the generation and the time. -/
structure Roster where
  generation : Generation
  clock : Nat
  supervisor : Supervisor
  awake : List TaskId
  asleep : List (Nat × TaskId)

namespace Roster

/-- The times that a task waits for. -/
def dues (roster : Roster) (id : TaskId) : List Nat :=
  (roster.asleep.filter (·.2 = id)).map (·.1)

def placed (roster : Roster) : List TaskId :=
  roster.awake ++ roster.asleep.map (·.2)

/-- What happens to a roster at once, while a task has control, or none. -/
inductive Shift (licence : Licence) (turn : Option TaskId) (roster : Roster) : Roster → Prop where
  | spawn (name : String) (generation : Generation) (owner : Option String) (work : Work) :
      Shift licence turn roster { roster with
        supervisor := (roster.supervisor.add name generation owner work).1
        awake := roster.awake ++ [roster.supervisor.nextId] }
  | drop (keep : Task → Bool) : Shift licence turn roster { roster with
      supervisor := { roster.supervisor with tasks := roster.supervisor.tasks.filter keep } }
  | progress {id : TaskId} (control : turn = some id) (point : Progress) :
      Shift licence turn roster { roster with supervisor := roster.supervisor.advance id point }
  | sleep {id : TaskId} (control : turn = some id) (due : Nat) :
      Shift licence turn roster { roster with asleep := roster.asleep ++ [(due, id)] }
  | advance (licensed : licence.cycles) :
      Shift licence turn roster { roster with generation := roster.generation + 1 }
  | schedule {next : Roster} (licensed : licence.cycles)
      (same : next.generation = roster.generation ∧ next.supervisor = roster.supervisor)
      (later : roster.clock ≤ next.clock) (fewer : next.placed ⊆ roster.placed) :
      Shift licence turn roster next

abbrev Shifts (licence : Licence) (turn : Option TaskId) : Roster → Roster → Prop :=
  Relation.ReflTransGen (Shift licence turn)

/-! ## What shifts keep -/

/-- Numbers are given out, generations begin and time passes, none of which is undone. -/
structure Onward (start roster : Roster) : Prop where
  issued : start.supervisor.nextId ≤ roster.supervisor.nextId
  generation : start.generation ≤ roster.generation
  clock : start.clock ≤ roster.clock

/-- Tasks and their places have numbers that were given out. -/
structure Seated (roster : Roster) : Prop where
  tracked : ∀ task ∈ roster.supervisor.tasks, task.id < roster.supervisor.nextId
  placed : ∀ id ∈ roster.placed, id < roster.supervisor.nextId

/-- No time has passed, and what belongs to some tasks is as it was, unless a task was ended. -/
structure Untouched (spared : TaskId → Prop) (start roster : Roster) : Prop where
  clock : roster.clock = start.clock
  generation : roster.generation = start.generation
  tracked : ∀ task ∈ roster.supervisor.tasks, spared task.id → task ∈ start.supervisor.tasks
  awake : ∀ id, spared id → roster.awake.count id = start.awake.count id
  asleep : ∀ id, spared id → roster.dues id = start.dues id

section Shifts

variable {licence : Licence} {turn : Option TaskId} {roster next : Roster}

theorem Onward.refl (roster : Roster) : roster.Onward roster :=
  ⟨Nat.le_refl _, Nat.le_refl _, Nat.le_refl _⟩

theorem Onward.trans {last : Roster} (first : roster.Onward next) (second : next.Onward last) :
    roster.Onward last where
  issued := Nat.le_trans first.issued second.issued
  generation := Nat.le_trans first.generation second.generation
  clock := Nat.le_trans first.clock second.clock

theorem Shift.onward (shift : Shift licence turn roster next) : roster.Onward next := by
  cases shift with
  | spawn => exact ⟨Nat.le_succ _, Nat.le_refl _, Nat.le_refl _⟩
  | advance => exact ⟨Nat.le_refl _, Nat.le_succ _, Nat.le_refl _⟩
  | schedule licensed same later =>
      exact ⟨Nat.le_of_eq (congrArg Supervisor.nextId same.2.symm), Nat.le_of_eq same.1.symm, later⟩
  | _ => exact ⟨Nat.le_refl _, Nat.le_refl _, Nat.le_refl _⟩

private theorem mem_advance {supervisor : Supervisor} {id : TaskId} {point : Progress} {task : Task}
    (member : task ∈ (supervisor.advance id point).tasks) :
    task ∈ supervisor.tasks ∨ task.id = id := by
  obtain ⟨old, present, rfl⟩ := List.mem_map.mp member
  split
  · case isTrue same => exact .inr same
  · exact .inl present

private theorem mem_add {supervisor : Supervisor} {name : String} {generation : Generation}
    {owner : Option String} {work : Work} {task : Task}
    (member : task ∈ (supervisor.add name generation owner work).1.tasks) :
    task ∈ supervisor.tasks ∨ task.id = supervisor.nextId := by
  rcases List.mem_append.mp member with old | new
  · exact .inl (List.mem_of_mem_filter old)
  · exact .inr (congrArg Task.id (List.mem_singleton.mp new))

theorem Shift.seated (shift : Shift licence turn roster next)
    (control : ∀ id, turn = some id → id < roster.supervisor.nextId) (seated : roster.Seated) :
    next.Seated := by
  cases shift with
  | spawn name generation owner work =>
      constructor
      · intro task member
        rcases mem_add member with old | new
        · exact Nat.lt_succ_of_lt (seated.tracked task old)
        · exact Nat.lt_succ_of_le (Nat.le_of_eq new)
      · intro id member
        have placed : id ∈ roster.placed ∨ id = roster.supervisor.nextId := by
          simp only [Roster.placed, List.mem_append, List.mem_singleton] at member ⊢
          tauto
        rcases placed with old | rfl
        · exact Nat.lt_succ_of_lt (seated.placed id old)
        · exact Nat.lt_succ_self _
  | drop keep =>
      exact ⟨fun task member => seated.tracked task (List.mem_of_mem_filter member), seated.placed⟩
  | progress turn point =>
      refine ⟨fun task member => ?_, seated.placed⟩
      rcases mem_advance member with old | rfl
      · exact seated.tracked task old
      · exact control _ turn
  | @sleep own turn due =>
      refine ⟨seated.tracked, fun id member => ?_⟩
      have placed : id ∈ roster.placed ∨ id = own := by
        simp only [Roster.placed, List.map_append, List.mem_append, List.map_cons, List.map_nil,
          List.mem_singleton] at member ⊢
        tauto
      rcases placed with old | rfl
      · exact seated.placed id old
      · exact control _ turn
  | advance licensed => exact ⟨seated.tracked, seated.placed⟩
  | schedule licensed same later fewer =>
      constructor
      · rw [same.2]
        exact seated.tracked
      · rw [same.2]
        exact fun id member => seated.placed id (fewer member)

theorem Untouched.refl (spared : TaskId → Prop) (roster : Roster) :
    roster.Untouched spared roster :=
  ⟨rfl, rfl, fun _ member _ => member, fun _ _ => rfl, fun _ _ => rfl⟩

theorem Untouched.trans {spared : TaskId → Prop} {last : Roster}
    (first : roster.Untouched spared next) (second : next.Untouched spared last) :
    roster.Untouched spared last where
  clock := second.clock.trans first.clock
  generation := second.generation.trans first.generation
  tracked task member own := first.tracked task (second.tracked task member own) own
  awake id own := (second.awake id own).trans (first.awake id own)
  asleep id own := (second.asleep id own).trans (first.asleep id own)

theorem Shift.untouched {spared : TaskId → Prop} (shift : Shift licence turn roster next)
    (still : ¬licence.cycles) (control : ∀ id, turn = some id → ¬spared id)
    (below : ∀ id, spared id → id < roster.supervisor.nextId) : roster.Untouched spared next := by
  cases shift with
  | spawn name generation owner work =>
      refine ⟨rfl, rfl, fun task member own => ?_, fun id own => ?_, fun _ _ => rfl⟩
      · rcases mem_add member with old | new
        · exact old
        · exact absurd (below _ own) (Nat.not_lt_of_le (Nat.le_of_eq new.symm))
      · rw [List.count_append, List.count_singleton, if_neg, Nat.add_zero]
        simpa using Nat.ne_of_gt (below id own)
  | drop keep =>
      exact ⟨rfl, rfl, fun _ member _ => List.mem_of_mem_filter member, fun _ _ => rfl,
        fun _ _ => rfl⟩
  | progress turn point =>
      refine ⟨rfl, rfl, fun task member own => ?_, fun _ _ => rfl, fun _ _ => rfl⟩
      rcases mem_advance member with old | rfl
      · exact old
      · exact absurd own (control _ turn)
  | @sleep other turn due =>
      refine ⟨rfl, rfl, fun _ member _ => member, fun _ _ => rfl, fun id own => ?_⟩
      have apart : other ≠ id := fun same => control _ turn (same ▸ own)
      simp [Roster.dues, List.filter_append, apart]
  | advance licensed => exact absurd licensed still
  | schedule licensed => exact absurd licensed still

/-! Shifts one after the other -/

theorem Shifts.onward (shifts : Shifts licence turn roster next) : roster.Onward next := by
  induction shifts with
  | refl => exact .refl _
  | tail _ shift previous => exact previous.trans shift.onward

theorem Shifts.seated (shifts : Shifts licence turn roster next)
    (control : ∀ id, turn = some id → id < roster.supervisor.nextId) (seated : roster.Seated) :
    next.Seated := by
  induction shifts with
  | refl => exact seated
  | tail before shift previous =>
      refine shift.seated (fun id turn => ?_) previous
      exact Nat.lt_of_lt_of_le (control id turn) (onward before).issued

theorem Shifts.untouched {spared : TaskId → Prop} (shifts : Shifts licence turn roster next)
    (still : ¬licence.cycles) (control : ∀ id, turn = some id → ¬spared id)
    (below : ∀ id, spared id → id < roster.supervisor.nextId) : roster.Untouched spared next := by
  induction shifts with
  | refl => exact .refl spared roster
  | tail before shift previous =>
      refine previous.trans (shift.untouched still control fun id own => ?_)
      exact Nat.lt_of_lt_of_le (below id own) (onward before).issued

end Shifts

end Roster

def roster (host : Host) : Roster where
  generation := host.generation
  clock := host.clock
  supervisor := host.supervisor
  awake := host.agenda.awake
  asleep := host.agenda.asleep

theorem spawn_roster {host : Host} {generation : Generation}
    (current : host.generation = generation) (name : String) (owner : Option String)
    (work : Work) : (after (spawn name generation owner work) host).roster = { host.roster with
      supervisor := (host.supervisor.add name generation owner work).1
      awake := host.agenda.awake ++ [host.supervisor.nextId] } := by
  have awake : ({ host.agenda with
      ready := host.agenda.ready ++ [.task host.supervisor.nextId] } : Agenda).awake =
        host.agenda.awake ++ [host.supervisor.nextId] :=
    List.filterMap_append
  rw [spawn, after_get_bind, if_pos current, ← awake]
  rfl

theorem sleepUntil_roster (due : Nat) (id : TaskId) (host : Host) :
    (after (sleepUntil due (.task id)) host).roster = { host.roster with
      asleep := host.agenda.asleep ++ [(due, id)] } := by
  have asleep : ({ host.agenda with
      sleeping := host.agenda.sleeping ++ [(due, .task id)] } : Agenda).asleep =
        host.agenda.asleep ++ [(due, id)] :=
    List.filterMap_append
  rw [← asleep]
  rfl

theorem sleepUntil_dues (due : Nat) (id : TaskId) (host : Host) :
    (after (sleepUntil due (.task id)) host).roster.dues id = host.roster.dues id ++ [due] := by
  rw [sleepUntil_roster]
  simp [Roster.dues, roster]

section Acts

open Roster

variable {licence : Licence} {turn : Option TaskId} {start : Roster}

private theorem Keeps.ofShift {α : Type} {step : Step α}
    (shift : ∀ host, Shift licence turn host.roster (after step host).roster) :
    Keeps (Shifts licence turn start ·.roster) step :=
  fun host path => path.tail (shift host)

private theorem spawn_shifts (name : String) (generation : Generation) (owner : Option String)
    (work : Work) :
    Keeps (Shifts licence turn start ·.roster) (spawn name generation owner work) := by
  intro host path
  by_cases current : host.generation = generation
  · rw [spawn_roster current]
    exact path.tail (.spawn name generation owner work)
  · rw [spawn, after_get_bind, if_neg current]
    exact path

private theorem shifts_managing : Managing (Shifts licence turn start ·.roster) where
  still _ _ _ _ _ path := path
  cancel _ := .ofShift fun _ => .drop _
  spawn := spawn_shifts

private theorem roster_of_works {host next : Host} (same : next.works = host.works) :
    next.roster = host.roster := by
  have parts := congrArg (fun works : Works => (works.services.generation, works.clock,
    works.services.supervisor, works.agenda)) same
  simp only [works, services, Prod.mk.injEq] at parts
  simp only [roster, parts]

private theorem roster_of_services {host next : Host} (same : next.services = host.services) :
    next.roster = { host.roster with
      clock := next.clock, awake := next.agenda.awake, asleep := next.agenda.asleep } := by
  have parts := congrArg
    (fun services : Services => (services.generation, services.supervisor)) same
  simp only [services, Prod.mk.injEq] at parts
  simp only [roster, parts]

private theorem requestReload_roster (host : Host) :
    (after requestReload host).roster = host.roster := by
  have looping : Looping (·.roster = host.roster) := by
    refine ⟨fun earlier later parts clock awake asleep same => ?_⟩
    rw [roster_of_services (services_of_parts parts), clock, awake, asleep]
    exact same
  exact looping.changeLoops ReloadLoops.request host rfl

theorem Act.shifts {moment next : Moment} (act : Act licence moment next) :
    Shifts licence moment.turn moment.host.roster next.host.roster := by
  cases act with
  | beside same => rw [roster_of_works same]
  | request => rw [Moment.next, requestReload_roster]
  | spawn name generation owner work => exact spawn_shifts name generation owner work _ .refl
  | cancelTask id => exact .single (.drop _)
  | cancelOwner owner => exact .single (.drop _)
  | dropTasks =>
      have emptied : Shift licence moment.turn moment.host.roster _ := .drop fun _ => false
      rw [List.filter_false] at emptied
      exact .single emptied
  | progress control point => exact .single (.progress control point)
  | sleep control due =>
      rw [Moment.next, sleepUntil_roster]
      exact .single (.sleep control due)
  | resumeManager kind => exact shifts_managing.resumeManager kind _ .refl
  | needManager kind generation => exact shifts_managing.needManager kind generation _ .refl
  | subscribe manager kind schema => exact shifts_managing.subscribe manager kind schema _ .refl
  | unsubscribe kind id => exact shifts_managing.unsubscribe kind id _ .refl
  | stopManager kind => exact shifts_managing.stopManager kind _ .refl
  | advance licensed => exact .single (.advance licensed)
  | loops licensed same still awake asleep =>
      rw [roster_of_services same, still, awake, asleep]
      exact .refl
  | schedule licensed same later fewer =>
      rw [roster_of_services same]
      exact .single (.schedule licensed ⟨rfl, rfl⟩ later fewer)
  | _ => exact .refl

end Acts

/-! ## Moments -/

structure Moment.Seated (moment : Moment) : Prop where
  roster : moment.host.roster.Seated
  control : ∀ id, moment.turn = some id → id < moment.host.supervisor.nextId

section Moments

variable {licence : Licence}

theorem Act.onward {moment next : Moment} (act : Act licence moment next) :
    moment.host.roster.Onward next.host.roster :=
  act.shifts.onward

theorem Act.control {moment next : Moment} (act : Act licence moment next) :
    next.turn = moment.turn ∨ ∀ id, next.turn = some id → licence.task id ∧
      ∃ task ∈ moment.host.supervisor.tasks, task.id = id := by
  cases act with
  | resume idle task tracked licensed =>
      refine .inr fun id control => ?_
      cases control
      exact ⟨licensed, task, tracked, rfl⟩
  | pause => exact .inr nofun
  | _ => exact .inl rfl

theorem Act.seated {moment next : Moment} (act : Act licence moment next)
    (seated : moment.Seated) : next.Seated where
  roster := act.shifts.seated seated.control seated.roster
  control := by
    intro id control
    refine Nat.lt_of_lt_of_le ?_ act.onward.issued
    rcases act.control with same | given
    · exact seated.control id (same ▸ control)
    · obtain ⟨-, task, tracked, rfl⟩ := given id control
      exact seated.roster.tracked task tracked

variable {start : Moment} {inside : List GateId} {turn : Option TaskId} {host : Host}

theorem Acting.onward (path : Acting licence start inside turn host) :
    start.host.roster.Onward host.roster :=
  Acting.keeps (fun moment => start.host.roster.Onward moment.host.roster)
    (fun _ _ act before => before.trans act.onward) path (.refl _)

theorem Acting.seated (path : Acting licence start inside turn host) (seated : start.Seated) :
    Moment.Seated ⟨inside, turn, host⟩ :=
  Acting.keeps Moment.Seated (fun _ _ act before => act.seated before) path seated

/-- Outside load cycles, acts leave the tasks alone that have no control and get none. -/
theorem Acting.untouched {spared : TaskId → Prop} (path : Acting licence start inside turn host)
    (still : ¬licence.cycles) (idle : ∀ id, spared id → ¬licence.task id)
    (control : ∀ id, start.turn = some id → ¬spared id)
    (below : ∀ id, spared id → id < start.host.supervisor.nextId) :
    start.host.roster.Untouched spared host.roster ∧ ∀ id, turn = some id → ¬spared id := by
  let fact (moment : Moment) : Prop := start.host.roster.Onward moment.host.roster ∧
    start.host.roster.Untouched spared moment.host.roster ∧
    ∀ id, moment.turn = some id → ¬spared id
  have holds : fact ⟨inside, turn, host⟩ := by
    refine Acting.keeps fact (fun moment next act holds => ?_) path ⟨.refl _, .refl _ _, control⟩
    obtain ⟨onward, untouched, control⟩ := holds
    refine ⟨onward.trans act.onward, untouched.trans ?_, fun id given own => ?_⟩
    · refine act.shifts.untouched still control fun id own => ?_
      exact Nat.lt_of_lt_of_le (below id own) onward.issued
    · rcases act.control with same | licensed
      · exact control id (same ▸ given) own
      · exact idle id own (licensed id given).1
  exact holds.2

theorem create_seated (config : ScriptingConfig) (dataDirectory : String) (tree : FileTree)
    (vocabulary : Vocabulary) (shelf : ScriptShelf) :
    Moment.Seated ⟨[], none, create config dataDirectory tree vocabulary shelf⟩ where
  roster := ⟨fun _ member => absurd member List.not_mem_nil,
    fun _ member => absurd member List.not_mem_nil⟩
  control := nofun

end Moments

end HomeRules.Host
