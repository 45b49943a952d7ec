import HomeRules.Proofs.Host.Duties
import Mathlib

/-!
# Action lists run on time

The timetable of an action list is what its text says: each action that is mentioned, at the
time of the dispatch and the sleeps before it. Whatever a host does after the dispatch, the
actions that were called and those that are still promised make up the timetable, and nothing
is called before its time or later.
-/

set_option autoImplicit false

namespace HomeRules.Host

/-- Neither the generation of an occasion was ended nor a task that waits with one of its lists. -/
structure Stage.Kept (occasion : Occasion) (stage : Stage) : Prop where
  generation : stage.moment.host.generation = occasion.generation
  tracked : ∀ duty ∈ stage.ledger.duties, (stage.moment.host.supervisor.task? duty.id).isSome

/-- What was called and what is promised make up the timetable, what was called is past, and
what is promised is not. Where nothing can go on, all was called whose time has come. The
ledger enters what the host does. -/
structure Stage.Scheduled (occasion : Occasion) (timetable : List (Nat × Action))
    (stage : Stage) : Prop where
  told : (stage.ledger.calls ++ stage.ledger.promised).Perm timetable
  past : ∀ call ∈ stage.ledger.calls, call.1 ≤ stage.moment.host.clock
  ahead : ∀ promise ∈ stage.ledger.promised, stage.moment.host.clock ≤ promise.1
  complete : stage.moment.host.agenda.ready = [] → stage.ledger.calls.Perm
    (timetable.filter (·.1 ≤ stage.moment.host.clock))
  faithful : stage.moment.turn = none → ∀ budget, ∀ worker ∈ stage.moment.host.agenda.ready,
    after (stage.ledger.work occasion budget worker) (after (pick worker) stage.moment.host) =
      after (runWorker budget worker) (after (pick worker) stage.moment.host)

/-! ## Along the turns -/

section Turns

variable {occasion : Occasion} {timetable : List (Nat × Action)} {stage next : Stage}

/-- A stage whose ledger is right and complete, unless the generation of the occasion is over. -/
private def Stage.Sound (occasion : Occasion) (timetable : List (Nat × Action))
    (stage : Stage) : Prop :=
  occasion.generation < stage.moment.host.generation ∨
    stage.ledger.Sound occasion stage.moment ∧ stage.ledger.entries.Perm timetable

private theorem Turn.generation_le (turn : Turn occasion stage next) :
    stage.moment.host.generation ≤ next.moment.host.generation := by
  cases turn with
  | act act => exact act.onward.generation
  | @work free budget worker ready =>
      have path : Acting .everything ⟨[], none, after (pick worker) stage.moment.host⟩ [] none
          (after (runWorker budget worker) (after (pick worker) stage.moment.host)) :=
        runWorker_acts trivial trivial (fun _ => trivial) budget worker _ .refl
      exact path.onward.generation
  | pass idle time early => exact Nat.le_refl _

private theorem Ledger.calls_of_told {ledger : Ledger} (told : ledger.entries.Perm timetable)
    (calls : ∀ entry ∈ timetable, entry.2.isDeferred = false) :
    ∀ duty ∈ ledger.duties, Action.Calls duty.actions := by
  intro duty member mention present
  have promised : mention.timed duty.due ∈ ledger.promised :=
    List.mem_flatMap.mpr ⟨duty, member, List.mem_map_of_mem present⟩
  exact calls _ (told.subset (List.mem_append_right _ promised))

private theorem Turn.sound (calls : ∀ entry ∈ timetable, entry.2.isDeferred = false)
    (turn : Turn occasion stage next) (sound : stage.Sound occasion timetable) :
    next.Sound occasion timetable := by
  rcases sound with past | ⟨sound, told⟩
  · exact .inl (Nat.lt_of_lt_of_le past turn.generation_le)
  cases turn with
  | act act => exact .inr ⟨sound.acts (.single act) id fun _ _ => id, told⟩
  | work free budget ready =>
      obtain ⟨ledger, inside, turn, host⟩ := stage
      subst free
      have worked := (work_sound sound (Ledger.calls_of_told told calls) budget ready).2
      exact worked.imp id fun ⟨later, same⟩ => ⟨later, same.trans told⟩
  | pass idle time early => exact .inr ⟨passTo_sound sound idle early, told⟩

private theorem turns_sound (calls : ∀ entry ∈ timetable, entry.2.isDeferred = false)
    (path : Relation.ReflTransGen (Turn occasion) stage next)
    (sound : stage.Sound occasion timetable) : next.Sound occasion timetable := by
  induction path with
  | refl => exact sound
  | tail _ turn previous => exact turn.sound calls previous

private theorem Duty.Waits.ahead {duty : Duty} {host : Host}
    (waits : duty.Waits occasion host.roster)
    (tracked : (host.supervisor.task? duty.id).isSome) :
    host.clock ≤ duty.due ∧ (host.agenda.ready = [] → host.clock < duty.due) := by
  obtain ⟨task, found⟩ := Option.isSome_iff_exists.mp tracked
  obtain ⟨present, named⟩ := Supervisor.of_task? found
  obtain ⟨-, -, delay, -, placed⟩ := waits task present named
  have busy (awake : host.roster.awake.count duty.id = 1) : host.agenda.ready ≠ [] := by
    intro idle
    rw [roster, awake_count, idle] at awake
    cases awake
  generalize task.progress = progress at placed
  cases placed with
  | fresh due awake =>
      exact ⟨due ▸ le_resumeTime host.clock delay, fun idle => absurd idle (busy awake)⟩
  | asleep rounds early => exact ⟨Nat.le_of_lt early, fun _ => early⟩
  | woken rounds now awake => exact ⟨Nat.le_of_eq now, fun idle => absurd idle (busy awake)⟩

/-- A stage that was kept so far is on schedule. -/
private theorem Stage.Sound.scheduled (calls : ∀ entry ∈ timetable, entry.2.isDeferred = false)
    (sound : stage.Sound occasion timetable) (kept : stage.Kept occasion) :
    stage.Scheduled occasion timetable := by
  rcases sound with past | ⟨sound, told⟩
  · exact absurd kept.generation (Nat.ne_of_gt past)
  have due {promise : Nat × Action} (promised : promise ∈ stage.ledger.promised) :
      ∃ duty ∈ stage.ledger.duties, duty.due ≤ promise.1 := by
    obtain ⟨duty, member, present⟩ := List.mem_flatMap.mp promised
    obtain ⟨mention, -, rfl⟩ := List.mem_map.mp present
    exact ⟨duty, member, mention.le_due duty.due⟩
  constructor
  case told => exact told
  case past => exact sound.past
  case ahead =>
    intro promise promised
    obtain ⟨duty, member, before⟩ := due promised
    exact Nat.le_trans ((sound.waits duty member).ahead (kept.tracked duty member)).1 before
  case complete =>
    intro idle
    have later : stage.ledger.promised.filter (·.1 ≤ stage.moment.host.clock) = [] := by
      rw [List.filter_eq_nil_iff]
      intro promise promised
      obtain ⟨duty, member, before⟩ := due promised
      have ahead := (sound.waits duty member).ahead (kept.tracked duty member)
      simpa using Nat.lt_of_lt_of_le (ahead.2 idle) before
    have past : stage.ledger.calls.filter (·.1 ≤ stage.moment.host.clock) =
        stage.ledger.calls := by
      rw [List.filter_eq_self]
      exact fun call member => decide_eq_true (sound.past call member)
    have come := told.filter (·.1 ≤ stage.moment.host.clock)
    rwa [Ledger.entries, List.filter_append, later, past, List.append_nil] at come
  case faithful =>
    intro free budget worker ready
    obtain ⟨ledger, inside, turn, host⟩ := stage
    subst free
    exact (work_sound sound (Ledger.calls_of_told told calls) budget ready).1

end Turns

/-! ## Dispatching -/

section Dispatching

variable {occasion : Occasion} {actions : List Action} (calls : Action.Calls actions)
  {moment : Moment} (current : moment.host.generation = occasion.generation) (depth : Nat)
  (restart : Bool)

private theorem dropPending_acts (due : Bool) (owner : Option String) :
    Acting .outside moment moment.inside moment.turn
      (after (dropPending due owner) moment.host) := by
  cases due with
  | false => exact .refl
  | true => exact restartOwner_acts owner moment.host .refl

private theorem dropPending_untouched (due : Bool) (owner : Option String) (host : Host) :
    host.roster.Untouched (fun _ => False) (after (dropPending due owner) host).roster := by
  have path : Acting .outside ⟨[], none, host⟩ [] none (after (dropPending due owner) host) :=
    dropPending_acts due owner
  exact (path.untouched id nofun nofun nofun).1

include calls current

private theorem dispatched_host :
    (dispatched depth occasion restart actions moment).moment.host =
      after (recount (publishWithin depth) occasion {} (Action.leavesOf actions))
        (after (dropPending restart occasion.owner) moment.host) := by
  have ready : after (readyEntry occasion restart (.unconditional actions)) moment.host =
      after (dropPending restart occasion.owner) moment.host := by
    simp [readyEntry, ConditionSchema.askedItems, ConditionSchema.matching]
  have due : moment.host.dueLeaves occasion (.unconditional actions) = Action.leavesOf actions := by
    simp [dueLeaves, ConditionSchema.matching]
  have now : (after (dropPending restart occasion.owner) moment.host).generation =
      occasion.generation :=
    (dropPending_untouched restart occasion.owner moment.host).generation.trans current
  change (ran (runEntry (publishWithin depth) occasion restart (.unconditional actions))
    moment.host).2 = _
  rw [ran_runEntry_ready restart _ current, ready, due, after_recount]
  exact congrArg Prod.snd (ran_leaves (publishWithin_reaches depth) now.symm .refl
    (fun leaf member => (calls.prompt leaf member).gives) _).2

omit current in
private theorem dispatched_calls :
    (dispatched depth occasion restart actions moment).ledger.calls =
      ((Action.mentionsOf actions).filter (·.sleeps.isEmpty)).map (·.timed moment.host.clock) := by
  have called : (dispatched depth occasion restart actions moment).ledger.calls = _ :=
    recount_calls (fun event => publishWithin_acts depth _ event) calls.prompt {} _
  have clock : (after (dropPending restart occasion.owner) moment.host).clock =
      moment.host.clock :=
    (dropPending_untouched restart occasion.owner moment.host).clock
  rw [called, clock, Action.mentionsOf_leavesOf]
  rfl

private theorem dispatched_sound (seated : moment.Seated) :
    (dispatched depth occasion restart actions moment).Sound occasion
      ((Action.mentionsOf actions).map (·.timed moment.host.clock)) := by
  have untouched := dropPending_untouched restart occasion.owner moment.host
  have fresh : Ledger.Sound occasion {}
      { moment with host := after (dropPending restart occasion.owner) moment.host } := by
    refine ⟨(dropPending_acts restart occasion.owner).seated seated,
      untouched.generation.trans current, .nil, ?_, ?_, ?_, ?_⟩
    all_goals exact fun _ member => absurd member List.not_mem_nil
  obtain ⟨sound, told⟩ :=
    recount_sound (fun event => publishWithin_acts depth _ event) calls.prompt fresh
  have host := dispatched_host calls current depth restart
  have clock : (after (dropPending restart occasion.owner) moment.host).clock =
    moment.host.clock := untouched.clock
  rw [clock, Action.mentionsOf_leavesOf] at told
  refine .inr ⟨?_, told⟩
  rw [← host] at sound
  exact sound

end Dispatching

/-! ## The schedule -/

section Scheduling

variable {occasion : Occasion} {begun : Stage} {inside : List GateId}

/-- Turns lead from a stage to a host, whatever the ledger says by then. -/
def Stage.Follows (occasion : Occasion) (begun : Stage) (inside : List GateId) (host : Host) :
    Prop :=
  ∃ ledger, Relation.ReflTransGen (Turn occasion) begun ⟨ledger, inside, none, host⟩

theorem follows_scheduling :
    Scheduling (begun.Follows occasion inside) (Picked (begun.Follows occasion inside)) :=
  .ofTurns
    (fun _ budget _ ready ⟨_, path⟩ => ⟨_, path.tail (.work rfl budget ready)⟩)
    (fun _ time idle early ⟨ledger, path⟩ => ⟨ledger, path.tail (.pass idle time early)⟩)

theorem advance_follows (budget milliseconds : Nat) :
    Keeps (begun.Follows occasion inside) (advance budget milliseconds) :=
  .read fun _ => follows_scheduling.advanceTo _ budget

end Scheduling

/-! ## Action lists -/

/-- What an accepted list says is put off by whole milliseconds, and it is called. -/
private theorem mentions_plain {scope : Scope} (synchronous : scope.vocabulary.Synchronous)
    {values : List Toml.Value} {mentions : List Mention} (expands : Expands scope values mentions) :
    ∀ mention ∈ mentions, mention.action.isDeferred = false ∧
      ∀ sleep ∈ mention.sleeps, ∃ count, sleep = .ofMilliseconds count := by
  refine expands.all ?_ ?_
  · exact fun name action known leaf member =>
      ⟨synchronous name action known leaf member, fun _ none => absurd none List.not_mem_nil⟩
  · rintro text delay mention read ⟨called, whole⟩
    refine ⟨called, fun sleep member => ?_⟩
    rcases List.mem_cons.mp member with rfl | later
    · obtain ⟨scale, -, read⟩ := Option.bind_eq_some_iff.mp read
      obtain ⟨count, -, read⟩ := Option.bind_eq_some_iff.mp read
      split at read
      · exact ⟨_, (Option.some.inj read).symm⟩
      · cases read
    · exact whole sleep later

/-- An accepted action list runs as it is written. Its text expands to mentions of actions, each
behind its sleeps. The dispatch calls the actions that are behind none, in their order; and as
long as the generation lasts and none of its tasks is ended, whatever else the host does, every
mentioned action is called just once, after the sum of its sleeps as far as the clock can tell
it, and nothing else is called. -/
theorem actions_run_as_written {scope : Scope} (synchronous : scope.vocabulary.Synchronous)
    {values : List Toml.Value} {actions : List Action}
    (accepted : (do (← scope.actions values).normalize) = .ok actions) :
    ∃ mentions, Expands scope values mentions ∧
      (∀ mention ∈ mentions, ∀ start, isTellable start mention.delay →
        mention.due start = start + mention.delay.toMilliseconds) ∧
      ∀ (config : ScriptingConfig) (dataDirectory : String) (tree : FileTree)
        (vocabulary : Vocabulary) (shelf : ScriptShelf) (start : Moment),
        Acting .everything ⟨[], none, create config dataDirectory tree vocabulary shelf⟩
          start.inside start.turn start.host →
        ∀ occasion : Occasion, start.host.generation = occasion.generation →
        ∀ (depth : Nat) (restart : Bool),
        let begun := dispatched depth occasion restart actions start
        begun.ledger.calls =
            (mentions.filter (·.sleeps.isEmpty)).map (·.timed start.host.clock) ∧
          begun.moment.host = after
            (recount (publishWithin depth) occasion {} (Action.leavesOf actions))
            (after (dropPending restart occasion.owner) start.host) ∧
          ∀ stage, Relation.ReflTransGen (Turn occasion) begun stage → stage.Kept occasion →
            stage.Scheduled occasion (mentions.map (·.timed start.host.clock)) := by
  have expands := Scope.actions_expand synchronous accepted
  have plain := mentions_plain synchronous expands
  refine ⟨_, expands, fun mention member start => mention.due_eq (plain mention member).2, ?_⟩
  intro config dataDirectory tree vocabulary shelf start reached occasion current depth restart
  have calls : Action.Calls actions := fun mention member => (plain mention member).1
  refine ⟨dispatched_calls calls depth restart, dispatched_host calls current depth restart,
    fun stage path kept => ?_⟩
  have prompt : ∀ entry ∈ (Action.mentionsOf actions).map (·.timed start.host.clock),
      entry.2.isDeferred = false := by
    rintro _ member
    obtain ⟨mention, present, rfl⟩ := List.mem_map.mp member
    exact calls mention present
  have seated : start.Seated := reached.seated (create_seated ..)
  have sound := turns_sound prompt path (dispatched_sound calls current depth restart seated)
  exact sound.scheduled prompt kept

/-- Names for a lamp that is switched. -/
def lampScope : Scope where
  vocabulary := .ofLists [] [.call "on" [.report], .call "off" [.report]]

theorem lampScope_synchronous : lampScope.vocabulary.Synchronous := by
  intro name action known leaf member
  have listed : lampScope.vocabulary.actions =
      [("off", .call "off" [.report]), ("on", .call "on" [.report])] := rfl
  rw [Vocabulary.action, listed] at known
  simp only [Dictionary.get?] at known
  split_ifs at known with off on
  · cases known
    cases List.mem_singleton.mp member
    rfl
  · cases known
    cases List.mem_singleton.mp member
    rfl

/-- A list that is dispatched on a new host. -/
def newlyDispatched (actions : List Action) : Stage :=
  dispatched 1 { generation := 0 } false actions ⟨[], none, create {} "" {} {} []⟩

theorem actions_run_as_written_lamp :
    ∃ stage, Relation.ReflTransGen (Turn { generation := 0 }) (newlyDispatched
        [.call "on" [.report], .after (.ofMilliseconds 5) [.call "off" [.report]]]) stage ∧
      stage.moment.host.clock = 5 ∧
      stage.ledger.calls.Perm [(0, .call "on" [.report]), (5, .call "off" [.report])] := by
  have accepted : (do
      (← lampScope.actions [.string "on", .string "sleep:5ms", .string "off"]).normalize) =
      .ok [.call "on" [.report], .after (.ofMilliseconds 5) [.call "off" [.report]]] := by
    cbv
  obtain ⟨mentions, expands, -, schedule⟩ :=
    actions_run_as_written lampScope_synchronous accepted
  obtain rfl : mentions = [{ action := .call "on" [.report] },
      { sleeps := [.ofMilliseconds 5], action := .call "off" [.report] }] :=
    (Scope.actions_expand lampScope_synchronous accepted).unique expands
  obtain ⟨-, -, scheduled⟩ := schedule {} "" {} {} []
    ⟨[], none, create {} "" {} {} []⟩ .refl { generation := 0 } rfl 1 false
  -- The task is given control, sleeps, and is given control again when it is due.
  have begun : Relation.ReflTransGen (Turn { generation := 0 }) (newlyDispatched
      [.call "on" [.report], .after (.ofMilliseconds 5) [.call "off" [.report]]]) _ := .refl
  have asleep := begun.tail (.work rfl 0 (List.mem_singleton_self (Worker.task 0)))
  have woken := asleep.tail (.pass rfl 5 (by decide))
  have ended := woken.tail (.work rfl 0 (List.mem_singleton_self (Worker.task 0)))
  obtain ⟨stage, path, kept, idle, now⟩ : ∃ stage, Relation.ReflTransGen
      (Turn { generation := 0 }) (newlyDispatched _) stage ∧ stage.Kept { generation := 0 } ∧
        stage.moment.host.agenda.ready = [] ∧ stage.moment.host.clock = 5 :=
    ⟨_, ended, ⟨rfl, fun _ member => absurd member List.not_mem_nil⟩, rfl, rfl⟩
  have called := (scheduled stage path kept).complete idle
  rw [now] at called
  refine ⟨stage, path, now, called.trans (.of_eq ?_)⟩
  cbv

/-- A sleep that no clock can tell the end of is over after thirty years. -/
theorem longest_sleep_cut_short :
    (do (← lampScope.actions [.string "sleep:18446744073709551615s",
      .string "off"]).normalize) =
        .ok [.after (.ofSeconds 18446744073709551615) [.call "off" [.report]]] ∧
      Expands lampScope [.string "sleep:18446744073709551615s", .string "off"]
        [{ sleeps := [.ofSeconds 18446744073709551615], action := .call "off" [.report] }] ∧
      (after (advance 10 946080000000) (newlyDispatched
        [.after (.ofSeconds 18446744073709551615) [.call "off" [.report]]]).moment.host).journal =
          [⟨946080000000, .ran "off"⟩] ∧
      (Duration.ofSeconds 18446744073709551615).toMilliseconds ≠ 946080000000 := by
  have accepted : (do (← lampScope.actions [.string "sleep:18446744073709551615s",
      .string "off"]).normalize) =
        .ok [.after (.ofSeconds 18446744073709551615) [.call "off" [.report]]] := by
    cbv
  refine ⟨accepted, Scope.actions_expand lampScope_synchronous accepted, ?_, by decide⟩
  cbv

end HomeRules.Host
