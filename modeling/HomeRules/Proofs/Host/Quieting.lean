import HomeRules.Proofs.Host.Course
import HomeRules.Proofs.Host.Sessions

/-!
# What befalls a loop

Between its turns a loop notices nothing but requests, which wake it when it is blocked, and the
time. While it sleeps it is given no control before its sleep is over, whatever else the host
does.
-/

set_option autoImplicit false

namespace HomeRules

/-! ## Places -/

/-- Whether a loop that is found there waits to be woken, or will look for a permit before it
serves anything. -/
def LoopPoint.resting : Option LoopPoint → Bool
  | none | some .starting | some .blocked | some .woken => true
  | _ => false

namespace ReloadLoops

/-- Where the first loop is, if it was started. -/
def place (loops : ReloadLoops) : Option LoopPoint :=
  loops.points[0]?

namespace Placed

variable {cycling : Bool} {loops : ReloadLoops}

theorem place_request (placed : Placed cycling loops) :
    loops.request.1.place = loops.place ∨
      loops.place = some .blocked ∧ loops.request.1.place = some .woken := by
  cases placed with
  | blocked => exact .inr ⟨rfl, rfl⟩
  | _ => exact .inl rfl

theorem queue_of_debouncing (placed : Placed cycling loops)
    (asleep : loops.place = some .debouncing) : loops.queue = [] := by
  cases placed with
  | debouncing => rfl
  | _ => cases asleep

theorem place_of_cycle {debounced : Bool} (placed : Placed false loops)
    (enters : (loops.step 0 debounced).2 = .cycle) : loops.place = some .testing := by
  cases placed with
  | @starting permit pending left => cases permit <;> cases debounced <;> cases enters
  | woken => cases debounced <;> cases enters
  | testing => rfl
  | _ => cases enters

end Placed

end ReloadLoops

namespace Agenda

variable {agenda : Agenda}

theorem mem_rota_ready {id : LoopId} : id ∈ agenda.rota.1 ↔ .reloadLoop id ∈ agenda.ready := by
  constructor
  · intro member
    obtain ⟨worker, ready, same⟩ := List.mem_filterMap.mp member
    cases worker <;> cases same
    exact ready
  · exact fun ready => List.mem_filterMap.mpr ⟨_, ready, rfl⟩

theorem mem_rota_sleeping {sleeper : Nat × LoopId} :
    sleeper ∈ agenda.rota.2 ↔ (sleeper.1, .reloadLoop sleeper.2) ∈ agenda.sleeping := by
  constructor
  · intro member
    obtain ⟨⟨due, worker⟩, asleep, same⟩ := List.mem_filterMap.mp member
    cases worker <;> cases same
    exact asleep
  · exact fun asleep => List.mem_filterMap.mpr ⟨_, asleep, rfl⟩

end Agenda

namespace Host

/-! ## Sleeping loops -/

/-- No loop is given control before a time. -/
structure Dozes (host : Host) (due : Nat) : Prop where
  ready : ∀ id, .reloadLoop id ∈ host.agenda.ready → due ≤ host.clock
  sleeping : ∀ time id, (time, .reloadLoop id) ∈ host.agenda.sleeping → due ≤ time

theorem Dozes.of_rota {host next : Host} {due : Nat} (dozes : host.Dozes due)
    (clock : next.clock = host.clock) (rota : next.agenda.rota = host.agenda.rota) :
    next.Dozes due where
  ready id ready := by
    rw [clock]
    exact dozes.ready id (Agenda.mem_rota_ready.mp (rota ▸ Agenda.mem_rota_ready.mpr ready))
  sleeping time id asleep := by
    have member : (time, id) ∈ next.agenda.rota.2 := Agenda.mem_rota_sleeping.mpr asleep
    rw [rota] at member
    exact dozes.sleeping time id (Agenda.mem_rota_sleeping.mp member)

/-- What a loop that was given no control finds afterwards: it may have been woken or started, and
if it sleeps it goes on sleeping. -/
structure Bides (host next : Host) : Prop where
  clock : host.clock ≤ next.clock
  resting : LoopPoint.resting next.loops.place = LoopPoint.resting host.loops.place
  testing : next.loops.place = some .testing → host.loops.place = some .testing
  dozes : next.loops.place = some .debouncing → host.loops.place = some .debouncing ∧
    ∀ due, host.Dozes due → next.Dozes due

theorem Bides.trans {host middle next : Host} (first : Bides host middle)
    (second : Bides middle next) : Bides host next where
  clock := Nat.le_trans first.clock second.clock
  resting := second.resting.trans first.resting
  testing := first.testing ∘ second.testing
  dozes asleep := by
    obtain ⟨asleep, onward⟩ := second.dozes asleep
    obtain ⟨asleep, before⟩ := first.dozes asleep
    exact ⟨asleep, fun due dozes => onward due (before due dozes)⟩

theorem passTo_bides (time : Nat) (host : Host) : Bides host (after (passTo time) host) := by
  refine ⟨Nat.le_max_left _ _, rfl, id, fun asleep => ⟨asleep, fun due dozes => ⟨?_, ?_⟩⟩⟩
  · intro id ready
    rw [passTo, after_modify] at ready ⊢
    dsimp only at ready ⊢
    rw [List.partition_eq_filter_filter, List.mem_append, List.mem_map] at ready
    rcases ready with ready | ⟨⟨wakes, worker⟩, member, rfl⟩
    · exact Nat.le_trans (dozes.ready id ready) (Nat.le_max_left _ _)
    · -- That sleep is over by then.
      obtain ⟨member, past⟩ := List.mem_filter.mp member
      have early := dozes.sleeping wakes id member
      exact Nat.le_trans early (Nat.le_trans (of_decide_eq_true past) (Nat.le_max_right _ _))
  · intro wakes id asleep
    rw [passTo, after_modify] at asleep
    dsimp only at asleep
    rw [List.partition_eq_filter_filter] at asleep
    exact dozes.sleeping wakes id (List.mem_filter.mp asleep).1

/-! ## Turns of others -/

/-- What happens beside the loop: requests may wake it, and it keeps its place on the agenda as long
as it is not blocked. -/
structure Beside (host next : Host) : Prop where
  placed : ReloadLoops.Placed false next.loops
  place : next.loops.place = host.loops.place ∨
    host.loops.place = some .blocked ∧ next.loops.place = some .woken
  clock : next.clock = host.clock
  rota : host.loops.queue = [] → next.loops.queue = [] ∧ next.agenda.rota = host.agenda.rota

theorem Beside.refl {host : Host} (placed : ReloadLoops.Placed false host.loops) :
    Beside host host :=
  ⟨placed, .inl rfl, rfl, fun unblocked => ⟨unblocked, rfl⟩⟩

theorem changeLoops_clock (change : ReloadLoops → ReloadLoops × Option LoopId) (host : Host) :
    (after (changeLoops change) host).clock = host.clock := by
  have kept : Keeps (·.clock = host.clock) (changeLoops change) :=
    .bind (fun _ same => same) fun _ => .option_forM (fun _ _ same => same) _
  exact kept host rfl

section Turns

variable {host next : Host}

theorem beside_clocked : Clocked (Beside host) where
  still earlier later loops _ clock rota beside := by
    obtain ⟨placed, place, still, unblocked⟩ := beside
    rw [← loops] at placed place
    refine ⟨placed, place, clock.trans still, fun queue => ?_⟩
    rw [loops, rota]
    exact unblocked queue
  request := by
    intro next beside
    have asked : (after requestReload next).loops = next.loops.request.1 := changeLoops_loops _ _
    refine ⟨asked ▸ beside.placed.request, ?_, (changeLoops_clock _ _).trans beside.clock, ?_⟩
    · rw [asked]
      rcases beside.placed.place_request with same | ⟨blocked, woken⟩
      · rw [same]
        exact beside.place
      · refine .inr ⟨?_, woken⟩
        rcases beside.place with same | ⟨before, _⟩
        · exact same.symm.trans blocked
        · exact before
    · intro queue
      obtain ⟨unblocked, rota⟩ := beside.rota queue
      obtain ⟨silent, kept⟩ := beside.placed.request_wakes.resolve_right fun woken =>
        woken.1 unblocked
      rw [requestReload, changeLoops_of_none silent]
      exact ⟨kept.trans unblocked, rota⟩

theorem Beside.bides (placed : ReloadLoops.Placed false host.loops) (beside : Beside host next) :
    Bides host next := by
  refine ⟨Nat.le_of_eq beside.clock.symm, ?_, ?_, ?_⟩
  · rcases beside.place with same | ⟨blocked, woken⟩
    · rw [same]
    · rw [blocked, woken]
      rfl
  · intro testing
    rcases beside.place with same | ⟨-, woken⟩
    · exact same.symm.trans testing
    · cases woken.symm.trans testing
  · intro asleep
    rcases beside.place with same | ⟨-, woken⟩
    · have before := same.symm.trans asleep
      obtain ⟨-, rota⟩ := beside.rota (placed.queue_of_debouncing before)
      exact ⟨before, fun due dozes => dozes.of_rota beside.clock rota⟩
    · cases woken.symm.trans asleep

end Turns

theorem runWorker_clock (budget : Nat) (worker : Worker) (host : Host) :
    host.clock ≤ (after (runWorker budget worker) host).clock := by
  have path : Acting .everything ⟨[], none, host⟩ [] none (after (runWorker budget worker) host) :=
    runWorker_acts trivial trivial (fun _ => trivial) budget worker host .refl
  exact path.onward.clock

section Running

variable {start : Host} (fresh : start.loops = {})
include fresh

/-- The first load starts a loop, unless it fails. -/
theorem openService_place (budget : Nat) :
    Leads (Attends start false Opening) (openService budget) fun _ later =>
      later.loops.shutDown = true ∨ later.loops.place = none ∨
        later.loops.place = some .starting := by
  intro host attends
  have loaded := reload_attends fresh budget host attends
  rw [openService, after_get_bind, after_bind]
  cases answer (reload budget) host with
  | error error =>
      rcases loaded with shut | ⟨⟨_, _, absent⟩, _⟩
      · exact .inl shut
      · refine .inr (.inl ?_)
        change (after (reload budget) host).loops.points[0]? = none
        rw [List.isEmpty_iff.mp absent]
        rfl
  | ok report =>
      have kept (loops : ReloadLoops) (loop : LoopId) : Keeps (·.loops = loops) (do
          startWatcher (initialScanner host) host.runner.config.hotReloadInterval
          moveRunner (.serving loop)
          wake .runner) := by
        refine .bind ?_ fun _ => .bind (fun _ same => same) fun _ _ same => same
        unfold startWatcher
        split
        · exact .pure _
        · split
          · exact .pure _
          · exact .read fun _ => .bind (fun _ same => same) fun _ _ same => same
      have started := kept (after startLoop (after (reload budget) host)).loops
        (answer startLoop (after (reload budget) host)) _ rfl
      rw [after_bind, started]
      rcases loaded with shut | ⟨⟨_, _, absent⟩, _⟩
      · exact .inl shut
      · refine .inr (.inr ?_)
        change ((after (reload budget) host).loops.points ++ [.starting])[0]? = _
        rw [List.isEmpty_iff.mp absent]
        rfl

theorem openService_bides (budget : Nat) {host : Host}
    (attends : Attends start false Opening host) (absent : host.loops.place = none) :
    (after (openService budget) host).loops.shutDown = true ∨
      Bides host (after (openService budget) host) := by
  have path : Acting .everything ⟨[], none, host⟩ [] none (after (openService budget) host) :=
    (acting_recurring trivial trivial fun _ => trivial).openService budget host .refl
  have rests : LoopPoint.resting host.loops.place = true := by
    rw [absent]
    rfl
  rcases openService_place fresh budget host attends with shut | here | here
  · exact .inl shut
  all_goals
    refine .inr ⟨path.onward.clock, ?_, fun testing => ?_, fun asleep => ?_⟩
    · rw [rests, here]
      rfl
    · cases here.symm.trans testing
    · cases here.symm.trans asleep

theorem runRunner_bides (budget : Nat) {host : Host} (live : host.loops.shutDown = false)
    (attends : Attends start false Opened host) :
    (after (runRunner budget) host).loops.shutDown = true ∨
      Bides host (after (runRunner budget) host) := by
  obtain ⟨attended, opened⟩ := attends.resolve_left (by simp [live])
  have placed := attended.placed fresh live
  cases runRunner_turn budget host with
  | opens isFresh opening =>
      rw [opening]
      refine openService_bides fresh budget (.inr ⟨attended, isFresh, opened isFresh⟩) ?_
      rw [ReloadLoops.place, List.isEmpty_iff.mp (opened isFresh)]
      rfl
  | shuts shut => exact .inl shut
  | aside loops clock rota _ =>
      exact .inr <| Beside.bides placed ⟨loops ▸ placed, .inl (congrArg _ loops), clock,
        fun unblocked => ⟨loops ▸ unblocked, rota⟩⟩

/-- Workers other than the loop leave the loop alone, or shut the host down. -/
theorem runWorker_bides (budget : Nat) {worker : Worker} (other : worker.loop? = none)
    {host : Host} (live : host.loops.shutDown = false) (attends : Attends start false Opened host) :
    (after (runWorker budget worker) host).loops.shutDown = true ∨
      Bides host (after (runWorker budget worker) host) := by
  obtain ⟨attended, opened⟩ := attends.resolve_left (by simp [live])
  have placed := attended.placed fresh live
  cases worker with
  | task id =>
      have ran : Keeps (Beside host) (runTask id) := beside_clocked.acts fun _ => runTask_acts trivial
      exact .inr ((ran host (.refl placed)).bides placed)
  | reloadLoop id => cases other
  | watcher => exact .inr ((beside_clocked.runWatcher host (.refl placed)).bides placed)
  | runner => exact runRunner_bides fresh budget live (.inr ⟨attended, opened⟩)

end Running

/-! ## Turns of the loop -/

/-- What a turn of the loop in which no cycle begins comes to, by where the loop is and by the time:
it waits, it begins or ends a quiet period, or there is nothing to serve. -/
inductive LoopTurn (place : Option LoopPoint) (now : Nat) (debounce : Duration) (next : Host) :
    Prop where
  | wait (idle : next.loops.pending = false) (there : next.loops.place = some .blocked)
  | sleep (rested : LoopPoint.resting place = true) (there : next.loops.place = some .debouncing)
      (dozes : next.Dozes (resumeTime now debounce))
  | hurry (rested : LoopPoint.resting place = true) (there : next.loops.place = some .testing)
      (quiet : resumeTime now debounce = now)
  | rouse (here : place = some .debouncing) (there : next.loops.place = some .testing)
  | serve (idle : next.loops.pending = false) (there : next.loops.place = some .starting)
  | stay (error : Option HostError) (here : place = some (.finished error))
      (there : next.loops.place = some (.finished error))

theorem sleepUntil_dozes {host : Host} (none : host.agenda.loops = []) (due : Nat) (id : LoopId) :
    (after (sleepUntil due (.reloadLoop id)) host).Dozes due where
  ready other ready := absurd ready (not_mem_of_loops_eq_nil none other)
  sleeping time other asleep := by
    rcases List.mem_append.mp asleep with before | new
    · have listed : other ∈ host.agenda.loops := List.mem_filterMap.mpr
        ⟨.reloadLoop other, List.mem_append_right _ (List.mem_map_of_mem before), rfl⟩
      rw [none] at listed
      cases listed
    · cases List.mem_singleton.mp new
      exact Nat.le_refl _

theorem continueLoop_turn {host : Host} (placed : ReloadLoops.Placed false host.loops)
    (none : host.agenda.loops = []) (present : host.loops.points ≠ [])
    (unblocked : host.loops.queue = []) (passes : answer (continueLoop 0) host = false) :
    (after (continueLoop 0) host).clock = host.clock ∧
      LoopTurn host.loops.place host.clock host.reloading.debounce
        (after (continueLoop 0) host) := by
  rw [answer_continueLoop, decide_eq_false_iff_not] at passes
  have asleep (loops : ReloadLoops) (lasting : host.reloading.debounce.isZero = false) :
      Dozes (after (sleepUntil (wakeTime host.clock host.reloading.debounce) (.reloadLoop 0))
        { host with loops }) (resumeTime host.clock host.reloading.debounce) := by
    rw [resumeTime, lasting, if_neg Bool.false_ne_true]
    exact @sleepUntil_dozes { host with loops } none _ 0
  have hurries (zero : host.reloading.debounce.isZero = true) :
      resumeTime host.clock host.reloading.debounce = host.clock := by
    rw [resumeTime, zero]
    rfl
  rw [after_continueLoop]
  generalize host.loops = loops at placed present unblocked passes
  cases placed with
  | absent left => exact absurd rfl present
  | blocked => cases unblocked
  | @starting permit pending left =>
      cases permit with
      | false =>
          cases pending with
          | false => exact ⟨rfl, .wait rfl rfl⟩
          | true => cases left rfl
      | true =>
          cases zero : host.reloading.debounce.isZero with
          | false => exact ⟨rfl, .sleep rfl rfl (asleep _ zero)⟩
          | true => exact ⟨rfl, .hurry rfl rfl (hurries zero)⟩
  | woken =>
      cases zero : host.reloading.debounce.isZero with
      | false => exact ⟨rfl, .sleep rfl rfl (asleep _ zero)⟩
      | true => exact ⟨rfl, .hurry rfl rfl (hurries zero)⟩
  | debouncing => exact ⟨rfl, .rouse rfl rfl⟩
  | @testing permit pending =>
      cases pending with
      | false => exact ⟨rfl, .serve rfl rfl⟩
      | true => exact absurd rfl passes
  | finished error => exact ⟨rfl, .stay error rfl rfl⟩

section Serving

variable {start : Host} (fresh : start.loops = {})
include fresh

/-- Where a loop is after its cycle. -/
theorem finish_place {host next : Host} (attends : Attends start true (fun _ _ => True) host)
    (result : Except HostError CycleReport) (finished : next = after (match result with
      | .error error => if error.isFatal then abortLoop 0 error else wakeFirst (.reloadLoop 0)
      | .ok _ => wakeFirst (.reloadLoop 0)) (after (changeLoops ReloadLoops.release) host)) :
    next.loops.shutDown = true ∨ next.loops.place = some .testing ∨
      ∃ error, next.loops.place = some (.finished error) := by
  subst finished
  rcases shut_or_live attends with shut | ⟨live, attended, -⟩
  · have released := release_shut host shut
    refine .inl ?_
    split
    · split <;> exact released
    · exact released
  have points : (after (changeLoops ReloadLoops.release) host).loops.points = [.testing] := by
    rw [changeLoops_loops]
    exact (attended.placed fresh live).leave.2.1
  have left : (after (wakeFirst (.reloadLoop 0))
      (after (changeLoops ReloadLoops.release) host)).loops.place = some .testing := by
    change (after (changeLoops ReloadLoops.release) host).loops.points[0]? = _
    rw [points]
    rfl
  cases result with
  | ok report => exact .inr (.inl left)
  | error error =>
      dsimp only
      split
      · refine .inr (.inr ⟨some error, ?_⟩)
        change ((after (changeLoops ReloadLoops.release) host).loops.points.set 0 _)[0]? = _
        rw [points]
        rfl
      · exact .inr (.inl left)

/-- A loop begins a cycle when it tests for requests and there are some. It tests again after the
cycle, unless it is over. -/
theorem runLoop_cycle (budget : Nat) {host : Host} (live : host.loops.shutDown = false)
    (attended : Attended start false host) (none : host.agenda.loops = [])
    (due : answer (continueLoop 0) host = true) :
    host.loops.pending = true ∧ host.loops.place = some .testing ∧
      ((after (runLoop budget 0) host).loops.shutDown = true ∨
        (after (runLoop budget 0) host).loops.place = some .testing ∨
        ∃ error, (after (runLoop budget 0) host).loops.place = some (.finished error)) := by
  have placed := attended.placed fresh live
  have enters := due
  rw [answer_continueLoop, decide_eq_true_iff] at enters
  refine ⟨(placed.enter enters).1, placed.place_of_cycle enters, ?_⟩
  have began : Attends start true (fun _ _ => True)
      (after (changeLoops ReloadLoops.occupy) (after (continueLoop 0) host)) :=
    .inr ⟨enter_attends attended none due, trivial⟩
  rw [runLoop, after_bind, due, if_pos rfl, after_bind, after_reload]
  exact finish_place fresh ((attends_cycling fresh).runCycle budget _ began) _ rfl

end Serving

end Host

end HomeRules
