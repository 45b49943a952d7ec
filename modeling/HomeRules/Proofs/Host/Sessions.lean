import HomeRules.Proofs.Host.Turns

/-!
# Sessions with one loop

A host that starts one loop, and in which nobody else runs load cycles, is a service until it is
shut down.
-/

set_option autoImplicit false

namespace HomeRules

namespace Host

/-! ## The watcher and the runner -/

namespace Clocked

variable {fact : Host → Prop} (clocked : Clocked fact)
include clocked

theorem sleepWatcher (watcher : Watcher) : Keeps fact (sleepWatcher watcher) :=
  .bind (clocked.ofStill fun _ => rfl) fun _ => clocked.sleepUntil _ rfl

theorem runWatcher : Keeps fact runWatcher := by
  refine .get fun host holds => ?_
  split
  · exact holds
  · dsimp only
    split
    · exact clocked.still host _ rfl rfl rfl rfl holds
    split
    · exact Keeps.bind clocked.request (fun _ => clocked.sleepWatcher _) host holds
    · exact clocked.sleepWatcher _ host holds

theorem startWatcher (scanner : Option Scanner) (interval : Nat) :
    Keeps fact (startWatcher scanner interval) := by
  cases scanner with
  | none => exact .pure _
  | some scanner =>
      unfold Host.startWatcher
      dsimp only
      split
      · exact .pure _
      · exact .read fun _ => clocked.sleepWatcher _

end Clocked

/-- The runner shuts the host down, or goes on waiting for a reason to do so. -/
theorem serve_shuts (budget : Nat) (loop : LoopId) (host : Host) :
    (after (serve budget loop) host).loops.shutDown = true ∨
      after (serve budget loop) host = host := by
  have retired : Leads (fun _ => True) (shutDown budget) fun _ host =>
      host.loops.shutDown = true :=
    fun host _ => shutDown_shut budget host
  rw [serve, after_get_bind]
  split
  · refine .inl (Leads.bind retired (fun _ => Keeps.leads ?_) host trivial)
    refine .bind (fun _ shut => shut) fun _ => ?_
    split
    · exact fun _ shut => shut
    · exact .bind (fun _ shut => shut) fun _ _ shut => shut
  · exact .inr rfl

/-- What a turn of the runner comes to: it loads the scripts for the first time, shuts the host
down, or leaves the loops alone. -/
inductive RunnerTurn (budget : Nat) (host next : Host) : Prop where
  | opens (isFresh : host.runner.point = .fresh) (opening : next = after (openService budget) host)
  | shuts (shut : next.loops.shutDown = true)
  | aside (loops : next.loops = host.loops) (clock : next.clock = host.clock)
      (rota : next.agenda.rota = host.agenda.rota)
      (point : next.runner.point = .fresh → host.runner.point = .fresh)

theorem runRunner_turn (budget : Nat) (host : Host) :
    RunnerTurn budget host (after (runRunner budget) host) := by
  rw [runRunner, after_get_bind]
  dsimp only
  split
  case h_1 isFresh =>
    split
    · exact .opens isFresh rfl
    · exact .aside rfl rfl (wake_rota rfl host) fun _ => isFresh
  case h_2 =>
    rw [idle, after_get_bind]
    split
    · exact .aside rfl rfl rfl nofun
    · exact .aside rfl rfl rfl id
  case h_3 loop _ =>
    rcases serve_shuts budget loop host with shut | same
    · exact .shuts shut
    · rw [same]
      exact .aside rfl rfl rfl id
  case h_4 loop _ =>
    rw [drain, after_get_bind]
    cases host.loops.ending? loop with
    | none => exact .aside rfl rfl rfl id
    | some outcome => exact .aside rfl rfl rfl nofun
  case h_5 => exact .aside rfl rfl rfl id

/-- A runner that loads the scripts for the first time. -/
def Opening (point : RunnerPoint) (absent : Bool) : Prop :=
  point = .fresh ∧ absent = true

/-- A runner that loads the scripts for the first time only as long as there is no loop. -/
def Opened (point : RunnerPoint) (absent : Bool) : Prop :=
  point = .fresh → absent = true

section Running

variable {start : Host} (fresh : start.loops = {})

theorem Attends.moved {shape : RunnerPoint → Bool → Prop} {host next : Host}
    (attends : Attends start false shape host) (loops : next.loops = host.loops)
    (agenda : next.agenda = host.agenda) (later : next.runner.point ≠ .fresh) :
    Attends start false Opened next := by
  rcases attends with shut | ⟨attended, _⟩
  · exact .inl (loops ▸ shut)
  · exact .inr ⟨attended.aside loops (congrArg Agenda.loops agenda),
      fun fresh => absurd fresh later⟩

include fresh

theorem attends_opening : Unturned (Attends start false Opening) where
  toBystanding := attends_bystanding fresh
  shut _ := .inl
  alone := by
    intro host attends
    rcases attends with shut | ⟨attended, _, absent⟩
    · exact .inl shut
    · rcases attended.agenda with none | ⟨_, _, _, present⟩
      · exact .inr none
      · exact absurd (List.isEmpty_iff.mp absent) present

/-- The first load, before there is a loop. -/
theorem reload_attends (budget : Nat) :
    Leads (Attends start false Opening) (reload budget) fun _ host =>
      host.loops.shutDown = true ∨
        (Attended start false host ∧ Opening host.runner.point host.loops.points.isEmpty) ∧
          host.loops.occupied = false := by
  have occupied : Keeps (Attends start false Opening) (changeLoops ReloadLoops.occupy) := by
    intro host attends
    rw [changeLoops_of_none rfl]
    rcases attends with shut | ⟨⟨⟨history, reached⟩, listed⟩, opening, absent⟩
    · exact .inl shut
    · have loaded := reached.tail (.load (List.isEmpty_iff.mp absent))
      rw [changeLoops_of_none rfl] at loaded
      exact .inr ⟨⟨⟨history, loaded⟩, listed⟩, opening, absent⟩
  intro host attends
  rw [after_reload]
  have cycled := (attends_opening fresh).runCycle budget _ (occupied host attends)
  revert cycled
  generalize after (runCycle budget) (after (changeLoops ReloadLoops.occupy) host) = later
  intro attends
  rcases shut_or_live attends with shut | ⟨live, attended, opening, empty⟩
  · exact .inl (release_shut later shut)
  have absent := List.isEmpty_iff.mp empty
  have released := (attended.placed fresh live).release_of_absent absent
  obtain ⟨⟨history, reached⟩, listed⟩ := attended
  have loaded := reached.tail (.loaded absent)
  rw [changeLoops_of_none (congrArg Prod.snd released)] at loaded ⊢
  rw [released] at loaded ⊢
  exact .inr ⟨⟨⟨⟨history, loaded⟩, listed⟩, opening, empty⟩, rfl⟩

theorem startLoop_attends {shape : RunnerPoint → Bool → Prop} {host : Host}
    (shaped : shape host.runner.point false) (attended : Attended start false host)
    (absent : host.loops.points = []) (idle : host.loops.occupied = false) :
    Attends start false shape (after startLoop host) := by
  rcases Bool.eq_false_or_eq_true host.loops.shutDown with shut | live
  · exact .inl shut
  have queue := (attended.placed fresh live).queue_of_absent absent
  obtain ⟨⟨history, reached⟩, listed⟩ := attended
  have started : after startLoop host =
      after (wake (.reloadLoop 0)) { host with loops := host.loops.start.1 } := by
    have first : host.loops.points.length = 0 := List.length_eq_zero_iff.mpr absent
    change after (wake (.reloadLoop host.loops.points.length)) _ = _
    rw [first]
    rfl
  have next := reached.tail (.start absent idle)
  rw [started] at next ⊢
  have present : host.loops.start.1.points ≠ [] := List.append_ne_nil_of_right_ne_nil _ (by simp)
  refine .inr ⟨⟨⟨history, next⟩, ?_⟩, ?_⟩
  · rcases listed with none | ⟨_, _, _, already⟩
    · exact .inr ⟨loops_wake none 0, rfl, queue, present⟩
    · exact absurd absent already
  · change shape host.runner.point host.loops.start.1.points.isEmpty
    rw [List.isEmpty_eq_false_iff.mpr present]
    exact shaped

theorem openService_attends (budget : Nat) :
    Leads (Attends start false Opening) (openService budget) fun _ =>
      Attends start false Opened := by
  refine fun host attends => ?_
  have loaded := reload_attends fresh budget host attends
  rw [openService, after_get_bind, after_bind]
  cases answer (reload budget) host with
  | error error =>
      have kept : Attends start false Opening (after (reload budget) host) := by
        rcases loaded with shut | ⟨attended, _⟩
        · exact .inl shut
        · exact .inr attended
      exact kept.moved rfl rfl (by simp [finishRunner])
  | ok report =>
      have started : Attends start false (fun _ _ => True)
          (after startLoop (after (reload budget) host)) := by
        rcases loaded with shut | ⟨⟨attended, _, empty⟩, idle⟩
        · exact .inl shut
        · exact startLoop_attends fresh trivial attended (List.isEmpty_iff.mp empty) idle
      have watching : Bystanding (Attends start false fun _ _ => True) := attends_bystanding fresh
      have serving : Bystanding (Attends start false Opened) := attends_bystanding fresh
      have watched := watching.clocked.startWatcher (initialScanner host)
        host.runner.config.hotReloadInterval _ started
      exact serving.wake rfl _ (watched.moved rfl rfl (by simp))

/-- Each time the runner is given control, it takes steps of a service or shuts the host
down. -/
theorem runRunner_attends (budget : Nat) :
    Keeps (Attends start false Opened) (runRunner budget) := by
  intro host attends
  cases runRunner_turn budget host with
  | opens isFresh opening =>
      rw [opening]
      refine openService_attends fresh budget host ?_
      rcases attends with shut | ⟨attended, opened⟩
      · exact .inl shut
      · exact .inr ⟨attended, isFresh, opened isFresh⟩
  | shuts shut => exact .inl shut
  | aside loops _ rota point =>
      rcases attends with shut | ⟨attended, opened⟩
      · exact .inl (loops ▸ shut)
      · exact .inr ⟨attended.aside loops (Agenda.loops_of_rota rota),
          fun isFresh => loops ▸ opened (point isFresh)⟩

/-! ## The schedule -/

theorem runWorker_attends (budget : Nat) (worker : Worker) :
    Leads (Taken start Opened (some worker)) (runWorker budget worker) fun _ =>
      Attends start false Opened := by
  have aside : Bystanding (Attends start false Opened) := attends_bystanding fresh
  cases worker with
  | task id => exact aside.acts fun _ => runTask_acts trivial
  | reloadLoop id =>
      intro host taken
      rcases taken with shut | ⟨rfl, turning⟩
      · exact .inl (runLoop_shut budget id host shut)
      · exact runLoop_attends fresh budget host turning
  | watcher => exact aside.clocked.runWatcher
  | runner => exact runRunner_attends fresh budget

omit fresh in
/-- Time changes the order of the agenda at most. -/
theorem passTo_attends (time : Nat) : Keeps (Attends start false Opened) (passTo time) := by
  intro host attends
  have shuffled : (after (passTo time) host).agenda.loops.Perm host.agenda.loops := by
    refine List.Perm.filterMap _ ?_
    change ((host.agenda.ready ++ (host.agenda.sleeping.partition (·.1 ≤ time)).1.map (·.2)) ++
      (host.agenda.sleeping.partition (·.1 ≤ time)).2.map (·.2)).Perm _
    rw [List.append_assoc, ← List.map_append, List.partition_eq_filter_filter]
    exact List.Perm.append_left _ ((List.filter_append_perm _ _).map _)
  rcases attends with shut | ⟨⟨⟨history, reached⟩, listed⟩, opened⟩
  · exact .inl shut
  · refine .inr ⟨⟨⟨history, reached.tail (.aside rfl)⟩, ?_⟩, opened⟩
    rcases listed with none | ⟨one, rest⟩
    · rw [none] at shuffled
      exact .inl shuffled.eq_nil
    · rw [one] at shuffled
      exact .inr ⟨List.perm_singleton.mp shuffled, rest⟩

theorem attends_scheduling : Scheduling (Attends start false Opened) (Taken start Opened) where
  take := takeReady_attends
  work := runWorker_attends fresh
  idle _ attends := attends
  pass time host attends _ := passTo_attends time host attends

end Running

/-! ## Whole sessions -/

end Host

/-- What is done without running a load cycle or starting a loop. -/
def Operation.Steady : Operation → Prop
  | .reload _ | .startLoop | .startRunner => False
  | _ => True

namespace Host

theorem operate_attends {start : Host} (fresh : start.loops = {}) {operation : Operation}
    (steady : operation.Steady) : Keeps (Attends start false Opened) (operate operation) := by
  have aside : Bystanding (Attends start false Opened) := attends_bystanding fresh
  cases operation with
  | shutDown budget => exact fun host _ => .inl (shutDown_shut budget host)
  | requestStop =>
      refine .bind (fun host attends => ?_) fun _ => aside.wake rfl
      rcases attends with shut | ⟨attended, opened⟩
      · exact .inl shut
      · exact .inr ⟨attended.aside rfl rfl, opened⟩
  | settle budget => exact (attends_scheduling fresh).settle budget
  | advance budget milliseconds =>
      exact .read fun _ => (attends_scheduling fresh).advanceTo _ budget
  | awaitRunner budget => exact (attends_scheduling fresh).awaitRunner budget
  | reload budget => exact steady.elim
  | startLoop => exact steady.elim
  | startRunner => exact steady.elim
  | _ => exact aside.acts fun _ => operate_aside trivial (.inr trivial)

theorem opening_attends (config : ScriptingConfig) (dataDirectory : String) (tree : FileTree)
    (vocabulary : Vocabulary) (shelf : ScriptShelf) {opening : Operation}
    (opens : opening = .startRunner ∨ opening = .startLoop) :
    let start := create config dataDirectory tree vocabulary shelf
    Attends start false Opened (after (operate opening) start) := by
  intro start
  have fresh : start.loops = {} := rfl
  have aside : Bystanding (Attends start false Opened) := attends_bystanding fresh
  have attended : Attended start false start := ⟨⟨[], .refl⟩, .inl rfl⟩
  rcases opens with rfl | rfl
  · have ready : Attends start false Opened (after (moveRunner .fresh) start) :=
      .inr ⟨attended.aside rfl rfl, fun _ => rfl⟩
    exact aside.wake rfl _ ready
  · exact startLoop_attends fresh (fun isFresh => by cases isFresh) attended rfl rfl

/-- Whatever is done to a host after its loop, or the runner that starts it, was started, takes
it along the steps of a service until it is shut down. -/
theorem session_serves (config : ScriptingConfig) (dataDirectory : String) (tree : FileTree)
    (vocabulary : Vocabulary) (shelf : ScriptShelf) {opening : Operation}
    (opens : opening = .startRunner ∨ opening = .startLoop) {operations : List Operation}
    (steady : ∀ operation ∈ operations, operation.Steady) :
    let start := create config dataDirectory tree vocabulary shelf
    let host := after (run (opening :: operations)) start
    host.loops.shutDown = true ∨ ∃ history, Service.Reachable start { host, history } := by
  intro start host
  have fresh : start.loops = {} := rfl
  have opened := opening_attends config dataDirectory tree vocabulary shelf opens
  have ran : Attends start false Opened host :=
    Keeps.forM_of_mem (fun operation member => operate_attends fresh (steady operation member)) _
      opened
  rcases ran with shut | ⟨⟨reached, _⟩, _⟩
  · exact .inl shut
  · exact .inr reached

/-- In every service that is not shut down, no request is lost and requests coalesce; and until
it is shut down, a host in which one loop is started, and nobody else runs load cycles, is such
a service. -/
theorem reloads_coalesce (config : ScriptingConfig) (dataDirectory : String) (tree : FileTree)
    (vocabulary : Vocabulary) (shelf : ScriptShelf) :
    let start := create config dataDirectory tree vocabulary shelf
    (∀ service, Service.Reachable start service → service.host.loops.shutDown = false →
      service.Coalesces) ∧
    ∀ opening, opening = .startRunner ∨ opening = .startLoop → ∀ operations,
      (∀ operation ∈ operations, operation.Steady) →
        let host := after (run (opening :: operations)) start
        host.loops.shutDown = true ∨ ∃ history, Service.Reachable start { host, history } := by
  intro start
  constructor
  · intro service reached live
    exact reached.coalesces rfl live
  · intro opening opens operations steady
    exact session_serves config dataDirectory tree vocabulary shelf opens steady

/-- Of a host only the loops matter to a service. -/
private theorem reachable_of_loops {start : Host} {service next : Service}
    (reached : Service.Reachable start service) (loops : next.host.loops = service.host.loops)
    (cycling : next.cycling = service.cycling) (history : next.history = service.history) :
    Service.Reachable start next := by
  have same : next = { service with host := next.host } := by
    rw [← cycling, ← history]
  rw [same]
  exact reached.tail (.aside loops)

theorem reloads_coalesce_burst :
    let start := create {} "" {} {} []
    (∃ service : Service, Service.Reachable start service ∧
      service.host.loops.shutDown = false ∧
      service.history = [.requested, .turned, .turned, .began, .requested, .requested, .ended] ∧
      service.Coalesces) ∧
    ∃ history, Service.Reachable start
      { host := after (run [.startLoop, .requestReload]) start, history } := by
  intro start
  obtain ⟨coalesces, serves⟩ := reloads_coalesce {} "" {} {} []
  -- Each host of the trace is brought back to a small one.
  let seen (loops : ReloadLoops) : Host := { start with loops }
  have asked : Service.Reachable start
      { host := seen { points := [.starting], permit := true, pending := true }
        history := [.requested] } :=
    reachable_of_loops ((Relation.ReflTransGen.refl.tail (.start rfl rfl)).tail .request)
      rfl rfl rfl
  have turned : Service.Reachable start
      { host := seen { points := [.testing], pending := true }
        history := [.requested, .turned, .turned] } :=
    reachable_of_loops ((asked.tail (.turn rfl (List.cons_ne_nil _ _) rfl)).tail
      (.turn rfl (List.cons_ne_nil _ _) rfl)) rfl rfl rfl
  have entered : Service.Reachable start
      { host := seen { points := [.testing], occupied := true }
        cycling := true
        history := [.requested, .turned, .turned, .began] } :=
    reachable_of_loops (turned.tail (.enter rfl rfl)) rfl rfl rfl
  have left : Service.Reachable start
      { host := seen { points := [.testing], permit := true, pending := true }
        history := [.requested, .turned, .turned, .began, .requested, .requested, .ended] } :=
    reachable_of_loops (((entered.tail .request).tail .request).tail (.leave rfl)) rfl rfl rfl
  constructor
  · exact ⟨_, left, rfl, rfl, coalesces _ left rfl⟩
  · have served := serves .startLoop (.inr rfl) [.requestReload] fun operation member => by
      rw [List.mem_singleton.mp member]
      trivial
    exact served.resolve_left fun shut => by cases shut

end Host

end HomeRules
