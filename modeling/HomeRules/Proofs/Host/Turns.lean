import HomeRules.Proofs.Host.Bystanding
import HomeRules.Proofs.Host.Coalescing

/-!
# Turns of the loop

A host in which one loop serves the requests is a service. While the loop runs a cycle it is on
no agenda, so that nothing gives it control before the cycle ends.
-/

set_option autoImplicit false

namespace HomeRules

namespace Host

/-! ## Cycles without a loop on the agenda -/

/-- A bystanding fact of hosts that have no loop on their agenda until they are shut down. -/
structure Unturned (fact : Host → Prop) : Prop extends Bystanding fact where
  shut : ∀ host : Host, host.loops.shutDown = true → fact host
  alone : ∀ host : Host, fact host → host.loops.shutDown = true ∨ host.agenda.loops = []

theorem continueLoop_shutDown (id : LoopId) (host : Host) :
    (after (continueLoop id) host).loops.shutDown = host.loops.shutDown := by
  rw [continueLoop_loops, ReloadLoops.step_shutDown]

theorem not_mem_of_loops_eq_nil {agenda : Agenda} (none : agenda.loops = []) (id : LoopId) :
    .reloadLoop id ∉ agenda.ready := by
  intro member
  have listed : id ∈ agenda.loops :=
    List.mem_filterMap.mpr ⟨.reloadLoop id, List.mem_append_left _ member, rfl⟩
  rw [none] at listed
  cases listed

namespace Unturned

variable {fact : Host → Prop} (unturned : Unturned fact)
include unturned

/-- No loop is given control beside a cycle, unless the host is shut down. -/
theorem takeBesideCycle : Leads fact takeBesideCycle fun worker host =>
    fact host ∧ ∀ id, worker = some (.reloadLoop id) → host.loops.shutDown = true := by
  intro host holds
  rw [Host.takeBesideCycle, after_modifyGet]
  change fact _ ∧ ∀ id, host.agenda.ready.find? (runsBesideCycle host.loops) = _ → _
  have aside := unturned.toBystanding
  rcases unturned.alone host holds with shut | none
  · exact ⟨unturned.shut _ shut, fun _ _ => shut⟩
  · constructor
    · refine aside.still host _ rfl rfl ?_ holds
      have silent := List.filterMap_eq_nil_iff.mp none
      rw [none]
      refine List.filterMap_eq_nil_iff.mpr fun worker member => silent worker ?_
      rcases List.mem_append.mp member with ready | asleep
      · refine List.mem_append_left _ ?_
        cases found : host.agenda.ready.find? (runsBesideCycle host.loops) with
        | none => rwa [found] at ready
        | some first =>
            rw [found] at ready
            exact List.mem_of_mem_erase ready
      · exact List.mem_append_right _ asleep
    · intro id found
      exact absurd (List.mem_of_find?_eq_some found) (not_mem_of_loops_eq_nil none id)

theorem runReady (budget : Nat) : Keeps fact (runReady budget) := by
  refine runReady_keeps unturned.takeBesideCycle ?_ ?_ (fun _ _ taken => taken.1) budget
  · intro id host taken
    have ran : Keeps fact (runTask id) :=
      unturned.toBystanding.acts fun _ => runTask_acts trivial
    exact ran host taken.1
  · intro id host taken
    have shut := taken.2 id rfl
    rw [← continueLoop_shutDown id host] at shut
    exact unturned.shut _ shut

theorem stop (budget : Nat) : Keeps fact (stop budget) := by
  have aside := unturned.toBystanding
  exact .bind (aside.acts fun _ => stopRegistry_acts) fun _ =>
    .bind (unturned.runReady budget) fun _ =>
    .read fun _ => .bind (aside.acts fun _ => cancelAll_acts _) fun _ => .read fun _ =>
    .bind (aside.ofStill fun _ => rfl) fun _ => .pure _

theorem runCycle (budget : Nat) : Keeps fact (runCycle budget) := by
  have aside := unturned.toBystanding
  have entered (phase : CyclePhase) : Keeps fact (enterPhase phase) :=
    aside.ofStill fun _ => rfl
  refine .read fun host => ?_
  split
  · exact .pure _
  refine .bind (aside.ofStill fun _ => rfl) fun generation => .bind (entered _) fun _ =>
    .bind (unturned.stop budget) fun _ => .bind (entered _) fun _ =>
    .bind aside.unloadAll fun _ => .bind (entered _) fun _ =>
    .bind (aside.acts fun _ => loadAll_acts generation) fun _ =>
    .bind (unturned.runReady budget) fun _ => ?_
  split
  · exact .pure _
  · exact .bind (aside.ofStill fun _ => rfl) fun _ =>
      .bind (aside.acts fun _ => resumeRegistry_acts _) fun _ =>
      .bind (aside.acts fun _ => finishCycle_acts _) fun _ => .pure _

end Unturned

/-! ## The loop on the agenda -/

theorem loops_split {agenda : Agenda} (none : agenda.loops = []) :
    agenda.ready.filterMap Worker.loop? = [] ∧
      (agenda.sleeping.map (·.2)).filterMap Worker.loop? = [] := by
  rw [Agenda.loops, List.filterMap_append] at none
  exact List.append_eq_nil_iff.mp none

theorem loops_wake {host : Host} (none : host.agenda.loops = []) (id : LoopId) :
    (after (wake (.reloadLoop id)) host).agenda.loops = [id] := by
  obtain ⟨ready, asleep⟩ := loops_split none
  change Agenda.loops { host.agenda with ready := host.agenda.ready ++ [.reloadLoop id] } = [id]
  simp only [Agenda.loops, List.filterMap_append, ready, asleep]
  rfl

theorem loops_wakeFirst {host : Host} (none : host.agenda.loops = []) (id : LoopId) :
    (after (wakeFirst (.reloadLoop id)) host).agenda.loops = [id] := by
  change (.reloadLoop id :: (host.agenda.ready ++ _)).filterMap Worker.loop? = [id]
  exact congrArg (id :: ·) none

theorem loops_sleepUntil {host : Host} (none : host.agenda.loops = []) (due : Nat) (id : LoopId) :
    (after (sleepUntil due (.reloadLoop id)) host).agenda.loops = [id] := by
  obtain ⟨ready, asleep⟩ := loops_split none
  change Agenda.loops
    { host.agenda with sleeping := host.agenda.sleeping ++ [(due, .reloadLoop id)] } = [id]
  simp only [Agenda.loops, List.map_append, List.filterMap_append, ready, asleep]
  rfl

section Loops

variable {change : ReloadLoops → ReloadLoops × Option LoopId} {host : Host}

theorem changeLoops_of_none (silent : (change host.loops).2 = none) :
    after (changeLoops change) host = { host with loops := (change host.loops).1 } := by
  change after ((change host.loops).2.forM fun id => wake (.reloadLoop id)) _ = _
  rw [silent]
  rfl

theorem changeLoops_of_some {id : LoopId} (woken : (change host.loops).2 = some id) :
    after (changeLoops change) host =
      after (wake (.reloadLoop id)) { host with loops := (change host.loops).1 } := by
  change after ((change host.loops).2.forM fun id => wake (.reloadLoop id)) _ = _
  rw [woken]
  rfl

theorem changeLoops_runner (change : ReloadLoops → ReloadLoops × Option LoopId) (host : Host) :
    (after (changeLoops change) host).runner = host.runner := by
  cases woken : (change host.loops).2 with
  | none => rw [changeLoops_of_none woken]
  | some id =>
      rw [changeLoops_of_some woken]
      rfl

end Loops

/-! ## Hosts that serve -/

/-- A host that a service has come to. The loop is on the agenda only while it waits for its
turn. -/
structure Attended (start : Host) (cycling : Bool) (host : Host) : Prop where
  reached : ∃ history, Service.Reachable start { host, cycling, history }
  agenda : host.agenda.loops = [] ∨ host.agenda.loops = [0] ∧ cycling = false ∧
    host.loops.queue = [] ∧ host.loops.points ≠ []

/-- A host that serves until it is shut down. `shape` tells how far the runner may be, also
while there is no loop yet. -/
def Attends (start : Host) (cycling : Bool) (shape : RunnerPoint → Bool → Prop)
    (host : Host) : Prop :=
  host.loops.shutDown = true ∨
    Attended start cycling host ∧ shape host.runner.point host.loops.points.isEmpty

theorem shut_or_live {host : Host} {fact : Prop} (either : host.loops.shutDown = true ∨ fact) :
    host.loops.shutDown = true ∨ host.loops.shutDown = false ∧ fact := by
  cases live : host.loops.shutDown with
  | true => exact .inl rfl
  | false => exact .inr ⟨rfl, either.resolve_left (by simp [live])⟩

section Serving

variable {start : Host} (fresh : start.loops = {}) {cycling : Bool}
  {shape : RunnerPoint → Bool → Prop}

theorem Attended.aside {host next : Host} (attended : Attended start cycling host)
    (loops : next.loops = host.loops) (agenda : next.agenda.loops = host.agenda.loops) :
    Attended start cycling next := by
  obtain ⟨⟨history, reached⟩, listed⟩ := attended
  refine ⟨⟨history, reached.tail (.aside loops)⟩, ?_⟩
  rw [agenda, loops]
  exact listed

include fresh

theorem Attended.placed {host : Host} (attended : Attended start cycling host)
    (live : host.loops.shutDown = false) : ReloadLoops.Placed cycling host.loops := by
  obtain ⟨⟨history, reached⟩, _⟩ := attended
  exact (reached.tended fresh live).placed

theorem Attended.request {host : Host} (attended : Attended start cycling host)
    (live : host.loops.shutDown = false) :
    Attended start cycling (after requestReload host) := by
  have placed := attended.placed fresh live
  obtain ⟨⟨history, reached⟩, listed⟩ := attended
  refine ⟨⟨_, reached.tail .request⟩, ?_⟩
  rcases placed.request_wakes with ⟨silent, queue⟩ | ⟨blocked, woken, resting, queue, present⟩
  · rw [requestReload, changeLoops_of_none silent]
    rcases listed with none | ⟨one, resting, unblocked, present⟩
    · exact .inl none
    · refine .inr ⟨one, resting, queue.trans unblocked, fun absent => present ?_⟩
      have same := placed.isEmpty_request
      rw [absent] at same
      exact List.isEmpty_iff.mp same.symm
  · rcases listed with none | ⟨_, _, unblocked, _⟩
    · rw [requestReload, changeLoops_of_some woken]
      exact .inr ⟨loops_wake none 0, resting, queue, present⟩
    · exact absurd unblocked blocked

theorem attends_bystanding : Bystanding (Attends start cycling shape) where
  still := by
    intro host next loops runner agenda attends
    rcases attends with shut | ⟨attended, shaped⟩
    · exact .inl (loops ▸ shut)
    · refine .inr ⟨attended.aside loops agenda, ?_⟩
      rw [runner, loops]
      exact shaped
  request := by
    intro host attends
    have loops : (after requestReload host).loops = host.loops.request.1 :=
      changeLoops_loops _ _
    rcases shut_or_live attends with shut | ⟨live, attended, shaped⟩
    · refine .inl ?_
      rw [loops, ReloadLoops.request_shutDown]
      exact shut
    · refine .inr ⟨attended.request fresh live, ?_⟩
      rw [requestReload, changeLoops_runner, ← requestReload, loops,
        (attended.placed fresh live).isEmpty_request]
      exact shaped

theorem attends_cycling : Unturned (Attends start true shape) where
  toBystanding := attends_bystanding fresh
  shut _ := .inl
  alone := by
    intro host attends
    rcases attends with shut | ⟨attended, _⟩
    · exact .inl shut
    · rcases attended.agenda with none | ⟨_, resting, _⟩
      · exact .inr none
      · cases resting

end Serving

/-! ## After a shutdown -/

theorem shut_unturned : Unturned (·.loops.shutDown = true) where
  still := fun _ _ loops _ _ shut => loops ▸ shut
  request := by
    intro host shut
    rw [requestReload, changeLoops_loops, ReloadLoops.request_shutDown]
    exact shut
  shut _ shut := shut
  alone _ shut := .inl shut

theorem release_shut : Keeps (·.loops.shutDown = true) (changeLoops ReloadLoops.release) := by
  intro host shut
  rw [changeLoops_loops, ReloadLoops.release_shutDown]
  exact shut

theorem reload_shut (budget : Nat) : Keeps (·.loops.shutDown = true) (reload budget) := by
  have occupied : Keeps (·.loops.shutDown = true) (changeLoops ReloadLoops.occupy) := by
    intro host shut
    rw [changeLoops_loops]
    exact shut
  exact .bind occupied fun _ => .bind (shut_unturned.runCycle budget) fun _ =>
    .bind release_shut fun _ => .pure _

theorem runLoop_shut (budget : Nat) (id : LoopId) :
    Keeps (·.loops.shutDown = true) (runLoop budget id) := by
  have continued : Keeps (·.loops.shutDown = true) (continueLoop id) := by
    intro host shut
    rw [continueLoop_shutDown]
    exact shut
  refine .bind continued fun due => ?_
  split
  · refine .bind (reload_shut budget) fun result => ?_
    split
    · split
      · exact .bind (fun _ shut => shut) fun _ _ shut => shut
      · exact fun _ shut => shut
    · exact fun _ shut => shut
  · exact .pure _

theorem shutDown_shut (budget : Nat) (host : Host) :
    (after (shutDown budget) host).loops.shutDown = true := by
  have aside := shut_unturned.toBystanding
  have retired : (after (changeLoops ReloadLoops.retire) host).loops.shutDown = true := by
    rw [changeLoops_loops, ReloadLoops.retire_shutDown]
  have entered (phase : CyclePhase) : Keeps (·.loops.shutDown = true) (enterPhase phase) :=
    fun _ shut => shut
  have finished : Keeps (·.loops.shutDown = true) (do
      let _ ← advanceGeneration
      enterPhase .stopping
      let _ ← stop budget
      enterPhase .unloading
      unloadAll
      enterPhase .idle) :=
    .bind (fun _ shut => shut) fun _ => .bind (entered _) fun _ =>
      .bind (shut_unturned.stop budget) fun _ => .bind (entered _) fun _ =>
      .bind aside.unloadAll fun _ => entered _
  exact finished _ retired

/-! ## The turns of the loop -/

theorem after_reload (budget : Nat) (host : Host) :
    after (reload budget) host = after (changeLoops ReloadLoops.release)
      (after (runCycle budget) (after (changeLoops ReloadLoops.occupy) host)) := rfl

theorem continueLoop_of_due {id : LoopId} {host : Host}
    (due : answer (continueLoop id) host = true) :
    after (continueLoop id) host =
      { host with loops := (host.loops.step id !host.reloading.debounce.isZero).1 } := by
  rw [answer_continueLoop] at due
  rw [after_continueLoop]
  dsimp only
  rw [of_decide_eq_true due]

theorem continueLoop_runner (id : LoopId) (host : Host) :
    (after (continueLoop id) host).runner = host.runner := by
  rw [after_continueLoop]
  obtain ⟨loops, move⟩ := host.loops.step id !host.reloading.debounce.isZero
  cases move <;> rfl

/-- After a turn the loop is on the agenda if it waits for another one. -/
theorem continueLoop_agenda (id : LoopId) {host : Host} (none : host.agenda.loops = []) :
    (after (continueLoop id) host).agenda.loops = [] ∨
      (after (continueLoop id) host).agenda.loops = [id] ∧
        ((host.loops.step id !host.reloading.debounce.isZero).2 = .sleep ∨
          (host.loops.step id !host.reloading.debounce.isZero).2 = .continue) := by
  rw [after_continueLoop]
  obtain ⟨loops, move⟩ := host.loops.step id !host.reloading.debounce.isZero
  have same : ({ host with loops } : Host).agenda.loops = [] := none
  cases move with
  | wait => exact .inl none
  | finish => exact .inl ((wake_agenda rfl _).trans same)
  | sleep => exact .inr ⟨loops_sleepUntil same _ id, .inl rfl⟩
  | «continue» => exact .inr ⟨loops_wakeFirst same id, .inr rfl⟩
  | cycle => exact .inl none

section Serving

variable {start : Host} (fresh : start.loops = {}) {shape : RunnerPoint → Bool → Prop}

/-- A host whose loop was just taken off the agenda, to be given control. -/
def Turning (start : Host) (shape : RunnerPoint → Bool → Prop) (host : Host) : Prop :=
  host.loops.shutDown = true ∨ Attended start false host ∧ host.agenda.loops = [] ∧
    host.loops.points ≠ [] ∧ shape host.runner.point false

theorem enter_attends {host : Host} (attended : Attended start false host)
    (none : host.agenda.loops = []) (due : answer (continueLoop 0) host = true) :
    Attended start true
      (after (changeLoops ReloadLoops.occupy) (after (continueLoop 0) host)) := by
  obtain ⟨⟨history, reached⟩, _⟩ := attended
  refine ⟨⟨_, reached.tail (.enter rfl due)⟩, .inl ?_⟩
  rw [changeLoops_of_none rfl, continueLoop_of_due due]
  exact none

/-- A host whose worker was just taken off the agenda, to be given control. -/
def Taken (start : Host) (shape : RunnerPoint → Bool → Prop) : Option Worker → Host → Prop
  | some (.reloadLoop id), host => host.loops.shutDown = true ∨ id = 0 ∧ Turning start shape host
  | _, host => Attends start false shape host

include fresh

theorem continueLoop_attends {host : Host} (live : host.loops.shutDown = false)
    (attended : Attended start false host) (none : host.agenda.loops = [])
    (present : host.loops.points ≠ []) (passes : answer (continueLoop 0) host = false) :
    Attended start false (after (continueLoop 0) host) := by
  have placed := attended.placed fresh live
  obtain ⟨⟨history, reached⟩, _⟩ := attended
  refine ⟨⟨_, reached.tail (.turn rfl present passes)⟩, ?_⟩
  rcases continueLoop_agenda 0 none with empty | ⟨one, waits⟩
  · exact .inl empty
  · refine .inr ⟨one, rfl, ?_⟩
    rw [continueLoop_loops]
    exact ⟨placed.queue_pass waits, placed.present_pass present⟩

theorem leave_attends {host : Host} (live : host.loops.shutDown = false)
    (attended : Attended start true host) :
    Attended start false
      (after (wakeFirst (.reloadLoop 0)) (after (changeLoops ReloadLoops.release) host)) := by
  have placed := attended.placed fresh live
  obtain ⟨silent, queue⟩ := placed.release_wakes
  obtain ⟨⟨history, reached⟩, listed⟩ := attended
  refine ⟨⟨_, (reached.tail (.leave rfl)).tail (.aside rfl)⟩, ?_⟩
  rcases listed with none | ⟨_, resting, _⟩
  · rw [changeLoops_of_none silent]
    refine .inr ⟨loops_wakeFirst none 0, rfl, queue, ?_⟩
    change host.loops.release.1.points ≠ []
    rw [placed.leave.2.1]
    exact List.cons_ne_nil _ _
  · cases resting

theorem abort_attends {host : Host} (live : host.loops.shutDown = false)
    (attended : Attended start true host) (error : HostError) :
    Attended start false
      (after (abortLoop 0 error) (after (changeLoops ReloadLoops.release) host)) := by
  have placed := attended.placed fresh live
  obtain ⟨silent, queue⟩ := placed.release_wakes
  obtain ⟨⟨history, reached⟩, listed⟩ := attended
  refine ⟨⟨_, reached.tail (.abort rfl error)⟩, ?_⟩
  rcases listed with none | ⟨_, resting, _⟩
  · refine .inl ?_
    rw [changeLoops_of_none silent]
    exact (wake_agenda rfl _).trans none
  · cases resting

theorem finish_attends {host : Host} (attends : Attends start true shape host)
    (result : Except HostError CycleReport) :
    Attends start false shape
      (after (match result with
        | .error error =>
          if error.isFatal then abortLoop 0 error else wakeFirst (.reloadLoop 0)
        | .ok _ => wakeFirst (.reloadLoop 0))
        (after (changeLoops ReloadLoops.release) host)) := by
  rcases shut_or_live attends with shut | ⟨live, attended, shaped⟩
  · have released := release_shut host shut
    refine .inl ?_
    split
    · split <;> exact released
    · exact released
  have placed := attended.placed fresh live
  have reshaped {next : Host} (runner : next.runner = host.runner)
      (present : next.loops.points ≠ []) :
      shape next.runner.point next.loops.points.isEmpty := by
    rw [runner, List.isEmpty_eq_false_iff.mpr present, ← placed.present]
    exact shaped
  have left : Attends start false shape
      (after (wakeFirst (.reloadLoop 0)) (after (changeLoops ReloadLoops.release) host)) := by
    refine .inr ⟨leave_attends fresh live attended, reshaped (changeLoops_runner _ host) ?_⟩
    change (after (changeLoops ReloadLoops.release) host).loops.points ≠ []
    rw [changeLoops_loops, placed.leave.2.1]
    exact List.cons_ne_nil _ _
  cases result with
  | ok report => exact left
  | error error =>
      dsimp only
      split
      · refine .inr ⟨abort_attends fresh live attended error,
          reshaped (changeLoops_runner _ host) ?_⟩
        change ((after (changeLoops ReloadLoops.release) host).loops.finish 0 _).points ≠ []
        rw [changeLoops_loops]
        obtain ⟨ended, failed⟩ := placed.abort error
        exact fun absent => ended.not_over absent failed
      · exact left

/-- Each time the loop is given control, it takes steps of a service. -/
theorem runLoop_attends (budget : Nat) :
    Leads (Turning start shape) (runLoop budget 0) fun _ => Attends start false shape := by
  intro host turning
  rcases shut_or_live turning with shut | ⟨live, attended, none, present, shaped⟩
  · exact .inl (runLoop_shut budget 0 host shut)
  have placed := attended.placed fresh live
  have turned := continueLoop_loops 0 host
  cases due : answer (continueLoop 0) host with
  | false =>
      rw [runLoop, after_bind, due]
      refine .inr ⟨continueLoop_attends fresh live attended none present due, ?_⟩
      change shape (after (continueLoop 0) host).runner.point
        (after (continueLoop 0) host).loops.points.isEmpty
      rw [continueLoop_runner, turned, List.isEmpty_eq_false_iff.mpr (placed.present_pass present)]
      exact shaped
  | true =>
      -- Until the cycle has ended the loop is on no agenda, whatever the cycle does.
      have entered := enter_attends attended none due
      have began : Attends start true shape
          (after (changeLoops ReloadLoops.occupy) (after (continueLoop 0) host)) := by
        have running : (after (changeLoops ReloadLoops.occupy)
            (after (continueLoop 0) host)).loops.shutDown = false := by
          rw [changeLoops_loops]
          change (after (continueLoop 0) host).loops.shutDown = false
          rw [continueLoop_shutDown]
          exact live
        refine .inr ⟨entered, ?_⟩
        rw [changeLoops_runner, continueLoop_runner, (entered.placed fresh running).present]
        exact shaped
      rw [runLoop, after_bind, due, if_pos rfl, after_bind, after_reload]
      exact finish_attends fresh ((attends_cycling fresh).runCycle budget _ began) _

end Serving

theorem pick_rota {worker : Worker} (other : worker.loop? = none) (host : Host) :
    (after (pick worker) host).agenda.rota = host.agenda.rota := by
  by_cases ready : worker ∈ host.agenda.ready
  · obtain ⟨before, behind, -, split, erased⟩ := List.exists_erase_eq ready
    refine Prod.ext ?_ rfl
    change (host.agenda.ready.erase worker).filterMap Worker.loop? = host.agenda.ready.filterMap _
    rw [erased, split, List.filterMap_append, List.filterMap_append, List.filterMap_cons_none other]
  · rw [pick, after_modify, List.erase_of_not_mem ready]

section Picking

variable {start : Host} {shape : RunnerPoint → Bool → Prop}

/-- A loop that can go on is the only one, and is on the agenda once. -/
theorem pick_loop {host : Host} (attended : Attended start false host) {id : LoopId}
    (ready : .reloadLoop id ∈ host.agenda.ready) :
    id = 0 ∧ (after (pick (.reloadLoop id)) host).agenda.loops = [] ∧ host.loops.queue = [] ∧
      host.loops.points ≠ [] := by
  have shuffled : host.agenda.loops.Perm
      (id :: (after (pick (.reloadLoop id)) host).agenda.loops) :=
    ((List.perm_cons_erase ready).append_right _).filterMap Worker.loop?
  rcases attended.agenda with none | ⟨one, -, unblocked, present⟩
  · rw [none] at shuffled
    exact absurd shuffled.symm.eq_nil (List.cons_ne_nil _ _)
  · rw [one] at shuffled
    obtain ⟨rfl, rest⟩ := List.cons.inj (List.perm_singleton.mp shuffled.symm)
    exact ⟨rfl, rest, unblocked, present⟩

/-- A worker that can go on is taken off the agenda. -/
theorem pick_attends {host : Host} {worker : Worker} (ready : worker ∈ host.agenda.ready)
    (attends : Attends start false shape host) :
    Taken start shape (some worker) (after (pick worker) host) := by
  rcases attends with shut | ⟨attended, shaped⟩
  · cases worker with
    | reloadLoop id => exact .inl shut
    | _ => exact .inl shut
  cases worker with
  | reloadLoop id =>
      obtain ⟨rfl, none, -, present⟩ := pick_loop attended ready
      obtain ⟨⟨history, reached⟩, -⟩ := attended
      refine .inr ⟨rfl, .inr ⟨⟨⟨history, reached.tail (.aside rfl)⟩, .inl none⟩, none, present, ?_⟩⟩
      rw [List.isEmpty_eq_false_iff.mpr present] at shaped
      exact shaped
  | _ => exact .inr ⟨attended.aside rfl (Agenda.loops_of_rota (pick_rota rfl host)), shaped⟩

/-- The agenda gives control to one loop only. -/
theorem takeReady_attends :
    Leads (Attends start false shape) takeReady (Taken start shape) := by
  intro host attends
  have picked := takeReady_picked _ host attends
  cases taken : answer takeReady host with
  | none =>
      rw [taken] at picked
      exact picked.1
  | some worker =>
      rw [taken] at picked
      obtain ⟨earlier, attended, ready, same⟩ := picked
      rw [same]
      exact pick_attends ready attended

end Picking

end Host

end HomeRules
