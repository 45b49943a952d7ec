import HomeRules.Proofs.Host.Acquiring
import HomeRules.Proofs.Host.Cycling

/-!
# Making room for a generation

Whatever a host has gone through, a cycle that has stopped and unloaded it leaves a host
without tasks, subscriptions and listeners, on which loading begins. Jobs go on beside
the load and do not disturb it.
-/

set_option autoImplicit false

namespace HomeRules.Host

/-! ## Mute hosts -/

/-- A host without a subscription, and therefore without a listener. Its core is given, and so
are its tasks. -/
structure Mute (core : Core) (host : Host) : Prop where
  same : host.core = core
  sound : host.wiring.Sound
  unsubscribed : host.wiring.Unsubscribed

/-- Where nobody listens, an event reaches nobody. -/
theorem publish_unheard {host : Host} (deaf : host.bus.listeners = []) (event : Event) :
    ran (publish event) host = (.ok 0, host) := by
  have none : host.bus.listenersTo event.kind = [] := by
    rw [Bus.listenersTo, deaf, List.filter_nil]
  change ran (publishWithin (999 + 1) event) host = _
  rw [publishWithin, ran_get_bind, none]
  rfl

namespace Mute

variable {core : Core}

theorem of_parts {host next : Host} (mute : Mute core host) (same : next.parts = host.parts) :
    Mute core next := by
  have wired := wiring_of_parts same
  refine ⟨(congrArg Parts.core same).trans mute.same, ?_, ?_⟩
  · rw [wired]
    exact mute.sound
  · rw [wired]
    exact mute.unsubscribed

private theorem keeps {α : Type} {step : Step α}
    (same : ∀ host, (after step host).parts = host.parts) : Keeps (Mute core) step :=
  fun host mute => mute.of_parts (same host)

/-- Nothing is listened to where nothing is subscribed. -/
theorem deaf {host : Host} (mute : Mute core host) : host.bus.listeners = [] := by
  have heard := mute.sound.heard
  rw [mute.unsubscribed.lines_eq] at heard
  exact List.map_eq_nil_iff.mp heard.eq_nil

private theorem publish (event : Event) : RunKeeps (Mute core) (publish event) := by
  intro host mute
  have kept : after (Host.publish event).run host = host :=
    congrArg Prod.snd (publish_unheard mute.deaf event)
  rw [kept]
  exact mute

private theorem needManager (kind : ManagerKind) (under : Generation) :
    Keeps (Mute core) (needManager kind under) := by
  intro host mute
  have wired : (after (Host.needManager kind under) host).wiring =
      (host.wiring.need host.generation kind under).2 :=
    congrArg Prod.snd (needManager_wiring kind under host)
  refine ⟨(needManager_core (.inr mute.unsubscribed) _ _).trans mute.same, ?_, ?_⟩
  · rw [wired]
    exact mute.sound.need _ _ _
  · rw [wired]
    exact mute.unsubscribed.need _ _ _

private theorem manager (kind : ManagerKind) (under : Generation) :
    Keeps (Mute core) (manager kind under) := by
  refine .bind (needManager kind under) fun needed => ?_
  split
  · exact .pure _
  · refine .read fun host => ?_
    split <;> exact .pure _

/-- What a script does when it is unloaded reaches nobody. -/
private theorem unloadStep (step : UnloadStep) : RunKeeps (Mute core) (unloadStep step) := by
  cases step with
  | say text => exact .lift (keeps fun _ => rfl)
  | publish event => exact .bind (publish event) fun _ => .lift (keeps fun _ => rfl)
  | askManager kind =>
      exact .get fun host mute => RunKeeps.bind (.lift (manager kind _))
        (fun _ => .lift (keeps fun _ => rfl)) host mute
  | panic message => exact .throw _

theorem unloadScript (script : LoadedScript) : Keeps (Mute core) (unloadScript script) := by
  unfold Host.unloadScript
  split
  · exact .pure _
  · rename_i native _
    have unloaded : Keeps (Mute core) (attempt (native.onUnload.forM Host.unloadStep)) := by
      intro host mute
      rw [after_attempt]
      exact RunKeeps.forM unloadStep _ host mute
    refine .bind unloaded fun failure? => ?_
    · split
      · exact keeps fun _ => rfl
      · exact .pure _

end Mute

/-! ## Halted hosts -/

/-- A calm host without a subscription. -/
structure Halted (environment : Environment) (generation : Generation) (host : Host) : Prop
    extends Calm environment generation host where
  sound : host.wiring.Sound
  unsubscribed : host.wiring.Unsubscribed

section Halted

variable {environment : Environment} {generation : Generation}

theorem Halted.mute {host : Host} (halted : Halted environment generation host) :
    Mute host.core host :=
  ⟨rfl, halted.sound, halted.unsubscribed⟩

theorem Mute.halted {host next : Host} (mute : Mute host.core next)
    (calm : Calm environment generation host) : Halted environment generation next :=
  ⟨calm.of_core mute.same, mute.sound, mute.unsubscribed⟩

theorem Halted.of_parts {host next : Host} (halted : Halted environment generation host)
    (same : next.parts = host.parts) : Halted environment generation next :=
  (halted.mute.of_parts same).halted halted.toCalm

end Halted

/-! ## Up to the load -/

/-- Whatever went on before, a host that was stopped is halted. -/
theorem stop_halted (budget : Nat) {host : Host} (sound : host.wiring.Sound) :
    Halted host.environment host.generation (after (stop budget) host) := by
  let idle : Host := after (runReady budget) (after stopRegistry host)
  let cancelled : Host := after (cancelAll idle.reloading.stopGrace) idle
  have reached : after (stop budget) host = after (mark (.halted cancelled.generation)) cancelled :=
    rfl
  have path : Reaches false host cancelled :=
    cancelAll_reaches _ _ (runReady_reaches budget _ (stopRegistry_reaches host .refl))
  have tasks := stop_tasks budget host
  have unsubscribed := stop_unsubscribed budget host
  rw [reached] at tasks unsubscribed ⊢
  refine ⟨⟨path.environment_eq, path.generation_eq, ?_⟩, path.sound sound, unsubscribed⟩
  rw [tasks]
  exact fun _ member => absurd member List.not_mem_nil

theorem enterPhase_parts (phase : CyclePhase) (host : Host) :
    (after (enterPhase phase) host).parts = host.parts :=
  rfl

/-- Loading begins where the last generation was unloaded. -/
theorem unloadAll_loading {environment : Environment} {generation : Generation} {host : Host}
    (halted : Halted environment generation host) :
    Loading environment generation [] (after unloadAll host) ∧
      (after unloadAll host).wiring.standing = fun _ => none := by
  have emptied : Mute host.core { host with arena := [] } := halted.mute.of_parts rfl
  have silenced := Keeps.forM Mute.unloadScript host.arena _ emptied
  have unloaded : Halted environment generation
      (after (host.arena.forM unloadScript) { host with arena := [] }) :=
    silenced.halted halted.toCalm
  have reached : after unloadAll host =
      after clearRegistry (after (host.arena.forM unloadScript) { host with arena := [] }) := rfl
  rw [reached]
  generalize after (host.arena.forM unloadScript) { host with arena := [] } = later at unloaded
  have renewed := unloaded.sound.renew unloaded.unsubscribed.lines_eq later.generation
  have empty : (after clearRegistry later).wiring.registry = { generation } := by
    rw [← unloaded.current]
    rfl
  obtain ⟨waiting, stands⟩ := Wiring.Waiting.cleared renewed generation empty
  exact ⟨⟨unloaded.toCalm.of_core rfl, waiting⟩, stands⟩

/-- A cycle before it loads. It gives its generation and what did not stop. -/
def prepare (budget : Nat) : Step (Generation × List StopTimeout) := do
  let generation ← advanceGeneration
  enterPhase .stopping
  let timeouts ← stop budget
  enterPhase .unloading
  unloadAll
  enterPhase .loading
  return (generation, timeouts)

/-- A cycle loads on a host that holds nothing. -/
theorem prepare_loading (budget : Nat) {host : Host} (sound : host.wiring.Sound) :
    Loading host.environment (host.generation + 1) [] (after (prepare budget) host) ∧
      (after (prepare budget) host).wiring.standing = fun _ => none := by
  let begun : Host := after (enterPhase .stopping) (after advanceGeneration host)
  have stopped : Halted host.environment (host.generation + 1) (after (stop budget) begun) :=
    stop_halted budget (show begun.wiring.Sound from sound)
  have reached : after (prepare budget) host = after (enterPhase .loading)
      (after unloadAll (after (enterPhase .unloading) (after (stop budget) begun))) := rfl
  rw [reached]
  generalize after (stop budget) begun = halted at stopped
  obtain ⟨loading, stands⟩ := unloadAll_loading (stopped.of_parts (enterPhase_parts .unloading _))
  obtain ⟨entered, same⟩ := loading.of_parts (enterPhase_parts .loading _)
  exact ⟨entered, same.trans stands⟩

/-! ## Beside the load -/

/-- A calm host with a wiring. -/
structure Undisturbed (environment : Environment) (generation : Generation) (wiring : Wiring)
    (host : Host) : Prop extends Calm environment generation host where
  wired : host.wiring = wiring

section Undisturbed

variable {environment : Environment} {generation : Generation} {wiring : Wiring}

private theorem Undisturbed.of_parts {host next : Host}
    (still : Undisturbed environment generation wiring host) (same : next.parts = host.parts) :
    Undisturbed environment generation wiring next :=
  ⟨still.toCalm.of_core (congrArg Parts.core same), (wiring_of_parts same).trans still.wired⟩

private theorem Keeps.undisturbed {α : Type} {step : Step α}
    (same : ∀ host, (after step host).parts = host.parts) :
    Keeps (Undisturbed environment generation wiring) step :=
  fun host still => still.of_parts (same host)

private theorem progress_undisturbed (id : TaskId) (point : Progress) :
    Keeps (Undisturbed environment generation wiring) (progress id point) := by
  refine fun host still => ⟨⟨still.located, still.current, fun task member => ?_⟩, still.wired⟩
  obtain ⟨old, present, rfl⟩ := List.mem_map.mp member
  split <;> exact still.jobs old present

private theorem sleepTask_undisturbed (id : TaskId) (due rounds : Nat) :
    Keeps (Undisturbed environment generation wiring) (sleepTask id due rounds) :=
  .bind (progress_undisturbed _ _) fun _ => .undisturbed fun _ => rfl

private theorem finishJob_undisturbed (task : Task) (job : Job) :
    Keeps (Undisturbed environment generation wiring) (finishJob task job) := by
  refine .bind (.option_forM (fun _ => .undisturbed fun _ => rfl) _) fun _ => ?_
  cases job.ending with
  | completed => exact progress_undisturbed _ _
  | failed chain =>
      exact .bind (.undisturbed fun _ => rfl) fun _ => progress_undisturbed _ _
  | panicked message => exact progress_undisturbed _ _
  | never => exact progress_undisturbed _ _

private theorem beginTask_undisturbed {task : Task} (job : task.work.isJob) :
    Keeps (Undisturbed environment generation wiring) (beginTask task) := by
  refine .get fun host still => ?_
  cases work : task.work with
  | delayed delay actions payload => simp [work, Work.isJob] at job
  | timer gate schema kind period => simp [work, Work.isJob] at job
  | job job payload =>
      refine Keeps.bind (.option_forM (fun _ => .undisturbed fun _ => rfl) _) (fun _ => ?_) host
        still
      split
      · exact finishJob_undisturbed task job
      · exact sleepTask_undisturbed _ _ _

private theorem continueTask_undisturbed {task : Task} (job : task.work.isJob)
    (due rounds : Nat) :
    Keeps (Undisturbed environment generation wiring) (continueTask task due rounds) := by
  unfold continueTask
  cases work : task.work with
  | delayed delay actions payload => simp [work, Work.isJob] at job
  | timer gate schema kind period => simp [work, Work.isJob] at job
  | job job payload => exact finishJob_undisturbed task job

/-- Control over a job reaches no manager. -/
theorem runTask_undisturbed (id : TaskId) :
    Keeps (Undisturbed environment generation wiring) (runTask id) := by
  refine .get fun host still => ?_
  cases found : host.supervisor.task? id with
  | none => exact still
  | some task =>
      have job := still.jobs task (List.mem_of_find?_eq_some found)
      have marked : Undisturbed environment generation wiring
          (after (mark (.resumed task.generation id)) host) :=
        ⟨⟨still.located, still.current, still.jobs⟩, still.wired⟩
      dsimp only
      split
      · exact beginTask_undisturbed job _ marked
      · exact continueTask_undisturbed job _ _ _ marked
      · exact still

/-- What goes on beside a load leaves it alone. -/
theorem runReady_undisturbed (budget : Nat) :
    Keeps (Undisturbed environment generation wiring) (runReady budget) := by
  have looping : Looping (Undisturbed environment generation wiring) :=
    ⟨fun _ _ parts _ _ _ still => still.of_parts parts⟩
  have taken : Keeps (Undisturbed environment generation wiring) takeBesideCycle :=
    .undisturbed fun _ => rfl
  exact runReady_keeps taken.leads runTask_undisturbed looping.continueLoop
    (fun _ _ still => still) budget

end Undisturbed

end HomeRules.Host
