import HomeRules.Proofs.Host.Chronicle
import HomeRules.Proofs.Host.Lifecycle

/-!
# The junctures of a cycle

A cycle that runs under the lock lets others go on at few points. Cut there, it goes from one
juncture to the next in steps that nothing comes between, whether it reloads the scripts or
shuts the host down.
-/

set_option autoImplicit false

namespace HomeRules

/-- What a cycle is for. -/
inductive Purpose where
  | reload
  | shutDown
  deriving DecidableEq, Repr

/-- Where a cycle lets others go on. -/
inductive Juncture where
  /-- It was let in. -/
  | entered (purpose : Purpose)
  /-- The managers are about to stop. -/
  | stopping (purpose : Purpose) (generation : Generation)
  /-- The managers have stopped, and the tasks are about to be cancelled. -/
  | cancelling (purpose : Purpose) (generation : Generation) (inFlight : List StopTimeout)
  /-- The tasks are cancelled, and the scripts are about to be unloaded. -/
  | unloading (purpose : Purpose) (generation : Generation) (timeouts : List StopTimeout)
  /-- The files are about to be loaded. -/
  | loading (generation : Generation) (timeouts : List StopTimeout)
  /-- The files are loaded, and the managers are about to deliver. -/
  | concluding (generation : Generation) (timeouts : List StopTimeout)
      (scripts : List LoadedScript) (failed : List LoadError)

def Juncture.purpose : Juncture → Purpose
  | .entered purpose | .stopping purpose _ | .cancelling purpose _ _ => purpose
  | .unloading purpose _ _ => purpose
  | .loading _ _ | .concluding _ _ _ _ => .reload

/-- How often a cycle goes on until it ends, at most. -/
def Juncture.stepsLeft : Juncture → Nat
  | .entered _ => 6
  | .stopping _ _ => 5
  | .cancelling _ _ _ => 4
  | .unloading _ _ _ => 3
  | .loading _ _ => 2
  | .concluding _ _ _ _ => 1

/-- How a cycle came to its end. -/
inductive Conclusion where
  | reloaded (result : Except HostError CycleReport)
  | shutDown

namespace Host

/-! ## From one juncture to the next -/

/-- Ends the live generation. -/
def retireGeneration (purpose : Purpose) : Step (Juncture ⊕ Conclusion) := do
  let generation ← advanceGeneration
  enterPhase .stopping
  return .inl (.stopping purpose generation)

/-- Goes from a juncture to the next one, or to the end of the cycle. -/
def proceed : Juncture → Step (Juncture ⊕ Conclusion)
  | .entered .reload => do
    if (← get).loops.shutDown then return .inr (.reloaded (.error .shutDown))
    else retireGeneration .reload
  | .entered .shutDown => retireGeneration .shutDown
  | .stopping purpose generation => do
    let inFlight ← stopRegistry
    return .inl (.cancelling purpose generation inFlight)
  | .cancelling purpose generation inFlight => do
    let (_, detached) ← cancelAll (← get).reloading.stopGrace
    mark (.halted (← get).generation)
    return .inl (.unloading purpose generation (inFlight ++ detached))
  | .unloading .reload generation timeouts => do
    enterPhase .unloading
    unloadAll
    enterPhase .loading
    return .inl (.loading generation timeouts)
  | .unloading .shutDown _ _ => do
    enterPhase .unloading
    unloadAll
    enterPhase .idle
    return .inr .shutDown
  | .loading generation timeouts => do
    let (scripts, failed) ← loadAll generation
    return .inl (.concluding generation timeouts scripts failed)
  | .concluding generation timeouts scripts failed => do
    let result ← conclude 0 generation timeouts scripts failed
    return .inr (.reloaded result)

/-- What goes on at a juncture of a cycle that is given a budget for it. -/
def pause (budget : Nat) : Juncture → Step Unit
  | .cancelling _ _ _ | .concluding _ _ _ _ => runReady budget
  | _ => pure ()

/-- Goes on until the cycle ends, through so many junctures at most. -/
def drive (budget : Nat) : Nat → Juncture → Step (Option Conclusion)
  | 0, _ => pure none
  | rest + 1, juncture => do
    pause budget juncture
    match ← proceed juncture with
    | .inl next => drive budget rest next
    | .inr conclusion => return some conclusion

/-- Background work goes on before a cycle is concluded, and not while it is. -/
private theorem conclude_eq (budget : Nat) (generation : Generation) (timeouts : List StopTimeout)
    (scripts : List LoadedScript) (failed : List LoadError) :
    conclude budget generation timeouts scripts failed = (do
      runReady budget
      conclude 0 generation timeouts scripts failed) := by
  simp only [conclude, runReady, pure_bind]

/-- A cycle that reloads goes through all of its junctures. -/
theorem drive_reload (budget : Nat) :
    drive budget 6 (.entered .reload) = (do
      let result ← runCycle budget
      return some (.reloaded result)) := by
  have refused : drive budget 6 (.entered .reload) = (do
      if (← get).loops.shutDown then return some (.reloaded (.error .shutDown))
      else
        let generation ← advanceGeneration
        enterPhase .stopping
        drive budget 5 (.stopping .reload generation)) := by
    rw [drive]
    simp only [pause, proceed, retireGeneration, bind_assoc, pure_bind]
    congr 1
    funext host
    split <;> simp only [bind_assoc, pure_bind]
  rw [refused]
  simp only [drive, pause, proceed, runCycle_eq, prepare, stop, install, conclude_eq budget,
    bind_assoc, pure_bind]
  congr 1
  funext host
  split <;> simp only [bind_assoc, pure_bind]

/-- A cycle that shuts the host down goes through the junctures before any file is loaded. -/
theorem drive_shutDown (budget : Nat) :
    drive budget 6 (.entered .shutDown) = (do
      let _ ← vacate budget
      enterPhase .idle
      return some .shutDown) := by
  simp only [drive, pause, proceed, retireGeneration, vacate, stop, bind_assoc, pure_bind]

/-- A shutdown goes through these junctures once it is known to the loops. -/
theorem shutDown_drive (budget : Nat) :
    shutDown budget = (do
      changeLoops ReloadLoops.retire
      let _ ← drive budget 6 (.entered .shutDown)) := by
  simp only [shutDown_eq, drive_shutDown, bind_assoc, pure_bind]
  rfl

/-! ## What a cycle brings about -/

/-- Nothing of a generation is left: no script, no manager, no listener and no task. -/
structure Emptied (host : Host) : Prop where
  unloaded : host.arena = []
  cleared : host.registry.managers = []
  deaf : host.bus.listeners = []
  idle : host.supervisor.tasks = []

end Host

/-- What a cycle has reached when it is at a juncture. -/
def Juncture.Reached : Juncture → Host → Prop
  | .cancelling _ _ _, host => host.wiring.Unsubscribed
  | .unloading _ _ _, host => host.wiring.Unsubscribed ∧ host.supervisor.tasks = []
  | _, _ => True

/-- The ends of cycles that did nothing. -/
inductive Conclusion.Void : Conclusion → Prop where
  | refused : Void (.reloaded (.error .shutDown))
  | again : Void .shutDown

/-- What a cycle has reached when it ends. -/
def Conclusion.Reached : Conclusion → Host → Prop
  | .shutDown, host => host.Emptied
  | .reloaded _, _ => True

namespace Host

theorem proceed_reaches {start host : Host} (path : Reaches true start host) {juncture : Juncture}
    (reached : juncture.Reached host) : Reaches true start (after (proceed juncture) host) := by
  have retired (purpose : Purpose) : Keeps (Reaches true start) (retireGeneration purpose) :=
    .bind advanceGeneration_reaches fun _ => .bind (enterPhase_reaches _) fun _ => .pure _
  cases juncture with
  | entered purpose => cases purpose with
    | reload =>
        rw [proceed, after_get_bind]
        split
        · exact path
        · exact retired _ host path
    | shutDown => exact retired _ host path
  | stopping purpose generation =>
      exact Keeps.bind stopRegistry_reaches (fun _ => .pure _) host path
  | cancelling purpose generation inFlight =>
      have cancelled := cancelAll_reaches host.reloading.stopGrace host path
      exact cancelled.tail (.halt rfl (cancelAll_tasks host.reloading.stopGrace host))
  | unloading purpose generation timeouts =>
      have unloaded : Reaches true start (after unloadAll (after (enterPhase .unloading) host)) :=
        unloadAll_leads _ (enterPhase_stopped .unloading host ⟨path, reached.1⟩)
      cases purpose with
      | reload => exact enterPhase_reaches .loading _ unloaded
      | shutDown => exact enterPhase_reaches .idle _ unloaded
  | loading generation timeouts =>
      exact Keeps.bind (loadAll_reaches generation) (fun _ => .pure _) host path
  | concluding generation timeouts scripts failed =>
      have concluded : Keeps (Reaches true start)
          (conclude 0 generation timeouts scripts failed) := by
        refine .bind (.pure _) fun _ => ?_
        split
        · exact .pure _
        · exact .bind (.ofQuiet fun _ => rfl) fun _ => .bind (resumeRegistry_reaches _) fun _ =>
            .bind (finishCycle_reaches _) fun _ => .pure _
      exact concluded host path

/-- Unloading leaves nothing behind when all is stopped. -/
theorem unloadAll_emptied {host : Host} (sound : host.wiring.Sound)
    (unsubscribed : host.wiring.Unsubscribed) (idle : host.supervisor.tasks = []) :
    (after unloadAll host).Emptied := by
  have begun : Mute host.core { host with arena := [] } := ⟨rfl, sound, unsubscribed⟩
  have unloaded := Keeps.forM Mute.unloadScript host.arena _ begun
  constructor
  · exact congrArg Tenure.scripts (unloadAll_tenure host)
  · rfl
  · exact unloaded.deaf
  · exact (congrArg (fun core : Core => core.supervisor.tasks) unloaded.same).trans idle

/-- What is asked of the next juncture, or of the end, is reached there. -/
theorem proceed_reached {host : Host} (sound : host.wiring.Sound) {juncture : Juncture}
    (reached : juncture.Reached host) :
    (answer (proceed juncture) host).elim (·.Reached (after (proceed juncture) host))
      (·.Reached (after (proceed juncture) host)) := by
  cases juncture with
  | entered purpose => cases purpose with
    | reload =>
        rw [proceed, after_get_bind, answer_get_bind]
        split <;> trivial
    | shutDown => trivial
  | stopping purpose generation => exact stopRegistry_unsubscribed host
  | cancelling purpose generation inFlight =>
      have path : Reaches false host (after (cancelAll host.reloading.stopGrace) host) :=
        cancelAll_reaches _ host .refl
      exact ⟨path.unsubscribed reached, cancelAll_tasks host.reloading.stopGrace host⟩
  | unloading purpose generation timeouts => cases purpose with
    | reload => trivial
    | shutDown =>
        have entered : (after (enterPhase .unloading) host).wiring.Sound := sound
        obtain ⟨unloaded, cleared, deaf, idle⟩ :=
          unloadAll_emptied entered reached.1 reached.2
        exact ⟨unloaded, cleared, deaf, idle⟩
  | loading generation timeouts => trivial
  | concluding generation timeouts scripts failed => trivial

/-- A cycle is for one thing all the way, and comes closer to its end. -/
theorem proceed_onward (host : Host) (juncture : Juncture) :
    (answer (proceed juncture) host).elim
      (fun next => next.purpose = juncture.purpose ∧ next.stepsLeft < juncture.stepsLeft)
      (· = .shutDown → juncture.purpose = .shutDown) := by
  cases juncture with
  | entered purpose => cases purpose with
    | reload =>
        rw [proceed, answer_get_bind]
        split
        · exact fun same => by cases same
        · exact ⟨rfl, Nat.lt_succ_self 5⟩
    | shutDown => exact ⟨rfl, Nat.lt_succ_self 5⟩
  | stopping => exact ⟨rfl, Nat.lt_succ_self 4⟩
  | cancelling => exact ⟨rfl, Nat.lt_succ_self 3⟩
  | unloading purpose generation timeouts => cases purpose with
    | reload => exact ⟨rfl, Nat.lt_succ_self 2⟩
    | shutDown => exact fun _ => rfl
  | loading => exact ⟨rfl, Nat.lt_succ_self 1⟩
  | concluding => exact fun same => by cases same

/-- What a cycle does between its junctures goes unnoticed by the loops, apart from requests. -/
theorem Bystanding.proceed {fact : Host → Prop} (aside : Bystanding fact) (juncture : Juncture) :
    Keeps fact (proceed juncture) := by
  have entered (phase : CyclePhase) : Keeps fact (enterPhase phase) :=
    aside.ofStill fun _ => rfl
  have retired (purpose : Purpose) : Keeps fact (retireGeneration purpose) :=
    .bind (aside.ofStill fun _ => rfl) fun _ => .bind (entered _) fun _ => .pure _
  cases juncture with
  | entered purpose => cases purpose with
    | reload =>
        refine .read fun host => ?_
        split
        · exact .pure _
        · exact retired _
    | shutDown => exact retired _
  | stopping purpose generation =>
      exact .bind (aside.acts fun _ => stopRegistry_acts) fun _ => .pure _
  | cancelling purpose generation inFlight =>
      exact .read fun _ => .bind (aside.acts fun _ => cancelAll_acts _) fun _ => .read fun _ =>
        .bind (aside.ofStill fun _ => rfl) fun _ => .pure _
  | unloading purpose generation timeouts =>
      have unloaded (phase : CyclePhase) : Keeps fact (do
          (enterPhase .unloading : Step Unit)
          Host.unloadAll
          enterPhase phase) :=
        .bind (entered _) fun _ => .bind aside.unloadAll fun _ => entered _
      cases purpose with
      | reload => exact unloaded .loading
      | shutDown => exact unloaded .idle
  | loading generation timeouts =>
      exact .bind (aside.acts fun _ => loadAll_acts generation) fun _ => .pure _
  | concluding generation timeouts scripts failed =>
      refine .bind (.bind (.pure _) fun _ => ?_) fun _ => .pure _
      split
      · exact .pure _
      · exact .bind (aside.ofStill fun _ => rfl) fun _ =>
          .bind (aside.acts fun _ => resumeRegistry_acts _) fun _ =>
          .bind (aside.acts fun _ => finishCycle_acts _) fun _ => .pure _

/-! ## Where nothing is left -/

/-- What has come of the cycles and of the tasks of a host. -/
structure Tally where
  cycles : Nat
  lastReport : Option CycleReport
  turns : List TaskId

def tally (host : Host) : Tally where
  cycles := host.status.cycles
  lastReport := host.status.lastReport
  turns := host.turns

/-- After a shutdown no reload begins. -/
theorem proceed_refused {host : Host} (shut : host.loops.shutDown = true) :
    answer (proceed (.entered .reload)) host = .inr (.reloaded (.error .shutDown)) ∧
      after (proceed (.entered .reload)) host = host := by
  rw [proceed, answer_get_bind, after_get_bind, if_pos shut]
  exact ⟨rfl, rfl⟩

/-- What a cycle does in a host that was emptied is nothing that counts. -/
structure Idles (host : Host) (juncture : Juncture) : Prop where
  emptied : (after (proceed juncture) host).Emptied
  loops : (after (proceed juncture) host).loops = host.loops
  tally : (after (proceed juncture) host).tally = host.tally
  answered : (answer (proceed juncture) host).elim (·.purpose = .shutDown) Conclusion.Void

private theorem stopRegistry_of_cleared {host : Host} (cleared : host.registry.managers = []) :
    after stopRegistry host = host := by
  rw [stopRegistry, after_get_bind, managerKinds, cleared]
  rfl

private theorem cancelAll_of_idle {host : Host} (idle : host.supervisor.tasks = [])
    (grace : Duration) : after (cancelAll grace) host = host := by
  have same : host.supervisor.cancelAll.1 = host.supervisor := by
    rw [Supervisor.cancelAll, ← idle]
  change after (host.supervisor.tasks.forM (warnOfTask grace))
    { host with supervisor := host.supervisor.cancelAll.1 } = host
  rw [idle, same]
  rfl

private theorem unloadAll_of_unloaded {host : Host} (unloaded : host.arena = []) :
    after unloadAll host =
      { host with arena := [], registry := { generation := host.generation } } := by
  rw [unloadAll, after_get_bind, unloaded]
  rfl

/-- Another shutdown finds nothing to stop. -/
private theorem Emptied.closing {host : Host} (emptied : host.Emptied) {juncture : Juncture}
    (closing : juncture.purpose = .shutDown) : Idles host juncture := by
  obtain ⟨unloaded, cleared, deaf, idle⟩ := emptied
  cases juncture with
  | entered purpose =>
      cases closing
      exact ⟨⟨unloaded, cleared, deaf, idle⟩, rfl, rfl, rfl⟩
  | stopping purpose generation =>
      cases closing
      have same : after (Host.proceed (.stopping .shutDown generation)) host = host :=
        stopRegistry_of_cleared cleared
      constructor
      case answered => exact rfl
      all_goals rw [same]
      exact ⟨unloaded, cleared, deaf, idle⟩
  | cancelling purpose generation inFlight =>
      cases closing
      have same : after (Host.proceed (.cancelling .shutDown generation inFlight)) host =
          after (mark (.halted host.generation)) host := by
        change (fun cancelled : Host => after (mark (.halted cancelled.generation)) cancelled)
          (after (cancelAll host.reloading.stopGrace) host) = _
        rw [cancelAll_of_idle idle]
      constructor
      case answered => exact rfl
      all_goals rw [same]
      · exact ⟨unloaded, cleared, deaf, idle⟩
      · rfl
      · rfl
  | unloading purpose generation timeouts =>
      cases closing
      have same : after (Host.proceed (.unloading .shutDown generation timeouts)) host =
          after (enterPhase .idle) { after (enterPhase .unloading) host with
            arena := [], registry := { generation := host.generation } } := by
        change after (enterPhase .idle) (after unloadAll (after (enterPhase .unloading) host)) = _
        rw [unloadAll_of_unloaded]
        · rfl
        · exact unloaded
      constructor
      case answered => exact .again
      all_goals rw [same]
      · exact ⟨rfl, rfl, deaf, idle⟩
      · rfl
      · rfl
  | loading => cases closing
  | concluding => cases closing

/-- After a shutdown a cycle that has just been let in, and one that shuts down again, find
nothing to do. -/
theorem Emptied.idles {host : Host} (emptied : host.Emptied) (shut : host.loops.shutDown = true)
    {juncture : Juncture} (barred : juncture.purpose = .reload → juncture = .entered .reload) :
    Idles host juncture := by
  cases purpose : juncture.purpose with
  | shutDown => exact emptied.closing purpose
  | reload =>
      cases barred purpose
      obtain ⟨answered, same⟩ := proceed_refused shut
      constructor
      case answered =>
        rw [answered]
        exact .refused
      all_goals rw [same]
      exact emptied

end Host

end HomeRules
