import HomeRules.Proofs.Host.AtOnce

/-!
# Shutting down for good

Once a call has shut the host down, wherever the loop was and however many calls are still to
come, nothing of the scripts is left and nothing comes back: cycles that are let in later do
nothing, requests are ignored, no task goes on, and the loop returns.
-/

set_option autoImplicit false

namespace HomeRules.Scene

open Host ReloadLoops

variable {scene next later : Scene}

/-! ## Closed scenes -/

/-- A scene whose host was shut down. What has the lock is about to be refused, or shuts the
host down once more. -/
structure Closed (scene : Scene) : Prop where
  shut : scene.host.loops.shutDown = true
  emptied : scene.host.Emptied
  barred : ∀ holder, scene.holder = some holder → holder.juncture.purpose = .reload →
    holder.juncture = .entered .reload

/-- What comes after a closed scene. -/
structure Since (scene later : Scene) : Prop where
  tally : later.host.tally = scene.host.tally
  added : ∃ added, later.conclusions = scene.conclusions ++ added ∧
    ∀ conclusion ∈ added, conclusion.Void
  turns : later.turns + later.host.loops.turnsToEnd ≤ scene.turns + scene.host.loops.turnsToEnd

/-- A step after which no call has returned. -/
theorem Since.silent (tally : later.host.tally = scene.host.tally)
    (conclusions : later.conclusions = scene.conclusions)
    (turns : later.turns + later.host.loops.turnsToEnd ≤
      scene.turns + scene.host.loops.turnsToEnd) : scene.Since later :=
  ⟨tally, ⟨[], by rw [conclusions, List.append_nil], List.forall_mem_nil _⟩, turns⟩

/-- A step with which a call returns that came to nothing. -/
theorem Since.concluding {conclusion : Conclusion} (void : conclusion.Void)
    (tally : later.host.tally = scene.host.tally)
    (conclusions : later.conclusions = scene.conclusions ++ [conclusion])
    (turns : later.turns + later.host.loops.turnsToEnd ≤
      scene.turns + scene.host.loops.turnsToEnd) : scene.Since later := by
  refine ⟨tally, ⟨[conclusion], conclusions, fun other member => ?_⟩, turns⟩
  rw [List.mem_singleton.mp member]
  exact void

theorem Since.refl (scene : Scene) : scene.Since scene :=
  .silent rfl rfl (Nat.le_refl _)

theorem Since.trans (before : scene.Since next) (after : next.Since later) :
    scene.Since later := by
  obtain ⟨first, former, void⟩ := before.added
  obtain ⟨second, latter, empty⟩ := after.added
  refine ⟨after.tally.trans before.tally, ⟨first ++ second, ?_, ?_⟩,
    Nat.le_trans after.turns before.turns⟩
  · rw [latter, former, List.append_assoc]
  · exact fun conclusion member => (List.mem_append.mp member).elim (void _) (empty _)

theorem Closed.idles (closed : scene.Closed) {holder : Holder}
    (held : scene.holder = some holder) : Idles scene.host holder.juncture :=
  closed.emptied.idles closed.shut (closed.barred holder held)

private theorem barred_entered {party : Party} {purpose : Purpose} :
    ∀ holder, some (⟨party, .entered purpose⟩ : Holder) = some holder →
      holder.juncture.purpose = .reload → holder.juncture = .entered .reload := by
  rintro _ ⟨⟩ same
  exact congrArg Juncture.entered same

/-- A cycle that came to nothing leaves the loop going. -/
private theorem leave_void {conclusion : Conclusion} (void : conclusion.Void) (party : Party)
    (host : Host) : (after (leave party conclusion) host).loops = host.loops := by
  rcases leave_loops party conclusion host with same | ⟨_, error, ended, fatal, _⟩
  · exact same
  · cases void with
    | refused =>
        cases ended
        cases fatal
    | again => cases ended

/-- The call that shuts the host down closes the scene when it returns. -/
theorem Step.closes (step : Step scene next) (sound : scene.Sound)
    (before : Conclusion.shutDown ∉ scene.conclusions)
    (returned : Conclusion.shutDown ∈ next.conclusions) : next.Closed := by
  have ended {holder : Holder} (held : scene.holder = some holder) {conclusion : Conclusion}
      (ends : answer (Host.proceed holder.juncture) scene.host = .inr conclusion)
      (last : Conclusion.shutDown ∈ scene.conclusions ++ [conclusion]) :
      scene.host.loops.shutDown = true ∧
        (after (Host.proceed holder.juncture) scene.host).Emptied := by
    have same : Conclusion.shutDown = conclusion :=
      List.mem_singleton.mp ((List.mem_append.mp last).resolve_left before)
    have reached := proceed_reached sound.wired (sound.reached holder held)
    have purpose := proceed_onward scene.host holder.juncture
    rw [ends, ← same] at reached purpose
    refine ⟨sound.told.resolve_right fun reloads => ?_, reached⟩
    have other := reloads.2 holder held
    rw [purpose rfl] at other
    cases other
  cases step with
  | finish held ends =>
      obtain ⟨shut, emptied⟩ := ended held ends returned
      have released := emptied.of_remnant (changeLoops_unmoved release _).remnant
      exact ⟨(Step.finish held ends).shut shut, released.of_remnant (leave_unmoved _ _ _).remnant,
        fun _ none => by cases none⟩
  | hand held ends waits =>
      obtain ⟨shut, emptied⟩ := ended held ends returned
      exact ⟨(Step.hand held ends waits).shut shut,
        emptied.of_remnant (leave_unmoved _ _ _).remnant, barred_entered⟩
  | _ => exact absurd returned before

/-- What changes only the loops of a closed scene brings the loop no further from its end. -/
private theorem Closed.loops (closed : scene.Closed) (step : Step scene next)
    (same : Unmoved scene.host next.host)
    (barred : ∀ holder, next.holder = some holder → holder.juncture.purpose = .reload →
      holder.juncture = .entered .reload)
    (conclusions : next.conclusions = scene.conclusions)
    (turns : next.turns + next.host.loops.turnsToEnd ≤
      scene.turns + scene.host.loops.turnsToEnd) : next.Closed ∧ scene.Since next :=
  ⟨⟨step.shut closed.shut, closed.emptied.of_remnant same.remnant, barred⟩,
    .silent (congrArg Remnant.tally same.remnant) conclusions turns⟩

/-- A closed scene stays closed, and nothing comes of what happens in it. -/
theorem Step.closed (step : Step scene next) (sound : scene.Sound) (closed : scene.Closed)
    (past : Conclusion.shutDown ∈ scene.conclusions) : next.Closed ∧ scene.Since next := by
  have stationed := sound.stationed
  have nearer (awake : scene.host.loops.isAwake = true) :
      (after (continueLoop 0) scene.host).loops.turnsToEnd < scene.host.loops.turnsToEnd := by
    rw [continueLoop_loops]
    exact stationed.turn_nearer closed.shut awake
  have kept := step
  cases step with
  | stir stirs =>
      obtain ⟨remnant, loops⟩ := stirs.still closed.emptied.deaf closed.emptied.idle
      have same := loops closed.shut
      refine ⟨⟨kept.shut closed.shut, closed.emptied.of_remnant remnant, closed.barred⟩,
        .silent (congrArg Remnant.tally remnant) rfl ?_⟩
      dsimp only
      rw [same]
  | aside _ _ _ unfinished => exact absurd past unfinished
  | start absent =>
      refine closed.loops kept (startLoop_unmoved _) closed.barred rfl ?_
      exact Nat.add_le_add_left (Nat.le_of_eq (stationed.start_turnsToEnd absent)) _
  | turn apart awake passes =>
      refine closed.loops kept (continueLoop_unmoved 0 _) closed.barred rfl ?_
      have := nearer awake
      dsimp only
      omega
  | enter due =>
      have unmoved := (continueLoop_unmoved 0 scene.host).trans (changeLoops_unmoved occupy _)
      refine closed.loops kept unmoved barred_entered rfl ?_
      rw [answer_continueLoop] at due
      have := nearer (isAwake_of_cycle (of_decide_eq_true due))
      dsimp only
      rw [changeLoops_loops]
      change _ + (after (continueLoop 0) scene.host).loops.turnsToEnd ≤ _
      omega
  | call purpose =>
      refine closed.loops kept (beginCall_unmoved purpose _) closed.barred rfl ?_
      cases purpose with
      | reload => exact Nat.le_refl _
      | shutDown =>
          dsimp only [beginCall]
          rw [changeLoops_loops, stationed.retire_turnsToEnd closed.shut]
  | grant waits free =>
      refine closed.loops kept (changeLoops_unmoved _ _) barred_entered rfl ?_
      dsimp only
      rw [changeLoops_loops]
      exact Nat.le_refl _
  | @goOn holder held juncture goes =>
      obtain ⟨emptied, loops, tally, answered⟩ := closed.idles held
      rw [goes] at answered
      refine ⟨⟨kept.shut closed.shut, emptied, ?_⟩, .silent tally rfl ?_⟩
      · rintro _ ⟨⟩ reloads
        rw [show juncture.purpose = .shutDown from answered] at reloads
        cases reloads
      · dsimp only
        rw [loops]
  | @finish holder held conclusion ends =>
      obtain ⟨emptied, loops, tally, answered⟩ := closed.idles held
      rw [ends] at answered
      let ended := after (Host.proceed holder.juncture) scene.host
      let unheld := after (changeLoops release) ended
      have released := (changeLoops_unmoved release ended).remnant
      have left := (leave_unmoved holder.party conclusion unheld).remnant
      refine ⟨⟨kept.shut closed.shut, (emptied.of_remnant released).of_remnant left,
        fun _ none => by cases none⟩, .concluding answered ?_ rfl ?_⟩
      · exact (congrArg Remnant.tally (left.trans released)).trans tally
      · dsimp only
        rw [leave_void answered, changeLoops_loops, loops]
        have same : scene.party = some holder.party := congrArg _ held
        rw [same] at stationed
        exact Nat.add_le_add_left stationed.release_turnsToEnd _
  | @hand holder held conclusion ends purpose waits =>
      obtain ⟨emptied, loops, tally, answered⟩ := closed.idles held
      rw [ends] at answered
      let ended := after (Host.proceed holder.juncture) scene.host
      have left := (leave_unmoved holder.party conclusion ended).remnant
      refine ⟨⟨kept.shut closed.shut, emptied.of_remnant left, barred_entered⟩,
        .concluding answered ((congrArg Remnant.tally left).trans tally) rfl ?_⟩
      dsimp only
      rw [leave_void answered, loops]

theorem Since.past (since : scene.Since later) (past : Conclusion.shutDown ∈ scene.conclusions) :
    Conclusion.shutDown ∈ later.conclusions := by
  obtain ⟨added, conclusions, _⟩ := since.added
  rw [conclusions]
  exact List.mem_append_left _ past

theorem Path.closed (path : Path scene later) (sound : scene.Sound) (closed : scene.Closed)
    (past : Conclusion.shutDown ∈ scene.conclusions) : later.Closed ∧ scene.Since later := by
  induction path with
  | refl => exact ⟨closed, .refl scene⟩
  | tail path step previous =>
      have next := step.closed (Path.sound path sound) previous.1 (previous.2.past past)
      exact ⟨next.1, previous.2.trans next.2⟩

/-- A scene is closed from the moment on at which a shutdown has returned. -/
theorem Path.closes (path : Path scene later) (sound : scene.Sound)
    (before : Conclusion.shutDown ∉ scene.conclusions)
    (returned : Conclusion.shutDown ∈ later.conclusions) : later.Closed := by
  induction path with
  | refl => exact absurd returned before
  | @tail middle last path step previous =>
      have sound := Path.sound path sound
      by_cases past : Conclusion.shutDown ∈ middle.conclusions
      · exact (step.closed sound (previous past) past).1
      · exact step.closes sound past returned

/-! ## The end of the loop -/

/-- Whether no loop goes on any more, or there has been none. -/
def Served (scene : Scene) : Prop :=
  scene.host.loops.points = [] ∨ scene.host.loops.isFinished 0 = true

/-- How much is to be done until the loop is over, at most. A cycle has fewer junctures before it
than are counted for a turn. -/
private def toDo (scene : Scene) : Nat :=
  7 * scene.host.loops.turnsToEnd + scene.holder.elim 0 (·.juncture.stepsLeft)

/-- As long as the loop of a closed scene is not over, somebody can go on, and less is to be done
then. -/
private theorem Closed.goesOn (closed : scene.Closed) (sound : scene.Sound)
    (past : Conclusion.shutDown ∈ scene.conclusions) :
    scene.Served ∨ ∃ next, Step scene next ∧ next.toDo < scene.toDo := by
  have nearer {next : Scene} (step : Step scene next) :=
    (step.closed sound closed past).2.turns
  cases held : scene.holder with
  | some holder =>
      refine .inr ?_
      have onward := proceed_onward scene.host holder.juncture
      cases answered : answer (Host.proceed holder.juncture) scene.host with
      | inl juncture =>
          rw [answered] at onward
          have fewer : juncture.stepsLeft < holder.juncture.stepsLeft := onward.2
          have turns := nearer (.goOn held answered)
          refine ⟨_, .goOn held answered, ?_⟩
          simp only [toDo, held, Option.elim_some] at turns ⊢
          omega
      | inr conclusion =>
          have some : 0 < holder.juncture.stepsLeft := by
            cases holder.juncture <;> exact Nat.succ_pos _
          have turns := nearer (.finish held answered)
          refine ⟨_, .finish held answered, ?_⟩
          simp only [toDo, held, Option.elim_some, Option.elim_none] at turns ⊢
          omega
  | none =>
      have apart : scene.party ≠ some .loop := by simp [party, held]
      rcases sound.stationed.told closed.shut with ended | absent | awake | ⟨_, lined, _⟩
      · exact .inl (.inr ended)
      · exact .inl (.inl absent)
      · refine .inr ?_
        cases due : answer (continueLoop 0) scene.host with
        | false =>
            have turns := nearer (.turn apart awake due)
            refine ⟨_, .turn apart awake due, ?_⟩
            simp only [toDo, held, Option.elim_none] at turns ⊢
            omega
        | true =>
            have turns := nearer (.enter due)
            refine ⟨_, .enter due, ?_⟩
            have entered : (Juncture.entered .reload).stepsLeft = 6 := rfl
            simp only [toDo, held, Option.elim_none, Option.elim_some, entered] at turns ⊢
            omega
      · rw [party, held] at lined
        cases lined

/-- Whoever waits for whom, the loop of a closed scene can come to its end. -/
theorem Closed.returns (closed : scene.Closed) (sound : scene.Sound)
    (past : Conclusion.shutDown ∈ scene.conclusions) :
    ∃ later, Path scene later ∧ later.Served := by
  induction left : scene.toDo using Nat.strongRecOn generalizing scene with
  | ind left previous =>
      rcases closed.goesOn sound past with served | ⟨next, step, fewer⟩
      · exact ⟨scene, .refl, served⟩
      · have ⟨same, since⟩ := step.closed sound closed past
        obtain ⟨later, path, served⟩ :=
          previous next.toDo (left ▸ fewer) same (step.sound sound) (since.past past) rfl
        exact ⟨later, .head step path, served⟩

/-- Where the loop is after a shutdown. It is not blocked for ever: it has not begun, or it is
over, or its cycle is about to be refused, or it can be given control, or it stands in line
behind a call, whose end lets it in. -/
inductive Leaving (scene : Scene) : Prop where
  | absent (none : scene.host.loops.points = [])
  | finished (ended : scene.host.loops.isFinished 0 = true)
  | refused (held : scene.holder = some ⟨.loop, .entered .reload⟩)
  | awake (goes : ∃ next, Step scene next ∧ next.turns = scene.turns + 1)
  | lined (waits : scene.host.loops.points = [.lined]) (held : scene.party = some .call)
      (letIn : scene.host.loops.release.1.points = [.admitted])

theorem Closed.leaving (closed : scene.Closed) (sound : scene.Sound) : scene.Leaving := by
  rcases sound.stationed.told closed.shut with ended | absent | awake | ⟨lined, held, letIn⟩
  · exact .finished ended
  · exact .absent absent
  · by_cases cycling : scene.party = some .loop
    · obtain ⟨⟨_, juncture⟩, held, rfl⟩ := Option.map_eq_some_iff.mp cycling
      have entered : juncture = .entered .reload :=
        closed.barred _ held (sound.looping _ held rfl)
      exact .refused (entered ▸ held)
    · cases due : answer (continueLoop 0) scene.host with
      | false => exact .awake ⟨_, .turn cycling awake due, rfl⟩
      | true => exact .awake ⟨_, .enter due, rfl⟩
  · exact .lined lined held letIn

/-- What is true of every scene that comes after one in which a shutdown has returned. -/
structure Final (scene later : Scene) : Prop where
  /-- No manager listens to anything. -/
  deaf : later.host.bus.listeners = []
  /-- No task is left that could go on. -/
  idle : later.host.supervisor.tasks = []
  resting : ∀ id, after (runTask id) later.host = later.host
  /-- No cycle has come to its end, and no task was given control. -/
  tally : later.host.tally = scene.host.tally
  /-- The cycles that ended were refused, or shut the host down once more. -/
  void : ∃ added, later.conclusions = scene.conclusions ++ added ∧
    ∀ conclusion ∈ added, conclusion.Void
  /-- A reload that is let in is refused, and changes nothing. -/
  refused : ∀ holder, later.holder = some holder → holder.juncture.purpose = .reload →
    answer (proceed holder.juncture) later.host = .inr (.reloaded (.error .shutDown)) ∧
      after (proceed holder.juncture) later.host = later.host
  reload : ∀ budget, answer (reload budget) later.host = .error .shutDown ∧
    (later.host.loops.occupied = false → after (reload budget) later.host = later.host)
  request : after requestReload later.host = later.host
  leaving : later.Leaving
  unblocked : later.host.loops.points[0]? ≠ some .blocked
  permitted : later.host.loops.permit = true ∨ Released later.host.loops.points
  /-- The loop comes to its end, and is given control a few times at most before that. -/
  returns : ∃ last, Path later last ∧ last.Served
  turns : later.turns ≤ scene.turns + 4

private theorem runCycle_refused {host : Host} (shut : host.loops.shutDown = true) (budget : Nat) :
    answer (runCycle budget) host = .error .shutDown ∧ after (runCycle budget) host = host := by
  rw [runCycle, answer_get_bind, after_get_bind, if_pos shut]
  exact ⟨rfl, rfl⟩

/-- A reload that is refused only takes the lock and gives it back. -/
private theorem reload_refused {party : Option Party} {host : Host}
    (stationed : Stationed party host.loops) (shut : host.loops.shutDown = true) (budget : Nat) :
    answer (reload budget) host = .error .shutDown ∧
      (host.loops.occupied = false → after (reload budget) host = host) := by
  let taken : Host := { host with loops := host.loops.occupy.1 }
  have retired : taken.loops.shutDown = true := shut
  obtain ⟨refused, same⟩ := runCycle_refused retired budget
  refine ⟨refused, fun free => ?_⟩
  have released : taken.loops.release = (host.loops, none) := stationed.occupy_release free
  rw [after_reload, show after (changeLoops occupy) host = taken from rfl, same,
    changeLoops_of_none (congrArg Prod.snd released), released]

/-- A native script that listens to one event and has a task. -/
private def beacon : NativeScript where
  name := "beacon"
  onLoad _ := [
    .register false (.ok [
      { key := "fog", body := .unconditional (.one (.call "horn" [.report])) }]),
    .spawn false "lamp" {}]

private def coastTree : FileTree :=
  FileTree.put {} "data/scripts/a.toml" ⟨.file "script = \"beacon\"\n".toUTF8, 0⟩

/-- A host that has not loaded this script yet. -/
def coast : Host :=
  create {} "data" coastTree {} [("beacon", beacon)]

/-- The script is loaded, and the loop starts and is blocked. -/
def opening : List Prompt :=
  [.call 1 .reload, .start, .turn]

/-- After this the host is shut down. -/
def closing : List Prompt :=
  opening ++ [.call 0 .shutDown]

/-- Then the loop is given control, and a reload is tried. -/
def aftermath : List Prompt :=
  [.turn, .call 1 .reload]

end HomeRules.Scene
