import HomeRules.Proofs.Host.Junctures
import HomeRules.Proofs.ReloadLoops.Lock

/-!
# Cycles among others

One loop serves the requests for reloads, and calls from elsewhere reload the host or shut it
down. Their cycles take turns at a lock, and between the junctures of the one that has it events
arrive, tasks go on, requests are made and more calls begin to wait.
-/

set_option autoImplicit false

namespace HomeRules

/-! ## Scenes -/

/-- Who has the lock, and the juncture that its cycle is at. -/
structure Holder where
  party : Party
  juncture : Juncture

/-- A host with the cycles that run in it. -/
structure Scene where
  host : Host
  holder : Option Holder := none
  /-- The calls that wait for the lock. -/
  waiting : List Purpose := []
  /-- How the cycles ended that are over, the last one at the end. -/
  conclusions : List Conclusion := []
  /-- How often the loop was given control. -/
  turns : Nat := 0

namespace Host

/-- What goes on in a host whoever has the lock. -/
inductive Stirring (host : Host) : Host → Prop where
  | surroundings (world : World) (tree : FileTree) (clock : Nat) (agenda : Agenda)
      (watcher : Option Watcher) (runner : Runner) (journal : Journal) :
      Stirring host { host with world, tree, clock, agenda, watcher, runner, journal }
  | publish (event : Event) : Stirring host (after (publish event).run host)
  | receive (line : String) : Stirring host (after (receive line).run host)
  | task (id : TaskId) : Stirring host (after (runTask id) host)
  | request : Stirring host (after requestReload host)

/-- What a call does before it waits for the lock. -/
def beginCall : Purpose → Step Unit
  | .reload => pure ()
  | .shutDown => changeLoops ReloadLoops.retire

/-- What a party does once its cycle is over. -/
def leave : Party → Conclusion → Step Unit
  | .loop, .reloaded (.error error) =>
    if error.isFatal then abortLoop 0 error else wakeFirst (.reloadLoop 0)
  | .loop, _ => wakeFirst (.reloadLoop 0)
  | .call, _ => pure ()

/-- A loop that runs by itself takes the lock, goes through the junctures of a reload and
leaves. -/
theorem runLoop_drive (budget : Nat) :
    runLoop budget 0 = (do
      if ← continueLoop 0 then
        changeLoops ReloadLoops.occupy
        let conclusion? ← drive budget 6 (.entered .reload)
        changeLoops ReloadLoops.release
        conclusion?.forM (leave .loop)) := by
  simp only [runLoop, reload, drive_reload, bind_assoc, pure_bind]
  refine bind_congr fun due => ?_
  cases due with
  | false => rfl
  | true =>
      refine bind_congr fun _ => bind_congr fun result => bind_congr fun _ => ?_
      cases result <;> rfl

end Host

namespace Scene

open Host

def party (scene : Scene) : Option Party :=
  scene.holder.map (·.party)

/-- One step of a scene. Before a call that shuts the host down has returned, anything may be
done to the host while nobody has the lock. The lock is free at the end of a cycle, or kept for
the loop if that stands in line, or it passes to a call that waits for it. -/
inductive Step (scene : Scene) : Scene → Prop where
  | stir {host : Host} (stirs : Stirring scene.host host) : Step scene { scene with host }
  | aside (operation : Operation) (aside : operation.aside) (idle : scene.holder = none)
      (unfinished : Conclusion.shutDown ∉ scene.conclusions) :
      Step scene { scene with host := after (operate operation) scene.host }
  | start (absent : scene.host.loops.points = []) :
      Step scene { scene with host := after startLoop scene.host }
  | turn (apart : scene.party ≠ some .loop) (awake : scene.host.loops.isAwake = true)
      (passes : answer (continueLoop 0) scene.host = false) : Step scene
      { scene with
        host := after (continueLoop 0) scene.host
        turns := scene.turns + 1 }
  | enter (due : answer (continueLoop 0) scene.host = true) : Step scene
      { scene with
        host := after (changeLoops ReloadLoops.occupy) (after (continueLoop 0) scene.host)
        holder := some ⟨.loop, .entered .reload⟩
        turns := scene.turns + 1 }
  | call (purpose : Purpose) : Step scene
      { scene with
        host := after (beginCall purpose) scene.host
        waiting := scene.waiting ++ [purpose] }
  | grant {purpose : Purpose} (waits : purpose ∈ scene.waiting)
      (free : scene.host.loops.occupied = false) : Step scene
      { scene with
        host := after (changeLoops ReloadLoops.occupy) scene.host
        holder := some ⟨.call, .entered purpose⟩
        waiting := scene.waiting.erase purpose }
  | goOn {holder : Holder} (held : scene.holder = some holder) {next : Juncture}
      (goes : answer (proceed holder.juncture) scene.host = .inl next) : Step scene
      { scene with
        host := after (proceed holder.juncture) scene.host
        holder := some { holder with juncture := next } }
  | finish {holder : Holder} (held : scene.holder = some holder) {conclusion : Conclusion}
      (ends : answer (proceed holder.juncture) scene.host = .inr conclusion) : Step scene
      { scene with
        host := after (leave holder.party conclusion) (after (changeLoops ReloadLoops.release)
          (after (proceed holder.juncture) scene.host))
        holder := none
        conclusions := scene.conclusions ++ [conclusion] }
  | hand {holder : Holder} (held : scene.holder = some holder) {conclusion : Conclusion}
      (ends : answer (proceed holder.juncture) scene.host = .inr conclusion)
      {purpose : Purpose} (waits : purpose ∈ scene.waiting) : Step scene
      { scene with
        host := after (leave holder.party conclusion) (after (proceed holder.juncture) scene.host)
        holder := some ⟨.call, .entered purpose⟩
        waiting := scene.waiting.erase purpose
        conclusions := scene.conclusions ++ [conclusion] }

abbrev Path : Scene → Scene → Prop :=
  Relation.ReflTransGen Step

end Scene

namespace Host

/-! ## What goes on beside a cycle -/

section Loops

variable {fact : ReloadLoops → Prop} (request : ∀ loops, fact loops → fact loops.request.1)
include request

theorem bystanding_of_loops : Bystanding fun host => fact host.loops where
  still _ _ loops _ _ holds := loops ▸ holds
  request host holds := by
    change fact (after (changeLoops ReloadLoops.request) host).loops
    rw [changeLoops_loops]
    exact request _ holds

theorem Stirring.loops {host next : Host} (stirs : Stirring host next) (holds : fact host.loops) :
    fact next.loops := by
  have aside := bystanding_of_loops request
  cases stirs with
  | surroundings => exact holds
  | publish event => exact aside.acts (fun _ => publish_acts [] event) host holds
  | receive line => exact aside.acts (fun _ => receive_acts line) host holds
  | task id => exact aside.acts (fun _ => runTask_acts trivial) host holds
  | request => exact aside.request host holds

end Loops

/-- What serving events keeps of a wiring is kept by all that goes on. -/
theorem Stirring.wired {fact : Wiring → Prop}
    (kept : ∀ {host next : Host}, Reaches false host next → fact host.wiring → fact next.wiring)
    {host next : Host} (stirs : Stirring host next) (holds : fact host.wiring) :
    fact next.wiring := by
  cases stirs with
  | surroundings => exact holds
  | publish event => exact kept (publish_reaches event host .refl) holds
  | receive line => exact kept (receive_reaches line host .refl) holds
  | task id => exact kept (runTask_reaches id host .refl) holds
  | request => exact kept (requestReload_reaches host .refl) holds

/-- What is left of a host in which nobody listens and nothing runs. -/
structure Remnant where
  arena : List LoadedScript
  registry : Registry
  bus : Bus Delivery
  supervisor : Supervisor
  tally : Tally

def remnant (host : Host) : Remnant where
  arena := host.arena
  registry := host.registry
  bus := host.bus
  supervisor := host.supervisor
  tally := host.tally

/-- Nothing but the loops and the agenda has changed. -/
structure Unmoved (host next : Host) : Prop where
  parts : next.parts = host.parts
  remnant : next.remnant = host.remnant

theorem Unmoved.trans {first second third : Host} (before : Unmoved first second)
    (later : Unmoved second third) : Unmoved first third :=
  ⟨later.parts.trans before.parts, later.remnant.trans before.remnant⟩

theorem changeLoops_unmoved (change : ReloadLoops → ReloadLoops × Option LoopId) (host : Host) :
    Unmoved host (after (changeLoops change) host) := by
  have kept : Keeps (Unmoved host) (changeLoops change) :=
    .bind (fun _ same => ⟨same.parts, same.remnant⟩) fun _ =>
      .option_forM (fun _ _ same => ⟨same.parts, same.remnant⟩) _
  exact kept host ⟨rfl, rfl⟩

theorem continueLoop_unmoved (id : LoopId) (host : Host) :
    Unmoved host (after (continueLoop id) host) := by
  rw [after_continueLoop]
  obtain ⟨loops, move⟩ := host.loops.step id !host.reloading.debounce.isZero
  cases move <;> exact ⟨rfl, rfl⟩

theorem startLoop_unmoved (host : Host) : Unmoved host (after startLoop host) :=
  ⟨rfl, rfl⟩

theorem beginCall_unmoved (purpose : Purpose) (host : Host) :
    Unmoved host (after (beginCall purpose) host) := by
  cases purpose with
  | reload => exact ⟨rfl, rfl⟩
  | shutDown => exact changeLoops_unmoved _ host

theorem leave_unmoved (party : Party) (conclusion : Conclusion) (host : Host) :
    Unmoved host (after (leave party conclusion) host) := by
  unfold leave
  split
  · split <;> exact ⟨rfl, rfl⟩
  · exact ⟨rfl, rfl⟩
  · exact ⟨rfl, rfl⟩

theorem Emptied.of_remnant {host next : Host} (emptied : host.Emptied)
    (same : next.remnant = host.remnant) : next.Emptied := by
  obtain ⟨unloaded, cleared, deaf, idle⟩ := emptied
  constructor
  · exact (congrArg Remnant.arena same).trans unloaded
  · exact (congrArg (·.registry.managers) same).trans cleared
  · exact (congrArg (·.bus.listeners) same).trans deaf
  · exact (congrArg (·.supervisor.tasks) same).trans idle

theorem runTask_of_idle {host : Host} (idle : host.supervisor.tasks = []) (id : TaskId) :
    after (runTask id) host = host := by
  have untracked : host.supervisor.task? id = none := by
    rw [Supervisor.task?, idle]
    rfl
  rw [runTask, after_get_bind, untracked]
  rfl

theorem requestReload_of_shut {host : Host} (shut : host.loops.shutDown = true) :
    after requestReload host = host := by
  have ignored : host.loops.request = (host.loops, none) := if_pos shut
  rw [requestReload, changeLoops_of_none (congrArg Prod.snd ignored), ignored]

/-- Nothing that goes on changes what is left, and after a shutdown requests are ignored. -/
theorem Stirring.still {host next : Host} (stirs : Stirring host next)
    (deaf : host.bus.listeners = []) (idle : host.supervisor.tasks = []) :
    next.remnant = host.remnant ∧ (host.loops.shutDown = true → next.loops = host.loops) := by
  have silent (event : Event) : after (Host.publish event).run host = host :=
    congrArg Prod.snd (publish_unheard deaf event)
  cases stirs with
  | surroundings => exact ⟨rfl, fun _ => rfl⟩
  | publish event =>
      rw [silent event]
      exact ⟨rfl, fun _ => rfl⟩
  | receive line =>
      change (ran (Host.receive line) host).2.remnant = _ ∧
        (_ → (ran (Host.receive line) host).2.loops = _)
      unfold Host.receive
      split
      · exact ⟨rfl, fun _ => rfl⟩
      · exact ⟨rfl, fun _ => rfl⟩
      · rename_i event _
        rw [ran_lift_bind, ran_bind_ok (publish_unheard (by exact deaf) event)]
        exact ⟨rfl, fun _ => rfl⟩
  | task id =>
      rw [runTask_of_idle idle]
      exact ⟨rfl, fun _ => rfl⟩
  | request =>
      refine ⟨(changeLoops_unmoved _ _).remnant, fun shut => ?_⟩
      rw [requestReload_of_shut shut]

/-! ## The end of a cycle -/

/-- Only a loop whose cycle failed is over. -/
theorem leave_loops (party : Party) (conclusion : Conclusion) (host : Host) :
    (after (leave party conclusion) host).loops = host.loops ∨
      party = .loop ∧ ∃ error, conclusion = .reloaded (.error error) ∧ error.isFatal = true ∧
        (after (leave party conclusion) host).loops = host.loops.finish 0 (some error) := by
  unfold leave
  split
  · rename_i error
    split
    · rename_i fatal
      exact .inr ⟨rfl, error, rfl, fatal, rfl⟩
    · exact .inl rfl
  · exact .inl rfl
  · exact .inl rfl

end Host

open Host

/-! ## What a juncture asks for -/

theorem Juncture.Reached.of_parts {juncture : Juncture} {host later : Host}
    (reached : juncture.Reached host) (same : later.parts = host.parts) :
    juncture.Reached later := by
  have wired := wiring_of_parts same
  have tasks : later.supervisor = host.supervisor := congrArg (·.core.supervisor) same
  cases juncture with
  | cancelling =>
      change later.wiring.Unsubscribed
      rw [wired]
      exact reached
  | unloading =>
      change later.wiring.Unsubscribed ∧ later.supervisor.tasks = []
      rw [wired, tasks]
      exact reached
  | _ => trivial

theorem Juncture.Reached.stir {juncture : Juncture} {host later : Host}
    (wired : host.wiring.Sound) (reached : juncture.Reached host) (stirs : Stirring host later) :
    juncture.Reached later := by
  have unsubscribed (before : host.wiring.Unsubscribed) : later.wiring.Unsubscribed :=
    stirs.wired (fun path => path.unsubscribed) before
  cases juncture with
  | cancelling => exact unsubscribed reached
  | unloading =>
      have mute : Mute host.core host := ⟨rfl, wired, reached.1⟩
      have still := (stirs.still mute.deaf reached.2).1
      exact ⟨unsubscribed reached.1, (congrArg (·.supervisor.tasks) still).trans reached.2⟩
  | _ => trivial

namespace Scene

open ReloadLoops

variable {scene next : Scene}

/-! ## What holds in every scene -/

private theorem operate_loops {fact : ReloadLoops → Prop}
    (request : ∀ loops, fact loops → fact loops.request.1) {operation : Operation}
    (aside : operation.aside) {host : Host} (holds : fact host.loops) :
    fact (after (operate operation) host).loops :=
  (bystanding_of_loops request).acts (fun _ => operate_aside aside (.inr trivial)) host holds

private theorem proceed_loops {fact : ReloadLoops → Prop}
    (request : ∀ loops, fact loops → fact loops.request.1) (juncture : Juncture) {host : Host}
    (holds : fact host.loops) : fact (after (proceed juncture) host).loops :=
  (bystanding_of_loops request).proceed juncture host holds

/-- Wherever the loop is, every step leaves it in its place or takes it to another one. -/
theorem Step.stationed (step : Step scene next)
    (stationed : Stationed scene.party scene.host.loops) :
    Stationed next.party next.host.loops := by
  cases step with
  | stir stirs => exact stirs.loops (fun _ => Stationed.request) stationed
  | aside operation aside => exact operate_loops (fun _ => Stationed.request) aside stationed
  | start absent => exact stationed.start absent
  | turn apart awake passes =>
      rw [answer_continueLoop] at passes
      have loops := continueLoop_loops 0 scene.host
      dsimp only
      rw [loops]
      exact stationed.pass apart (of_decide_eq_false passes)
  | enter due =>
      rw [answer_continueLoop] at due
      dsimp only
      rw [changeLoops_loops, continueLoop_loops]
      exact (stationed.enter (of_decide_eq_true due)).2
  | call purpose => cases purpose with
    | reload => exact stationed
    | shutDown =>
        dsimp only [beginCall]
        rw [changeLoops_loops]
        exact stationed.retire
  | grant waits free =>
      dsimp only
      rw [changeLoops_loops]
      exact (stationed.grant free).2
  | @goOn holder held juncture goes =>
      have same : scene.party = some holder.party := congrArg _ held
      rw [same] at stationed
      exact proceed_loops (fun _ => Stationed.request) holder.juncture stationed
  | @finish holder held conclusion ends =>
      have same : scene.party = some holder.party := congrArg _ held
      rw [same] at stationed
      have ended := proceed_loops (fun _ => Stationed.request) holder.juncture stationed
      have released := changeLoops_loops release (after (proceed holder.juncture) scene.host)
      rcases leave_loops holder.party conclusion (after (changeLoops release)
        (after (proceed holder.juncture) scene.host)) with same | ⟨loop, error, _, _, aborted⟩
      · change Stationed none _
        rw [same, released]
        exact ended.release
      · change Stationed none _
        rw [aborted, released]
        rw [loop] at ended
        exact (ended.abort error).1
  | @hand holder held conclusion ends purpose waits =>
      have same : scene.party = some holder.party := congrArg _ held
      rw [same] at stationed
      have ended := proceed_loops (fun _ => Stationed.request) holder.juncture stationed
      rcases leave_loops holder.party conclusion (after (proceed holder.juncture) scene.host)
        with same | ⟨loop, error, _, _, aborted⟩
      · change Stationed (some .call) _
        rw [same]
        exact ended.hand
      · change Stationed (some .call) _
        rw [aborted]
        rw [loop] at ended
        exact (ended.abort error).2

/-- A shutdown is not taken back. -/
theorem Step.shut (step : Step scene next) (shut : scene.host.loops.shutDown = true) :
    next.host.loops.shutDown = true := by
  have request (loops : ReloadLoops) (shut : loops.shutDown = true) :
      loops.request.1.shutDown = true := (request_shutDown loops).trans shut
  have turned : (after (continueLoop 0) scene.host).loops.shutDown = true :=
    (continueLoop_shutDown 0 scene.host).trans shut
  have left (party : Party) (conclusion : Conclusion) {host : Host}
      (shut : host.loops.shutDown = true) :
      (after (leave party conclusion) host).loops.shutDown = true := by
    rcases leave_loops party conclusion host with same | ⟨_, error, _, _, aborted⟩
    · exact same ▸ shut
    · exact aborted ▸ shut
  cases step with
  | stir stirs => exact stirs.loops request shut
  | aside operation aside => exact operate_loops request aside shut
  | start absent => exact shut
  | turn => exact turned
  | enter =>
      dsimp only
      rw [changeLoops_loops]
      exact turned
  | call purpose => cases purpose with
    | reload => exact shut
    | shutDown =>
        dsimp only [beginCall]
        rw [changeLoops_loops, retire_shutDown]
  | grant =>
      dsimp only
      rw [changeLoops_loops]
      exact shut
  | @goOn holder => exact proceed_loops request holder.juncture shut
  | @finish holder =>
      refine left _ _ ?_
      rw [changeLoops_loops, release_shutDown]
      exact proceed_loops request holder.juncture shut
  | @hand holder => exact left _ _ (proceed_loops request holder.juncture shut)

/-- What holds in every scene. -/
structure Sound (scene : Scene) : Prop where
  wired : scene.host.wiring.Sound
  stationed : Stationed scene.party scene.host.loops
  /-- A cycle has reached what its juncture asks for. -/
  reached : ∀ holder, scene.holder = some holder → holder.juncture.Reached scene.host
  /-- No call shuts the host down unknown to the loop. -/
  told : scene.host.loops.shutDown = true ∨ Purpose.shutDown ∉ scene.waiting ∧
    ∀ holder, scene.holder = some holder → holder.juncture.purpose = .reload
  /-- The loop does nothing but reload. -/
  looping : ∀ holder, scene.holder = some holder → holder.party = .loop →
    holder.juncture.purpose = .reload

theorem Step.wired (step : Step scene next) (sound : scene.Sound) : next.host.wiring.Sound := by
  have ⟨wired, reached⟩ := And.intro sound.wired sound.reached
  have unmoved {host next : Host} (same : Unmoved host next) (wired : host.wiring.Sound) :
      next.wiring.Sound := by
    rw [wiring_of_parts same.parts]
    exact wired
  have proceeded {holder : Holder} (held : scene.holder = some holder) :
      (after (proceed holder.juncture) scene.host).wiring.Sound :=
    (proceed_reaches .refl (reached holder held)).sound wired
  cases step with
  | stir stirs => exact stirs.wired (fun path => path.sound) wired
  | aside operation =>
      rcases operate_reaches (.refl : Reaches true scene.host scene.host) operation
        with path | ⟨tree, written⟩
      · exact path.sound wired
      · dsimp only
        rw [written]
        exact wired
  | start => exact unmoved (startLoop_unmoved _) wired
  | turn => exact unmoved (continueLoop_unmoved 0 _) wired
  | enter => exact unmoved ((continueLoop_unmoved 0 _).trans (changeLoops_unmoved _ _)) wired
  | call purpose => exact unmoved (beginCall_unmoved purpose _) wired
  | grant => exact unmoved (changeLoops_unmoved _ _) wired
  | goOn held => exact proceeded held
  | finish held =>
      exact unmoved ((changeLoops_unmoved _ _).trans (leave_unmoved _ _ _)) (proceeded held)
  | hand held => exact unmoved (leave_unmoved _ _ _) (proceeded held)

theorem Step.reached (step : Step scene next) (sound : scene.Sound) :
    ∀ holder, next.holder = some holder → holder.juncture.Reached next.host := by
  have ⟨wired, reached⟩ := And.intro sound.wired sound.reached
  have entered {party : Party} {purpose : Purpose} {holder : Holder} {host : Host}
      (held : some ⟨party, .entered purpose⟩ = some holder) : holder.juncture.Reached host := by
    cases held
    trivial
  have unmoved {host : Host} (same : Unmoved scene.host host) :
      ∀ holder, scene.holder = some holder → holder.juncture.Reached host :=
    fun holder held => (reached holder held).of_parts same.parts
  cases step with
  | stir stirs => exact fun holder held => (reached holder held).stir wired stirs
  | aside operation aside idle =>
      intro holder held
      rw [show scene.holder = some holder from held] at idle
      cases idle
  | start => exact unmoved (startLoop_unmoved _)
  | turn => exact unmoved (continueLoop_unmoved 0 _)
  | enter => exact fun holder held => entered held
  | call purpose => exact unmoved (beginCall_unmoved purpose _)
  | grant => exact fun holder held => entered held
  | goOn held goes =>
      rintro holder' same
      cases same
      have reaches := proceed_reached wired (reached _ held)
      rw [goes] at reaches
      exact reaches
  | finish => exact fun holder none => by cases none
  | hand => exact fun holder held => entered held

theorem Step.told (step : Step scene next) (sound : scene.Sound) :
    next.host.loops.shutDown = true ∨ Purpose.shutDown ∉ next.waiting ∧
      ∀ holder, next.holder = some holder → holder.juncture.purpose = .reload := by
  have entered {party : Party} {purpose : Purpose} (other : purpose ≠ .shutDown) :
      ∀ holder, some (⟨party, .entered purpose⟩ : Holder) = some holder →
        holder.juncture.purpose = .reload := by
    rintro _ ⟨⟩
    cases purpose with
    | reload => rfl
    | shutDown => exact absurd rfl other
  rcases sound.told with shut | ⟨unasked, reloads⟩
  · exact .inl (step.shut shut)
  have waits {purpose : Purpose} (waits : purpose ∈ scene.waiting) : purpose ≠ .shutDown := by
    rintro rfl
    exact unasked waits
  have fewer (purpose : Purpose) : Purpose.shutDown ∉ scene.waiting.erase purpose :=
    fun member => unasked (List.mem_of_mem_erase member)
  cases step with
  | enter => exact .inr ⟨unasked, entered (by simp)⟩
  | call purpose => cases purpose with
    | reload =>
        refine .inr ⟨fun member => ?_, reloads⟩
        rcases List.mem_append.mp member with before | last
        · exact unasked before
        · cases List.mem_singleton.mp last
    | shutDown =>
        refine .inl ?_
        dsimp only [beginCall]
        rw [changeLoops_loops, retire_shutDown]
  | grant asked => exact .inr ⟨fewer _, entered (waits asked)⟩
  | @goOn holder held _ goes =>
      refine .inr ⟨unasked, ?_⟩
      rintro _ ⟨⟩
      have onward := proceed_onward scene.host holder.juncture
      rw [goes] at onward
      exact onward.1.trans (reloads _ held)
  | finish => exact .inr ⟨unasked, fun holder none => by cases none⟩
  | hand held ends asked => exact .inr ⟨fewer _, entered (waits asked)⟩
  | _ => exact .inr ⟨unasked, reloads⟩

theorem Step.looping (step : Step scene next) (sound : scene.Sound) :
    ∀ holder, next.holder = some holder → holder.party = .loop →
      holder.juncture.purpose = .reload := by
  cases step with
  | enter =>
      rintro _ ⟨⟩ _
      rfl
  | grant => rintro _ ⟨⟩ ⟨⟩
  | @goOn holder held _ goes =>
      rintro _ ⟨⟩ loop
      have onward := proceed_onward scene.host holder.juncture
      rw [goes] at onward
      exact onward.1.trans (sound.looping holder held loop)
  | finish => exact fun holder none => by cases none
  | hand => rintro _ ⟨⟩ ⟨⟩
  | _ => exact sound.looping

theorem Step.sound (step : Step scene next) (sound : scene.Sound) : next.Sound :=
  ⟨step.wired sound, step.stationed sound.stationed, step.reached sound, step.told sound,
    step.looping sound⟩

/-- Nothing has happened yet to the host of a fresh scene. -/
theorem Sound.fresh (config : ScriptingConfig) (dataDirectory : String) (tree : FileTree)
    (vocabulary : Vocabulary) (shelf : ScriptShelf) :
    Sound { host := create config dataDirectory tree vocabulary shelf } where
  wired := .empty
  stationed := .roaming (by simp [party]) .absent fun shut => by cases shut
  reached holder held := by cases held
  told := .inr ⟨List.not_mem_nil, fun holder held => by cases held⟩
  looping holder held := by cases held

theorem Path.sound (path : Path scene next) (sound : scene.Sound) : next.Sound := by
  induction path with
  | refl => exact sound
  | tail _ step previous => exact step.sound previous

end Scene

end HomeRules
