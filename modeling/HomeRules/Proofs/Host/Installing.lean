import HomeRules.Proofs.Discovery
import HomeRules.Proofs.Host.Contexts
import HomeRules.Proofs.Host.Preparing
import HomeRules.Proofs.Host.Runs

/-!
# What a cycle installs

After any history, a load cycle installs what the directory promises and nothing else:
its report names every discovered file once, and what is live is what the contexts of the
loaded scripts hold, all of the new generation.
-/

set_option autoImplicit false

namespace HomeRules

/-! ## Lines and handles -/

theorem Manager.lines_kinds {manager : Manager} (sound : manager.Sound) :
    manager.lines.map (·.kind) =
      (manager.handles.map (·.kind)).filter EventKind.isPushed := by
  have each (subscriptions : List Subscription) (fed : ∀ subscription ∈ subscriptions,
      subscription.feed.listener?.isSome = subscription.kind.isPushed) :
      (subscriptions.filterMap manager.line?).map (·.kind) =
        ((subscriptions.map manager.handle).map (·.kind)).filter EventKind.isPushed := by
    induction subscriptions with
    | nil => rfl
    | cons subscription rest previous =>
        have later := previous fun other member => fed other (List.mem_cons_of_mem _ member)
        have here := fed subscription List.mem_cons_self
        rw [List.map_cons, List.map_cons, List.filter_cons,
          show (manager.handle subscription).kind = subscription.kind from rfl, ← here]
        cases found : subscription.feed.listener? with
        | none => simpa [Manager.line?, found] using later
        | some id => simpa [Manager.line?, found] using later
  exact each manager.subscriptions sound.fed

namespace Host

/-- The platform listens to the kinds of pushed events among the live subscriptions. -/
theorem Wiring.Sound.listened {wiring : Wiring} (sound : wiring.Sound) :
    wiring.bus.kinds.Perm ((wiring.handles.map (·.kind)).filter EventKind.isPushed) := by
  have kinds : wiring.lines.map (·.kind) =
      (wiring.handles.map (·.kind)).filter EventKind.isPushed := by
    have each (managers : List Manager) (sound : ∀ manager ∈ managers, manager.Sound) :
        (managers.flatMap Manager.lines).map (·.kind) =
          ((managers.flatMap Manager.handles).map (·.kind)).filter EventKind.isPushed := by
      induction managers with
      | nil => rfl
      | cons manager rest previous =>
          rw [List.flatMap_cons, List.flatMap_cons, List.map_append, List.map_append,
            List.filter_append, Manager.lines_kinds (sound manager List.mem_cons_self),
            previous fun other member => sound other (List.mem_cons_of_mem _ member)]
    exact each wiring.registry.managers sound.managers
  have heard := sound.heard.map (·.kind)
  rw [kinds, List.map_map] at heard
  exact heard

/-- Whatever is live is of the one generation of the managers. -/
theorem Wiring.Sound.handle_generation {wiring : Wiring} (sound : wiring.Sound) {handle : Handle}
    (live : handle ∈ wiring.handles) : handle.generation = wiring.registry.generation := by
  obtain ⟨manager, present, inside⟩ := List.mem_flatMap.mp live
  obtain ⟨subscription, -, rfl⟩ := List.mem_map.mp inside
  exact sound.uniform manager present

/-! ## What is installed -/

/-- The kinds of events that every loaded script ends up subscribed to, as the directory
promises them. -/
def Environment.bindings (environment : Environment) : List (String × List EventKind) :=
  (environment.prospects.1.filterMap Prospect.binding?).map fun (script, kinds) =>
    (script, kinds.filter fun kind => environment.prospects.2 kind.manager ≠ some .closed)

/-- A generation is installed from an environment. -/
structure Installed (environment : Environment) (generation : Generation)
    (contexts : List LoadContext) (report : CycleReport) (host : Host) : Prop where
  numbered : report.generation = generation ∧ host.generation = generation
  /-- The files come in the order of their names, each of them once. -/
  ordered : (discover environment.tree environment.reloading.directory
    environment.reloading.config).Pairwise (· < ·)
  /-- Every file comes to one script or one error. -/
  complete : List.Forall₂ Prospect.Concerns environment.paths environment.prospects.1
  loaded : report.loaded =
    (environment.prospects.1.filterMap Prospect.script?).map (·.id)
  failed : report.failed = environment.prospects.1.filterMap (Prospect.error? generation)
  /-- The contexts are those of the loaded scripts. -/
  bound : contexts.map (fun context => (context.script, context.handles.map (·.kind))) =
    environment.prospects.1.filterMap Prospect.binding?
  /-- They hold what is live, unless a native script has stopped a manager. -/
  live : host.wiring.handles.Perm
    (contexts.flatMap fun context => Wiring.liveOf environment.prospects.2 context.handles)
  current : ∀ handle ∈ host.wiring.handles, handle.generation = generation
  managers : ∀ manager ∈ host.registry.managers, manager.generation = generation ∧
    (host.gate manager.gate).phase =
      if environment.prospects.2 manager.kind = some .closed then .closed else .opened
  /-- The listeners are those that feed the live subscriptions. -/
  heard : (host.bus.listeners.map Listener.line).Perm host.wiring.lines
  /-- What is live depends on nothing but the environment. -/
  determined : contexts.map (fun context => (context.script,
      (Wiring.liveOf environment.prospects.2 context.handles).map (·.kind))) =
    environment.bindings
  listened : host.bus.kinds.Perm
    ((environment.bindings.flatMap Prod.snd).filter EventKind.isPushed)
  /-- Where no native script stops the managers, everything held is live and every manager
  delivers. -/
  whole : (∀ name native, environment.shelf.get? name = some native → native.Sparing) →
    host.wiring.handles.Perm (contexts.flatMap (·.handles)) ∧
      ∀ manager ∈ host.registry.managers, (host.gate manager.gate).isOpen

/-! ## Delivering -/

theorem resumeRegistry_wiring {host : Host} {generation : Generation}
    (current : host.registry.generation = generation) :
    (after (resumeRegistry generation) host).wiring =
      (host.wiring.registry.managers.map (·.kind)).foldl Wiring.resume
        { host.wiring with registry := { host.wiring.registry with resumed := true } } := by
  have each (kinds : List ManagerKind) (host : Host) :
      (after (kinds.forM resumeManager) host).wiring =
        kinds.foldl Wiring.resume host.wiring := by
    induction kinds generalizing host with
    | nil => rfl
    | cons kind rest previous =>
        have resumed := previous (after (resumeManager kind) host)
        rw [resumeManager_wiring] at resumed
        exact resumed
  have kinds : managerKinds host = host.wiring.registry.managers.map (·.kind) := by
    simp only [managerKinds, wiring, Registry.bare, List.map_map]
    rfl
  unfold resumeRegistry
  rw [after_get_bind, if_pos current, ← kinds]
  exact each (managerKinds host) _

namespace Wiring

variable {generation : Generation} {held : List Handle} {wiring : Wiring}

/-- When the managers that wait begin to deliver, nothing else changes. -/
theorem Waiting.deliver (waiting : wiring.Waiting generation held) {next : Wiring}
    (resumed : next = (wiring.registry.managers.map (·.kind)).foldl Wiring.resume
      { wiring with registry := { wiring.registry with resumed := true } }) :
    next.Sound ∧ next.registry = { wiring.registry with resumed := true } ∧
      next.standing = wiring.standing.resume := by
  subst resumed
  have sound := waiting.sound.keepRecords wiring.registry.registrations true
  obtain ⟨-, registry, delivering, stands⟩ := sound.resumeAll
  exact ⟨delivering, registry, stands⟩

theorem Waiting.resumed_phase (waiting : wiring.Waiting generation held) {kind : ManagerKind}
    {phase : GatePhase} (stands : wiring.standing.resume kind = some phase) :
    phase = if wiring.standing kind = some .closed then .closed else .opened := by
  have unopened := waiting.unopened kind
  unfold Standings.resume at stands
  cases found : wiring.standing kind with
  | none => simp [found] at stands
  | some before =>
      rw [found, Option.map_some, Option.some.injEq] at stands
      subst stands
      cases before with
      | pending => rfl
      | opened => exact absurd found unopened
      | closed => rfl

/-- The kinds of events among the live handles that are held. -/
theorem Waiting.live_kinds (waiting : wiring.Waiting generation held) {handles : List Handle}
    (inside : ∀ handle ∈ handles, handle ∈ held) (standings : Standings) :
    (liveOf standings handles).map (·.kind) =
      (handles.map (·.kind)).filter fun kind => standings kind.manager ≠ some .closed := by
  rw [List.filter_map]
  refine congrArg _ (List.filter_congr fun handle member => ?_)
  rw [waiting.sourced handle (inside handle member)]
  rfl

end Wiring

/-! ## The whole cycle -/

/-- The contexts of the scripts that a cycle loads. -/
def loadedContexts (budget : Nat) (host : Host) : List LoadContext :=
  let ready := after (prepare budget) (after (changeLoops ReloadLoops.occupy) host)
  contexts (answer ((scriptPaths ready).mapM (loadKeeping ready.generation)) ready)

/-- What a load that is done comes to when its managers deliver. -/
theorem Loading.installs {environment : Environment} {generation : Generation}
    {results : List (Except LoadError (LoadedScript × LoadContext))} {loaded host : Host}
    (loading : Loading environment generation (results.flatMap kept) loaded)
    (fulfilled : List.Forall₂ (Fulfils generation) results environment.prospects.1)
    (stands : loaded.wiring.standing = environment.prospects.2)
    (resumed : host.wiring = (loaded.wiring.registry.managers.map (·.kind)).foldl Wiring.resume
      { loaded.wiring with registry := { loaded.wiring.registry with resumed := true } })
    (current : host.generation = generation) {report : CycleReport}
    (numbered : report.generation = generation)
    (listed : report.loaded = (environment.prospects.1.filterMap Prospect.script?).map (·.id))
    (refused : report.failed =
      environment.prospects.1.filterMap (Prospect.error? generation)) :
    Installed environment generation (contexts results) report host := by
  have waiting := loading.waiting
  obtain ⟨-, bound, held⟩ := fulfilled_lists fulfilled
  obtain ⟨sound, registry, standing⟩ := waiting.deliver resumed
  have handles : host.wiring.handles = loaded.wiring.handles := by
    rw [Wiring.handles, registry]
    rfl
  have live : host.wiring.handles.Perm ((contexts results).flatMap fun context =>
      Wiring.liveOf environment.prospects.2 context.handles) := by
    have kept := waiting.live
    rw [stands, held, Wiring.liveOf, List.filter_flatMap] at kept
    rw [handles]
    exact kept
  have aged : host.wiring.registry.generation = generation := by
    rw [registry]
    exact waiting.current
  have inside : ∀ context ∈ contexts results, ∀ handle ∈ context.handles,
      handle ∈ results.flatMap Host.kept := by
    intro context member handle present
    rw [held]
    exact List.mem_flatMap.mpr ⟨context, member, present⟩
  have determined : (contexts results).map (fun context => (context.script,
      (Wiring.liveOf environment.prospects.2 context.handles).map (·.kind))) =
        environment.bindings := by
    rw [Environment.bindings, ← bound, List.map_map]
    refine List.map_congr_left fun context member => ?_
    exact congrArg (Prod.mk context.script)
      (waiting.live_kinds (inside context member) environment.prospects.2)
  have managers : ∀ manager ∈ host.registry.managers, manager.generation = generation ∧
      (host.gate manager.gate).phase =
        if environment.prospects.2 manager.kind = some .closed then .closed else .opened := by
    intro manager member
    have present : manager.bare ∈ host.wiring.registry.managers := List.mem_map_of_mem member
    refine ⟨(sound.uniform manager.bare present).trans aged, ?_⟩
    rw [← stands]
    refine waiting.resumed_phase ?_
    rw [← standing, Wiring.standing]
    exact congrArg (Option.map _) (sound.manager?_eq present)
  refine ⟨⟨numbered, current⟩, discover_sorted _ _ _, environment.prospects_concern, listed,
    refused, bound, live, ?_, managers, sound.heard, determined, ?_, fun sparing => ⟨?_, ?_⟩⟩
  · exact fun handle member => (sound.handle_generation member).trans aged
  · have kinds : ((contexts results).flatMap fun context =>
        Wiring.liveOf environment.prospects.2 context.handles).map (·.kind) =
          environment.bindings.flatMap Prod.snd := by
      rw [← determined, List.map_flatMap, List.flatMap_map]
    rw [← kinds]
    exact sound.listened.trans ((live.map _).filter _)
  · have unstopped := environment.prospects_unstopped sparing
    refine live.trans (.of_eq (List.flatMap_congr fun context member => ?_))
    exact List.filter_eq_self.mpr fun handle _ => decide_eq_true (unstopped handle.manager)
  · intro manager member
    have unstopped := environment.prospects_unstopped sparing manager.kind
    have opened := (managers manager member).2
    rw [if_neg unstopped] at opened
    exact decide_eq_true opened

/-- The end of a cycle, once the scripts are loaded. -/
def conclude (budget : Nat) (generation : Generation) (timeouts : List StopTimeout)
    (scripts : List LoadedScript) (failed : List LoadError) :
    Step (Except HostError CycleReport) := do
  runReady budget
  match failed.findSome? LoadError.fatal? with
  | some error => return .error error
  | none => do
    modify fun host => { host with arena := scripts }
    resumeRegistry generation
    let report : CycleReport := { generation, loaded := scripts.map (·.id), failed, timeouts }
    finishCycle report
    return .ok report

/-- The rest of a cycle, once the host is prepared. -/
def install (budget : Nat) (generation : Generation) (timeouts : List StopTimeout) :
    Step (Except HostError CycleReport) := do
  let (scripts, failed) ← loadAll generation
  conclude budget generation timeouts scripts failed

/-- Where no error breaks every later cycle, the managers deliver at the end. -/
theorem conclude_delivers {environment : Environment} {generation : Generation} {host : Host}
    (calm : Calm environment generation host)
    (aged : host.wiring.registry.generation = generation) (budget : Nat)
    (timeouts : List StopTimeout) (scripts : List LoadedScript) {failed : List LoadError}
    (lasting : failed.findSome? LoadError.fatal? = none) :
    let next := after (conclude budget generation timeouts scripts failed) host
    answer (conclude budget generation timeouts scripts failed) host =
        .ok { generation, loaded := scripts.map (·.id), failed, timeouts } ∧
      next.wiring = (host.wiring.registry.managers.map (·.kind)).foldl Wiring.resume
        { host.wiring with registry := { host.wiring.registry with resumed := true } } ∧
      next.generation = generation := by
  intro next
  let report : CycleReport := { generation, loaded := scripts.map (·.id), failed, timeouts }
  let idle : Host := { after (runReady budget) host with arena := scripts }
  have still : Undisturbed environment generation host.wiring (after (runReady budget) host) :=
    runReady_undisturbed budget host ⟨calm, rfl⟩
  have wired : idle.wiring = host.wiring := still.wired
  have current : idle.registry.generation = generation := by
    have same := aged
    rw [← wired] at same
    exact same
  have given : answer (conclude budget generation timeouts scripts failed) host = .ok report := by
    rw [conclude, lasting]
    rfl
  have reached : next = after (finishCycle report) (after (resumeRegistry generation) idle) := by
    change after (conclude budget generation timeouts scripts failed) host = _
    rw [conclude, lasting]
    rfl
  have path : Reaches false idle (after (resumeRegistry generation) idle) :=
    resumeRegistry_reaches generation idle .refl
  have finished := finishCycle_parts report (after (resumeRegistry generation) idle)
  rw [← reached] at finished
  refine ⟨given, ?_, ?_⟩
  · rw [wiring_of_parts finished, resumeRegistry_wiring current, wired]
  · have same := congrArg (fun parts : Parts => parts.core.generation) finished
    exact (same.trans path.generation_eq).trans still.current

theorem install_installs {environment : Environment} {generation : Generation} {host : Host}
    (loading : Loading environment generation [] host)
    (stands : host.wiring.standing = fun _ => none) (budget : Nat)
    (timeouts : List StopTimeout) :
    ∃ report, answer (install budget generation timeouts) host = .ok report ∧
      Installed environment generation
        (contexts (answer ((scriptPaths host).mapM (loadKeeping generation)) host)) report
        (after (install budget generation timeouts) host) := by
  have paths : scriptPaths host = environment.paths := by
    rw [← loading.located]
    rfl
  obtain ⟨fulfilled, loaded, standing⟩ := loading.loadFiles (scriptPaths host)
  obtain ⟨given, reached⟩ := loadAll_eq generation host
  rw [stands, paths] at fulfilled standing
  rw [List.append_nil] at loaded
  rw [paths] at given reached loaded ⊢
  have fulfilled : List.Forall₂ (Fulfils generation)
      (answer (environment.paths.mapM (loadKeeping generation)) host)
      environment.prospects.1 := fulfilled
  rw [(fulfilled_lists fulfilled).1] at given
  obtain ⟨answered, resumed, current⟩ := conclude_delivers loaded.toCalm loaded.waiting.current
    budget timeouts (environment.prospects.1.filterMap Prospect.script?)
    (environment.prospects_lasting generation)
  simp only [install, answer_bind, after_bind, given, reached]
  exact ⟨_, answered, loaded.installs fulfilled standing resumed current rfl rfl rfl⟩

/-- A change of the loops and the journal leaves what is installed alone. -/
theorem Installed.of_parts {environment : Environment} {generation : Generation}
    {contexts : List LoadContext} {report : CycleReport} {host next : Host}
    (installed : Installed environment generation contexts report host)
    (same : next.parts = host.parts) :
    Installed environment generation contexts report next := by
  have wired : next.wiring = host.wiring := wiring_of_parts same
  have aged : next.generation = host.generation :=
    congrArg (fun parts : Parts => parts.core.generation) same
  have bus : next.bus = host.bus := congrArg Parts.bus same
  have registry : next.registry = host.registry := congrArg Parts.registry same
  have gate : next.gate = host.gate :=
    funext fun id => congrArg (fun parts : Parts => parts.gates.getD id {}) same
  refine { installed with numbered := ?_, live := ?_, current := ?_, managers := ?_, heard := ?_,
                          listened := ?_, whole := ?_ }
  · exact ⟨installed.numbered.1, aged.trans installed.numbered.2⟩
  · rw [wired]
    exact installed.live
  · rw [wired]
    exact installed.current
  · rw [registry, gate]
    exact installed.managers
  · rw [bus, wired]
    exact installed.heard
  · rw [bus]
    exact installed.listened
  · rw [wired, registry, gate]
    exact installed.whole

/-- A cycle of a host that is not shut down is prepared, and then installs. -/
theorem runCycle_eq (budget : Nat) :
    runCycle budget = (do
      if (← get).loops.shutDown then return .error .shutDown
      else do
        let (generation, timeouts) ← prepare budget
        install budget generation timeouts) := by
  conv_rhs => simp only [prepare, install, conclude, bind_assoc, pure_bind]
  rfl

/-- After every history, a cycle of a host that is not shut down ends with a report, and
has installed what the directory promises. -/
theorem reload_installs (config : ScriptingConfig) (dataDirectory : String) (tree : FileTree)
    (vocabulary : Vocabulary) (shelf : ScriptShelf) (operations : List Operation)
    (budget : Nat) :
    let host := after (run operations) (create config dataDirectory tree vocabulary shelf)
    if host.loops.shutDown then answer (reload budget) host = .error .shutDown
    else ∃ report, answer (reload budget) host = .ok report ∧
      Installed host.environment (host.generation + 1) (loadedContexts budget host) report
        (after (reload budget) host) := by
  intro host
  have sound : host.wiring.Sound := by
    refine run_keeps (·.wiring.Sound) (fun _ _ path => path.sound) (fun _ _ sound => sound)
      operations _ ?_
    exact .empty
  let occupied : Host := after (changeLoops ReloadLoops.occupy) host
  have parts : occupied.parts = host.parts := changeLoops_parts _ host
  have located : occupied.environment = host.environment :=
    congrArg (fun parts : Parts => parts.core.environment) parts
  have aged : occupied.generation = host.generation :=
    congrArg (fun parts : Parts => parts.core.generation) parts
  have cycled : answer (reload budget) host = answer (runCycle budget) occupied := rfl
  have released : (after (reload budget) host).parts = (after (runCycle budget) occupied).parts :=
    changeLoops_parts ReloadLoops.release _
  rw [runCycle_eq, answer_get_bind] at cycled
  rw [runCycle_eq, after_get_bind] at released
  have same : occupied.loops.shutDown = host.loops.shutDown := rfl
  rw [same] at cycled released
  split
  · rename_i shut
    rw [cycled, if_pos shut]
    rfl
  · rename_i serving
    rw [if_neg serving, answer_bind] at cycled
    rw [if_neg serving, after_bind] at released
    have advanced : (answer (prepare budget) occupied).1 = host.generation + 1 := by
      rw [← aged]
      rfl
    generalize answer (prepare budget) occupied = prepared at cycled released advanced
    obtain ⟨generation, timeouts⟩ := prepared
    subst advanced
    have sound : occupied.wiring.Sound := by
      rw [wiring_of_parts parts]
      exact sound
    obtain ⟨loading, stands⟩ := prepare_loading budget sound
    rw [located, aged] at loading
    obtain ⟨report, given, installed⟩ := install_installs loading stands budget timeouts
    refine ⟨report, cycled.trans given, ?_⟩
    have listed : loadedContexts budget host = contexts (answer
        ((scriptPaths (after (prepare budget) occupied)).mapM (loadKeeping (host.generation + 1)))
        (after (prepare budget) occupied)) := by
      rw [loadedContexts, ← loading.current]
    rw [listed]
    exact installed.of_parts released

/-- A native script that stops the managers while it loads. -/
def quitter : NativeScript where
  name := "quitter"
  onLoad _ := [
    .register true (.ok [{
      key := "motion"
      body := .unconditional (.one (.call "tick" [.report])) }]),
    .stopManagers]

/-- A host whose directory holds this script and nothing else. -/
def quitting : Host :=
  create {} "data"
    (FileTree.put {} "data/scripts/a.toml" ⟨.file "script = \"quitter\"\n".toUTF8, 0⟩) {}
    [("quitter", quitter)]

/-- What a loaded script holds is not live any more when a script has stopped its
manager. -/
theorem quitting_not_live :
    (answer (reload 1) quitting).toOption.map (·.loaded) = some ["a"] ∧
      ¬ (after (reload 1) quitting).wiring.handles.Perm
        ((loadedContexts 1 quitting).flatMap (·.handles)) ∧
      ∃ manager ∈ (after (reload 1) quitting).registry.managers,
        ¬ ((after (reload 1) quitting).gate manager.gate).isOpen := by
  decide +kernel

end Host

end HomeRules
