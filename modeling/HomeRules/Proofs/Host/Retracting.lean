import HomeRules.Proofs.Host.Dormant
import HomeRules.Proofs.Host.Registering

/-!
# Failed loads

The load of a script may fail after rules were bound, after its native script registered
schemas and spawned tasks, or in a panic. All it has acquired is kept in its context, and
withdrawing that leaves the host as the script found it.
-/

set_option autoImplicit false

namespace HomeRules.Host

/-! ## What scripts borrow -/

/-- What does not change while one script loads: the host that it found, and the handles of the
scripts loaded before it. -/
structure Loan where
  start : Host
  environment : Environment
  generation : Generation
  others : List Handle

/-- All that was gained since a script began to load is in its context. `quit` says whether the
script may have stopped the managers. -/
structure Loan.Open (loan : Loan) (settings : Toml.Table) (quit : Prop) (context : LoadContext)
    (host : Host) : Prop where
  settings : context.settings = settings
  generation : context.generation = loan.generation
  loading : Loading loan.environment loan.generation (context.handles ++ loan.others) host
  dormant : Dormant host
  accounted : ∃ base, (base = loan.start ∨ quit ∧ base = loan.start.silenced) ∧
    Accounted base context.handles (context.tasks.map (·.id)) host

/-- A part of a load keeps a fact about the context and the host. -/
def Holds (fact : LoadContext → Host → Prop) {α : Type} (part : StateT LoadContext Step α) :
    Prop :=
  ∀ context host, fact context host →
    fact (answer (part.run context) host).2 (after (part.run context) host)

namespace Holds

variable {fact : LoadContext → Host → Prop} {ε ε' α β : Type}

theorem pure (value : α) : Holds fact (Pure.pure value) :=
  fun _ _ holds => holds

theorem bind {part : StateT LoadContext Step α} {rest : α → StateT LoadContext Step β}
    (first : Holds fact part) (next : ∀ value, Holds fact (rest value)) :
    Holds fact (part >>= rest) :=
  fun context host holds => next _ _ _ (first context host holds)

theorem lift {step : Step α}
    (kept : ∀ context host, fact context host → fact context (after step host)) :
    Holds fact (liftM step : StateT LoadContext Step α) :=
  kept

theorem step {step : Step α}
    (kept : ∀ context host, fact context host → fact context (after step host)) :
    Holds fact (liftM step : Load ε α).run :=
  kept

theorem part {part : StateT LoadContext Step α} (held : Holds fact part) :
    Holds fact (liftM part : Load ε α).run :=
  held

/-- A load may ask for its context. -/
theorem asks {known : LoadContext → Prop}
    (knows : ∀ context host, fact context host → known context) {rest : LoadContext → Load ε β}
    (next : ∀ context, known context → Holds fact (rest context).run) :
    Holds fact (getThe LoadContext >>= rest : Load ε β).run :=
  fun context host holds => next context (knows context host holds) context host holds

theorem load {load : Load ε α} {rest : α → Load ε β} (first : Holds fact load.run)
    (next : ∀ value, Holds fact (rest value).run) : Holds fact (load >>= rest).run := by
  have held : Holds fact (load.run >>= ExceptT.bindCont rest) := by
    refine first.bind fun result => ?_
    cases result with
    | error error => exact .pure _
    | ok value => exact next value
  exact held

theorem adapt (wrap : ε → ε') {load : Load ε α} (held : Holds fact load.run) :
    Holds fact (ExceptT.adapt wrap load).run :=
  held

theorem forM_of_mem {load : α → Load ε PUnit} {values : List α}
    (held : ∀ value ∈ values, Holds fact (load value).run) : Holds fact (values.forM load).run := by
  induction values with
  | nil => exact pure _
  | cons value rest previous =>
      refine Holds.load (held value List.mem_cons_self) fun _ => previous ?_
      exact fun other member => held other (List.mem_cons_of_mem _ member)

end Holds

section Loans

variable {loan : Loan} {settings : Toml.Table} {quit : Prop}

/-- What leaves tasks, listeners and managers alone does not matter. -/
theorem Loan.Open.still {context : LoadContext} {host next : Host}
    (held : loan.Open settings quit context host) (same : next.parts = host.parts) :
    loan.Open settings quit context next := by
  obtain ⟨base, from', accounted⟩ := held.accounted
  have registry : next.registry = host.registry := congrArg Parts.registry same
  refine { held with loading := (held.loading.of_parts same).1, dormant := ?_, accounted := ?_ }
  · exact held.dormant.of_same registry (congrArg Parts.gates same)
  · refine ⟨base, from', accounted.widened (.of_same (fun kind => ?_) (congrArg Parts.bus same)
      (congrArg (·.core.supervisor) same))⟩
    rw [registry]

private theorem Holds.ofStill {α : Type} {step : Step α}
    (same : ∀ host, (after step host).parts = host.parts) :
    Holds (loan.Open settings quit) (liftM step : StateT LoadContext Step α) :=
  .lift fun _ host held => held.still (same host)

/-- A script that registers a schema gets its handles. -/
private theorem addSchema_run {draft : EventDraft} {schema : EventSchema}
    (built : EventDraft.build draft = .ok schema) (context : LoadContext) (host : Host) :
    (answer ((addSchema draft).run context) host).2 =
        (match answer (register context.script context.generation schema) host with
          | .error _ => context
          | .ok handles => { context with handles := context.handles ++ handles }) ∧
      after ((addSchema draft).run context) host =
        after (register context.script context.generation schema) host := by
  have opened : ((addSchema draft).run context).run host = ((match
        answer (register context.script context.generation schema) host with
      | .error error => pure (.error error)
      | .ok handles => do
        set { context with handles := context.handles ++ handles }
        return .ok handles.length : StateT LoadContext Step (Except HostError Nat)).run context).run
          (after (register context.script context.generation schema) host) := by
    unfold addSchema
    rw [built]
    rfl
  rw [answer, after, opened]
  cases answer (register context.script context.generation schema) host with
  | error error => exact ⟨rfl, rfl⟩
  | ok handles => exact ⟨rfl, rfl⟩

theorem addSchema_holds (draft : EventDraft) :
    Holds (loan.Open settings quit) (addSchema draft) := by
  intro context host held
  cases built : EventDraft.build draft with
  | error cause =>
      unfold addSchema
      rw [built]
      exact held
  | ok schema =>
      obtain ⟨base, from', accounted⟩ := held.accounted
      obtain ⟨answered, reached⟩ := addSchema_run built context host
      have dormant := dormant_booking.register context.script context.generation schema host held.dormant
      have outcome := register_accounts context.generation context.script schema
        held.loading.waiting.sound accounted
      have loaded := (held.loading.register context.script schema).2
      rw [← held.generation] at loaded
      rw [answered, reached]
      generalize answer (register context.script context.generation schema) host = given at *
      generalize after (register context.script context.generation schema) host = next at *
      rcases outcome with ⟨handles, rfl, -, kept⟩ | ⟨⟨error, rfl⟩, kept⟩
      · split at loaded
        case isFalse => cases loaded.1
        case isTrue =>
        obtain ⟨_, ⟨⟩, -, loading⟩ := loaded
        refine ⟨held.settings, held.generation, ?_, dormant, base, from', kept⟩
        rw [← held.generation]
        refine loading.perm ?_
        rw [← List.append_assoc]
        exact List.perm_append_comm.append_right _
      · split at loaded
        case isTrue =>
          obtain ⟨_, ⟨⟩, -⟩ := loaded
        case isFalse =>
        refine ⟨held.settings, held.generation, ?_, dormant, base, from', kept⟩
        rw [← held.generation]
        exact loaded.2

theorem addTask_holds (name : String) (job : Job) :
    Holds (loan.Open settings quit) (addTask name job) := by
  intro context host held
  obtain ⟨base, from', accounted⟩ := held.accounted
  have calm := spawn_calm (context.script ++ "/" ++ name) none job .none context.generation host
    held.loading.toCalm
  have wired := spawn_wiring (context.script ++ "/" ++ name) context.generation none
    (.job job .none) host
  have kept := accounted.spawn (context.script ++ "/" ++ name) context.generation none
    (.job job .none)
  have dormant := spawn_dormant (context.script ++ "/" ++ name) context.generation none
    (.job job .none) host held.dormant
  refine ⟨held.settings, held.generation, ⟨calm, ?_⟩, dormant, base, from', ?_⟩
  · change Wiring.Waiting _ _ (after (spawn _ _ _ _) host).wiring
    rw [wired]
    exact held.loading.waiting
  · change Accounted base context.handles
      ((context.tasks ++ (answer (spawn _ _ _ _) host).toList).map (·.id))
      (after (spawn _ _ _ _) host)
    rw [List.map_append]
    exact kept

theorem Accounted.retract {base host : Host} {context : LoadContext} (sound : host.wiring.Sound)
    (accounted : Accounted base context.handles (context.tasks.map (·.id)) host) :
    Accounted base [] [] (after (retract context) host) := by
  have cancelled (tasks : List TaskHandle) {host : Host}
      (accounted : Accounted base [] (tasks.map (·.id)) host) :
      Accounted base [] [] (after (tasks.forM fun task => do
        let _ ← cancelTask task.id
        return ()) host) := by
    induction tasks generalizing host with
    | nil => exact accounted
    | cons task rest previous => exact previous accounted.cancel
  have all : Accounted base (context.handles ++ []) (context.tasks.map (·.id)) host := by
    rw [List.append_nil]
    exact accounted
  have released := all.releaseAll sound
  have struck : Accounted base [] (context.tasks.map (·.id))
      (after (unregister context.script context.handles) host) :=
    released.widened (.of_same (fun _ => rfl) rfl rfl)
  exact cancelled context.tasks struck

theorem withdraw_holds : Holds (loan.Open settings quit) withdraw := by
  intro context host held
  obtain ⟨base, from', accounted⟩ := held.accounted
  exact ⟨held.settings, held.generation, held.loading.retract.1,
    retract_dormant context host held.dormant, base, from',
    accounted.retract held.loading.waiting.sound⟩

theorem requestOnce_holds (name : String) (times : Nat) :
    Holds (loan.Open settings quit) (liftM (requestOnce name times)) := by
  refine .ofStill fun host => ?_
  unfold requestOnce
  rw [after_get_bind]
  dsimp only
  split
  · exact changeLoops_parts ReloadLoops.request _
  · rfl

theorem stopRegistry_holds (stops : quit) :
    Holds (loan.Open settings quit) (liftM stopRegistry) := by
  refine .lift fun context host held => ?_
  obtain ⟨base, from', accounted⟩ := held.accounted
  have stopped := accounted.stopRegistry held.loading.waiting.sound held.dormant
  refine ⟨held.settings, held.generation, held.loading.stopRegistry.1,
    (stopRegistry_hushed held.dormant).dormant, base.silenced, .inr ⟨stops, ?_⟩, stopped⟩
  rcases from' with rfl | ⟨-, rfl⟩
  · rfl
  · simp [silenced]

theorem manager_holds (kind : ManagerKind) :
    Holds (loan.Open settings quit) (liftM (manager kind loan.generation)) := by
  refine .lift fun context host held => ?_
  obtain ⟨base, from', accounted⟩ := held.accounted
  have last : after (manager kind loan.generation) host =
      after (needManager kind loan.generation) host := by
    simp only [manager, after_bind]
    split
    · rfl
    · simp only [after_bind, after_get]
      split <;> rfl
  rw [last]
  exact ⟨held.settings, held.generation, (held.loading.need kind).2.1,
    needManager_dormant kind _ host held.dormant, base, from',
    accounted.widened (needManager_widened held.loading.waiting.sound kind _)⟩

theorem publish_holds (event : Event) :
    Holds (loan.Open settings quit) (liftM (publish event).run) := by
  refine .lift fun context host held => ?_
  obtain ⟨count, quiet⟩ := held.loading.publish event
  have kept : after (publish event).run host = host := congrArg Prod.snd quiet
  rw [kept]
  exact held

/-! ## Native scripts -/

theorem loadStep_holds (name : String) {step : LoadStep} (allowed : step = .stopManagers → quit) :
    Holds (loan.Open settings quit) (loadStep name step).run := by
  have noted (text : Note) : Holds (loan.Open settings quit)
      (liftM (note text) : Load Failure Unit).run :=
    .step fun _ _ held => held.still rfl
  have unknown (draft : Except SchemaError EventDraft) :
      Holds (loan.Open settings quit) (known draft).run := by
    cases draft <;> exact .pure _
  cases step with
  | say text => exact noted _
  | showSettings => exact .asks (fun _ _ _ => trivial) fun _ _ => noted _
  | showContext => exact .asks (fun _ _ _ => trivial) fun _ _ => noted _
  | register announced draft =>
      refine .load (unknown draft) fun draft => .load (addSchema_holds draft) fun result => ?_
      cases result with
      | error error => exact .pure _
      | ok count =>
          dsimp only
          split
          · exact noted _
          · exact .pure _
  | tryRegister draft =>
      exact .load (unknown draft) fun draft => .load (addSchema_holds draft) fun _ => noted _
  | spawn announced task job =>
      refine .load (addTask_holds task job) fun spawned => ?_
      split
      · exact noted _
      · exact .pure _
  | retract => exact .load withdraw_holds fun _ => .asks (fun _ _ _ => trivial) fun _ _ => noted _
  | requestReload times => exact requestOnce_holds name times
  | stopManagers => exact .load (stopRegistry_holds (allowed rfl)) fun _ => noted _
  | askManager kind =>
      refine .asks (fun _ _ held => held.generation) fun context aged => ?_
      rw [aged]
      exact .load (manager_holds kind) fun _ => noted _
  | publish event =>
      refine .load (publish_holds event) fun result => ?_
      cases result with
      | error failure => exact .pure _
      | ok count => exact noted _
  | fail failure => exact .pure _

theorem loadNative_holds (native : NativeScript)
    (allowed : .stopManagers ∈ native.onLoad settings → quit) :
    Holds (loan.Open settings quit) (loadNative native).run := by
  refine .asks (fun _ _ held => held.settings) fun context same => ?_
  rw [same]
  refine .adapt _ (.forM_of_mem fun step member => loadStep_holds native.name fun stops => ?_)
  exact allowed (stops ▸ member)

/-! ## Script files -/

theorem loadRules_holds (draft : EventDraft) :
    Holds (loan.Open settings quit) (loadRules draft).run := by
  unfold loadRules
  split
  · exact .pure _
  refine .asks (fun _ _ _ => trivial) fun context _ =>
    .load (addSchema_holds draft) fun result => ?_
  cases result with
  | ok count => exact .pure _
  | error error => cases error <;> exact .pure _

/-- The native script that a file names stops all managers while it loads. -/
def Environment.Stops (environment : Environment) (path : String) : Prop :=
  ∃ source rules name native, ScriptSource.read environment.tree path = .ok source ∧
    source.rules environment.vocabulary = .ok rules ∧ rules.script = some name ∧
    environment.shelf.get? name = some native ∧
    .stopManagers ∈ native.onLoad
      ((settingsFor environment.reloading.config source.id).extend rules.settings)

theorem loadSource_open {source : ScriptSource} {path : String}
    (read : ScriptSource.read loan.environment.tree path = .ok source) {context : LoadContext}
    {host : Host} (held : loan.Open (settingsFor loan.environment.reloading.config source.id)
      (loan.environment.Stops path) context host) :
    ∃ settings, loan.Open settings (loan.environment.Stops path)
      (answer ((loadSource source).run.run context) host).2
      (after ((loadSource source).run.run context) host) := by
  have vocabulary : host.vocabulary = loan.environment.vocabulary :=
    congrArg Environment.vocabulary held.loading.located
  have shelf : host.shelf = loan.environment.shelf :=
    congrArg Environment.shelf held.loading.located
  rw [answer, after, loadSource_run, vocabulary, shelf]
  cases known : source.rules loan.environment.vocabulary with
  | error error => exact ⟨_, held⟩
  | ok rules =>
      have extended : loan.Open
          ((settingsFor loan.environment.reloading.config source.id).extend rules.settings)
          (loan.environment.Stops path)
          { context with settings := context.settings.extend rules.settings } host :=
        { held with settings := congrArg (·.extend rules.settings) held.settings }
      refine ⟨_, Holds.load (loadRules_holds rules.draft) (fun _ => ?_) _ _ extended⟩
      cases named : rules.script with
      | none => exact .pure _
      | some name =>
          dsimp only
          cases shelved : loan.environment.shelf.get? name with
          | none => exact .pure _
          | some native =>
              refine .load (loadNative_holds native fun stops => ?_) fun _ => .pure _
              exact ⟨source, rules, name, native, read, known, named, shelved, stops⟩

/-! ## Files -/

section Files

variable {environment : Environment} {generation : Generation} {held : List Handle} {host : Host}

/-- A file that fails leaves the host as it was, but for what its script stopped. -/
theorem loadFile_accounts (loading : Loading environment generation held host)
    (dormant : Dormant host) (numbered : host.supervisor.Numbered) (path : String) :
    (∃ handles, Loading environment generation handles (after (loadFile generation path) host)) ∧
      Dormant (after (loadFile generation path) host) ∧
      ∀ error, answer (loadFile generation path) host = .error error →
        ∃ base, (base = host ∨ environment.Stops path ∧ base = host.silenced) ∧
          Accounted base [] [] (after (loadFile generation path) host) := by
  have start := (Bounded.of_sound loading.waiting.sound numbered).accounted
  have tree : host.tree = environment.tree := congrArg Environment.tree loading.located
  have reloading : host.reloading = environment.reloading :=
    congrArg Environment.reloading loading.located
  rw [loadFile, after_get_bind, answer_get_bind, tree, reloading]
  cases read : ScriptSource.read environment.tree path with
  | error error =>
      have same : (after (warn error.message) host).parts = host.parts := rfl
      refine ⟨⟨held, (loading.of_parts same).1⟩, dormant.of_same rfl rfl, fun _ _ => ?_⟩
      exact ⟨host, .inl rfl, start.widened (.of_same (fun _ => rfl) rfl rfl)⟩
  | ok source =>
      let loan : Loan := { start := host, environment, generation, others := held }
      let context : LoadContext := {
        script := source.id, generation
        settings := settingsFor environment.reloading.config source.id }
      have opened : loan.Open (settingsFor environment.reloading.config source.id)
          (environment.Stops path) context host :=
        ⟨rfl, rfl, loading, dormant, host, .inl rfl, start⟩
      obtain ⟨settings, closed⟩ := loadSource_open read opened
      dsimp only
      rw [after_bind, answer_bind]
      generalize answer ((loadSource source).run.run context) host = loaded at closed ⊢
      generalize after ((loadSource source).run.run context) host = next at closed ⊢
      obtain ⟨result, acquired⟩ := loaded
      cases result with
      | ok instance? => exact ⟨⟨_, closed.loading⟩, closed.dormant, nofun⟩
      | error error =>
          obtain ⟨base, from', accounted⟩ := closed.accounted
          have loaded := closed.loading.retract.1
          have slept := retract_dormant acquired next closed.dormant
          have restored := accounted.retract closed.loading.waiting.sound
          have same (text : String) : (after (warn text) (after (retract acquired) next)).parts =
              (after (retract acquired) next).parts := rfl
          refine ⟨⟨_, (loaded.of_parts (same _)).1⟩, slept.of_same rfl rfl, fun _ _ => ?_⟩
          exact ⟨base, from', restored.widened (.of_same (fun _ => rfl) rfl rfl)⟩

/-- The same while the files before it were loaded, some of which may have failed. -/
theorem loadFiles_dormant (loading : Loading environment generation held host)
    (dormant : Dormant host) (numbered : host.supervisor.Numbered) (paths : List String) :
    (∃ handles, Loading environment generation handles
        (after (paths.mapM (loadFile generation)) host)) ∧
      Dormant (after (paths.mapM (loadFile generation)) host) := by
  induction paths generalizing held host with
  | nil => exact ⟨⟨held, loading⟩, dormant⟩
  | cons path rest previous =>
      obtain ⟨⟨handles, loaded⟩, slept, -⟩ := loadFile_accounts loading dormant numbered path
      have reached : Reaches true host (after (loadFile generation path) host) :=
        loadFile_reaches generation path host .refl
      have later : (after (loadFile generation path) host).supervisor.Numbered :=
        reached.stirred (·.supervisor.Numbered) (fun _ _ stir => stir.moves.numbered) numbered
      rw [List.mapM_cons]
      exact previous loaded slept later

end Files

end Loans

/-! ## Nothing is left behind -/

theorem prepare_reaches {start : Host} (budget : Nat) :
    Keeps (Reaches true start) (prepare budget) := by
  refine .bind advanceGeneration_reaches fun generation => .bind (enterPhase_reaches _) fun _ => ?_
  exact .ofLeads (.bind (stop_leads budget) fun timeouts =>
    .bind (enterPhase_stopped _).leads fun _ => .bind unloadAll_leads fun _ =>
    Keeps.leads (.bind (enterPhase_reaches _) fun _ => .pure _))

/-- No task that was spawned in between is tracked, and none is given control later. -/
structure Abandoned (start next : Host) : Prop where
  untracked : ∀ task ∈ next.supervisor.tasks, task.id < start.supervisor.nextId
  idle : ∀ id, start.supervisor.nextId ≤ id → id < next.supervisor.nextId →
    ∀ later, next.Evolves later → ∃ since, later.deeds = since ++ next.deeds ∧
      ∀ generation, .resumed generation id ∉ since

/-- What a failed load leaves of a host. -/
structure Withdrawn (path : String) (start next : Host) : Prop where
  abandoned : Abandoned start next
  running : next.running = start.running
  live : next.subscriptions = start.subscriptions ∧ next.bus.listeners = start.bus.listeners ∨
    start.environment.Stops path ∧ next.subscriptions = (fun _ => []) ∧ next.bus.listeners = []

theorem Accounted.abandoned {base host : Host} (accounted : Accounted base [] [] host) :
    Abandoned base host := by
  obtain ⟨-, -, -, older⟩ := accounted.restored
  refine ⟨older, fun id since issued later path => Evolves.idle path ⟨issued, ?_⟩⟩
  exact fun task member same => Nat.not_lt_of_le since (same ▸ older task member)

theorem Evolves.sound {host next : Host} (path : host.Evolves next) (sound : host.wiring.Sound) :
    next.wiring.Sound := by
  induction path with
  | refl => exact sound
  | tail _ step previous =>
      rcases step with change | ⟨tree, rfl⟩
      · exact Reaches.sound (.single change) previous
      · exact previous

/-- At every point of every history a load cycle may begin, and some of its files may have been
loaded already, with success or without. The next file, if it fails to load, leaves nothing
behind. -/
theorem failed_load_withdrawn (config : ScriptingConfig) (dataDirectory : String)
    (tree : FileTree) (vocabulary : Vocabulary) (shelf : ScriptShelf) {host : Host}
    (history : (create config dataDirectory tree vocabulary shelf).Evolves host)
    (budget : Nat) (before : List String) (path : String) :
    let ready := after (prepare budget) (after (changeLoops ReloadLoops.occupy) host)
    let start := after (before.mapM (loadFile (host.generation + 1))) ready
    ∀ error, answer (loadFile (host.generation + 1) path) start = .error error →
      Withdrawn path start (after (loadFile (host.generation + 1) path) start) := by
  intro ready start error failed
  have sound : host.wiring.Sound := history.sound .empty
  let occupied : Host := after (changeLoops ReloadLoops.occupy) host
  have parts : occupied.parts = host.parts := changeLoops_parts _ host
  have aged : occupied.generation = host.generation :=
    congrArg (fun parts : Parts => parts.core.generation) parts
  have begun : Reaches true host occupied := .single (.quiet parts)
  obtain ⟨loading, stands⟩ := prepare_loading budget (begun.sound sound)
  have prepared : Reaches true host ready := prepare_reaches budget occupied begun
  have numbered : ready.supervisor.Numbered :=
    (Evolves.tidy (history.trans prepared.evolves) (create_tidy _ _ _ _ _)).numbered
  have dormant : Dormant ready := cleared_dormant loading.waiting.unresumed stands
  rw [aged] at loading
  obtain ⟨⟨handles, loaded⟩, slept⟩ := loadFiles_dormant loading dormant numbered before
  have counted : start.supervisor.Numbered := by
    have reached : Reaches true ready start :=
      Keeps.mapM (loadFile_reaches (host.generation + 1)) before ready .refl
    exact reached.stirred (·.supervisor.Numbered) (fun _ _ stir => stir.moves.numbered) numbered
  -- Handles of the files before it count as what this one found.
  obtain ⟨-, -, withdrawn⟩ := loadFile_accounts loaded slept counted path
  obtain ⟨base, from', accounted⟩ := withdrawn error failed
  obtain ⟨subscriptions, listeners, running, -⟩ := accounted.restored
  have abandoned := accounted.abandoned
  rcases from' with rfl | ⟨stops, rfl⟩
  · exact ⟨abandoned, running, .inl ⟨subscriptions, listeners⟩⟩
  · rw [silenced_subscriptions] at subscriptions
    rw [← loaded.located] at stops
    exact ⟨⟨abandoned.untracked, abandoned.idle⟩, running, .inr ⟨stops, subscriptions, listeners⟩⟩

/-- A native script that listens to motion. -/
def lamp : NativeScript where
  name := "lamp"
  onLoad _ := [
    .register false (.ok [{
      key := "motion"
      body := .unconditional (.one (.call "tick" [.report])) }])]

/-- One that fails after it has listened and spawned a task. -/
def clumsy : NativeScript where
  name := "clumsy"
  onLoad _ := [
    .register false (.ok [{
      key := "motion"
      body := .unconditional (.one (.call "tick" [.report])) }]),
    .spawn false "work" {},
    .fail (.panic none)]

/-- One that fails after it has stopped all managers. -/
def spoiler : NativeScript where
  name := "spoiler"
  onLoad _ := [.stopManagers, .fail (.error ["spoiled"])]

/-- The files of these three scripts. -/
def sharedTree : FileTree :=
  ((FileTree.put {} "data/scripts/a.toml" ⟨.file "script = \"lamp\"\n".toUTF8, 0⟩).put
    "data/scripts/b.toml" ⟨.file "script = \"clumsy\"\n".toUTF8, 0⟩).put
    "data/scripts/c.toml" ⟨.file "script = \"spoiler\"\n".toUTF8, 0⟩

/-- A new host with these files. -/
def shared : Host :=
  create {} "data" sharedTree {} [("clumsy", clumsy), ("lamp", lamp), ("spoiler", spoiler)]

/-- This host in its first cycle, when `lamp` is loaded. -/
def lit : Host :=
  after (["data/scripts/a.toml"].mapM (loadFile 1))
    (after (prepare 1) (after (changeLoops ReloadLoops.occupy) shared))

theorem failed_load_withdrawn_clumsy :
    lit.bus.listeners.length = 1 ∧
      ∃ error, answer (loadFile 1 "data/scripts/b.toml") lit = .error error ∧
        Withdrawn "data/scripts/b.toml" lit (after (loadFile 1 "data/scripts/b.toml") lit) := by
  have failed : (answer (loadFile 1 "data/scripts/b.toml") lit).toOption.isNone := by
    decide +kernel
  refine ⟨by decide +kernel, ?_⟩
  cases result : answer (loadFile 1 "data/scripts/b.toml") lit with
  | ok loaded =>
      rw [result] at failed
      cases failed
  | error error =>
      refine ⟨error, rfl, ?_⟩
      exact failed_load_withdrawn {} "data" sharedTree {} _ (.refl : shared.Evolves shared) 1
        ["data/scripts/a.toml"] _ error result

/-- A script that stops all managers takes the listeners of the scripts before it away, and its
failure does not bring them back. -/
theorem spoiler_silences_lamp :
    (answer (loadFile 1 "data/scripts/c.toml") lit).toOption.isNone ∧
      lit.bus.listeners.length = 1 ∧
      (after (loadFile 1 "data/scripts/c.toml") lit).bus.listeners.length = 0 ∧
      (lit.subscriptions .bus).length = 1 ∧
      ((after (loadFile 1 "data/scripts/c.toml") lit).subscriptions .bus).length = 0 := by
  decide +kernel

end HomeRules.Host
