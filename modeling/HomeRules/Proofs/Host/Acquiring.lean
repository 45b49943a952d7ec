import HomeRules.Proofs.Host.Serving
import HomeRules.Proofs.Host.Waiting

/-!
# Acquiring

A host that loads scripts: its managers wait and its tasks are jobs, which touch no
manager. Everything a script acquires, drops or asks for while it loads keeps the host
so, and has the outcome that the standing of the managers decides.
-/

set_option autoImplicit false

namespace HomeRules

def Work.isJob : Work → Bool
  | .job _ _ => true
  | _ => false

namespace Host

/-! ## Calm hosts -/

/-- A host of an environment and a generation whose tasks are all jobs. -/
structure Calm (environment : Environment) (generation : Generation) (host : Host) : Prop where
  located : host.environment = environment
  current : host.generation = generation
  jobs : ∀ task ∈ host.supervisor.tasks, task.work.isJob

section Calm

variable {environment : Environment} {generation : Generation}

theorem Calm.of_core {host next : Host} (calm : Calm environment generation host)
    (same : next.core = host.core) : Calm environment generation next := by
  have shared := congrArg (fun core : Core => (core.environment, core.generation, core.supervisor))
    same
  simp only [core, Prod.mk.injEq] at shared
  obtain ⟨environments, generations, supervisors⟩ := shared
  refine ⟨environments.trans calm.located, generations.trans calm.current, ?_⟩
  rw [supervisors]
  exact calm.jobs

theorem cancelTask_calm (id : TaskId) : Keeps (Calm environment generation) (cancelTask id) :=
  fun _ calm => ⟨calm.located, calm.current,
    fun task member => calm.jobs task (List.mem_of_mem_filter member)⟩

theorem spawn_calm (name : String) (owner : Option String) (job : Job) (payload : Payload)
    (under : Generation) :
    Keeps (Calm environment generation) (spawn name under owner (.job job payload)) := by
  refine .get fun host calm => ?_
  split
  · refine ⟨calm.located, calm.current, fun task member => ?_⟩
    rcases List.mem_append.mp member with old | new
    · exact calm.jobs task (List.mem_of_mem_filter old)
    · rw [List.mem_singleton.mp new]
      rfl
  · exact calm

theorem calm_lasting : Lasting (Calm environment generation) where
  still _ _ same calm := calm.of_core same
  cancel := cancelTask_calm

theorem release_calm (handle : Handle) :
    Keeps (Calm environment generation) (release handle) := by
  refine .read fun host => ?_
  split
  · exact .pure _
  split
  · exact calm_lasting.releasing.unsubscribe _ _
  · exact .pure _

theorem stopRegistry_calm : Keeps (Calm environment generation) stopRegistry :=
  .read fun _ => .bind (.mapM calm_lasting.releasing.stopManager _) fun _ => .pure _

end Calm

/-! ## Managers that start nothing -/

private theorem resumeManager_core {host : Host} (unsubscribed : host.wiring.Unsubscribed)
    (kind : ManagerKind) : (after (resumeManager kind) host).core = host.core := by
  cases found : host.registry.manager? kind with
  | none => simp [resumeManager, found]
  | some manager =>
      have empty : manager.subscriptions = [] := by
        have member := List.mem_of_find?_eq_some found
        exact List.map_eq_nil_iff.mp (unsubscribed manager.bare (List.mem_map_of_mem member))
      unfold resumeManager
      rw [after_get_bind, found]
      dsimp only
      rw [empty, after_bind, after_get_bind]
      split <;> rfl

private theorem createManager_core {host : Host}
    (silent : host.registry.resumed = false ∨ host.wiring.Unsubscribed)
    (kind : ManagerKind) (generation : Generation) :
    (after (createManager kind generation) host).core = host.core := by
  rw [after_createManager]
  split
  case isFalse => rfl
  case isTrue resumed =>
    rcases silent with unresumed | unsubscribed
    · exact absurd (unresumed.symm.trans resumed) Bool.false_ne_true
    · have empty : (host.addManager kind generation).wiring.Unsubscribed := by
        rw [addManager_wiring]
        exact unsubscribed.add kind generation
      exact resumeManager_core empty kind

/-- A manager that is added while none delivers, or where there is nothing to deliver,
starts no timer. -/
theorem needManager_core {host : Host}
    (silent : host.registry.resumed = false ∨ host.wiring.Unsubscribed)
    (kind : ManagerKind) (generation : Generation) :
    (after (needManager kind generation) host).core = host.core := by
  unfold needManager
  rw [after_get_bind]
  split
  · rfl
  split
  · rfl
  split
  · rfl
  split
  · let cleared : Host := { host with registry := { generation } }
    have waits : cleared.registry.resumed = false := rfl
    exact createManager_core (.inl waits) kind generation
  · exact createManager_core silent kind generation

/-- A subscription with a manager that does not deliver starts no timer. -/
theorem subscribe_core {host : Host} {kind : ManagerKind}
    (unopened : host.wiring.standing kind ≠ some .opened) (event : EventKind)
    (schema : EventSchema) : (after (subscribe kind event schema) host).core = host.core := by
  unfold subscribe
  rw [after_get_bind]
  cases found : host.registry.manager? kind with
  | none => rfl
  | some manager =>
      have shut : ¬((host.gate manager.gate).isOpen = true) := by
        intro admits
        refine unopened ?_
        rw [Wiring.standing, wiring_manager?, found, Option.map_some, Option.map_some]
        exact congrArg some (of_decide_eq_true admits)
      dsimp only
      split
      · rfl
      split
      · rfl
      simp only [after_bind]
      cases event <;> rfl

/-! ## Hosts that load -/

/-- A calm host whose managers wait. `held` are the handles that scripts hold. -/
structure Loading (environment : Environment) (generation : Generation) (held : List Handle)
    (host : Host) : Prop extends Calm environment generation host where
  waiting : host.wiring.Waiting generation held

section Loading

variable {environment : Environment} {generation : Generation} {held : List Handle} {host : Host}

/-- What neither starts nor stops anything and leaves the managers alone does not
matter. -/
theorem Loading.of_parts (loading : Loading environment generation held host) {next : Host}
    (same : next.parts = host.parts) :
    Loading environment generation held next ∧ next.wiring.standing = host.wiring.standing := by
  have wired := wiring_of_parts same
  refine ⟨⟨loading.toCalm.of_core (congrArg Parts.core same), ?_⟩, by rw [wired]⟩
  rw [wired]
  exact loading.waiting

theorem Loading.perm (loading : Loading environment generation held host) {others : List Handle}
    (same : held.Perm others) : Loading environment generation others host :=
  ⟨loading.toCalm, loading.waiting.perm same⟩

theorem Loading.need (loading : Loading environment generation held host) (kind : ManagerKind) :
    answer (needManager kind generation) host = .ok () ∧
      Loading environment generation held (after (needManager kind generation) host) ∧
      (after (needManager kind generation) host).wiring.standing =
        host.wiring.standing.need kind := by
  have spec := needManager_wiring kind generation host
  rw [loading.current] at spec
  obtain ⟨given, waiting, stands⟩ := loading.waiting.need kind
  rw [← spec] at given waiting stands
  have same := needManager_core (.inl loading.waiting.unresumed) kind generation
  exact ⟨given, ⟨loading.toCalm.of_core same, waiting⟩, stands⟩

theorem Loading.refuse (loading : Loading environment generation held host) {kind : EventKind}
    (closed : host.wiring.standing kind.manager = some .closed) (schema : EventSchema) :
    answer (subscribe kind.manager kind schema) host = .error (.staleGeneration generation) ∧
      Loading environment generation held (after (subscribe kind.manager kind schema) host) ∧
      (after (subscribe kind.manager kind schema) host).wiring.standing =
        host.wiring.standing := by
  have spec := subscribe_wiring kind.manager kind schema host
  rw [loading.current, loading.waiting.refuse closed] at spec
  obtain ⟨given, wired⟩ := Prod.mk.inj spec
  refine ⟨given, ⟨loading.toCalm.of_core
    (subscribe_core (loading.waiting.unopened _) kind schema), ?_⟩, by rw [wired]⟩
  rw [wired]
  exact loading.waiting

theorem Loading.accept (loading : Loading environment generation held host) {kind : EventKind}
    (pending : host.wiring.standing kind.manager = some .pending) (schema : EventSchema) :
    ∃ handle : Handle, answer (subscribe kind.manager kind schema) host = .ok handle ∧
      handle.kind = kind ∧
      Loading environment generation (handle :: held)
        (after (subscribe kind.manager kind schema) host) ∧
      (after (subscribe kind.manager kind schema) host).wiring.standing =
        host.wiring.standing := by
  have spec := subscribe_wiring kind.manager kind schema host
  rw [loading.current] at spec
  obtain ⟨handle, given, named, waiting, stands⟩ := loading.waiting.accept pending schema
  rw [← spec] at given waiting stands
  exact ⟨handle, given, named, ⟨loading.toCalm.of_core
    (subscribe_core (loading.waiting.unopened _) kind schema), waiting⟩, stands⟩

theorem Loading.release {handle : Handle}
    (loading : Loading environment generation (handle :: held) host) :
    Loading environment generation held (after (release handle) host) ∧
      (after (release handle) host).wiring.standing = host.wiring.standing := by
  have spec : (after (Host.release handle) host).wiring = host.wiring.release handle :=
    release_wiring handle host
  obtain ⟨waiting, stands⟩ := loading.waiting.release
  rw [← spec] at waiting stands
  exact ⟨⟨release_calm handle host loading.toCalm, waiting⟩, stands⟩

theorem Loading.releaseAll {handles : List Handle}
    (loading : Loading environment generation (handles ++ held) host) :
    Loading environment generation held (after (releaseAll handles) host) ∧
      (after (releaseAll handles) host).wiring.standing = host.wiring.standing := by
  change Loading _ _ _ (after (handles.mapM Host.release) host) ∧
    (after (handles.mapM Host.release) host).wiring.standing = _
  induction handles generalizing host with
  | nil => exact ⟨loading, rfl⟩
  | cons handle rest previous =>
      obtain ⟨released, stands⟩ := loading.release
      obtain ⟨done, same⟩ := previous released
      rw [List.mapM_cons]
      exact ⟨done, same.trans stands⟩

theorem Loading.unregister (script : String) {handles : List Handle}
    (loading : Loading environment generation (handles ++ held) host) :
    Loading environment generation held (after (unregister script handles) host) ∧
      (after (unregister script handles) host).wiring.standing = host.wiring.standing := by
  obtain ⟨released, stands⟩ := loading.releaseAll
  exact ⟨⟨released.toCalm.of_core rfl, released.waiting.keepRecords _⟩, stands⟩

theorem Loading.cancelTasks (loading : Loading environment generation held host)
    (tasks : List TaskHandle) :
    let step : Step PUnit := tasks.forM fun task => do
      let _ ← cancelTask task.id
      return ()
    Loading environment generation held (after step host) ∧
      (after step host).wiring.standing = host.wiring.standing := by
  induction tasks generalizing host with
  | nil => exact ⟨loading, rfl⟩
  | cons task rest previous =>
      have cancelled : Loading environment generation held (after (cancelTask task.id) host) :=
        ⟨cancelTask_calm task.id host loading.toCalm, loading.waiting⟩
      exact previous cancelled

/-- What a script has registered and spawned can be withdrawn, which leaves what the
others hold. -/
theorem Loading.retract {context : LoadContext}
    (loading : Loading environment generation (context.handles ++ held) host) :
    Loading environment generation held (after (retract context) host) ∧
      (after (retract context) host).wiring.standing = host.wiring.standing := by
  obtain ⟨struck, stands⟩ := loading.unregister context.script
  obtain ⟨done, same⟩ := struck.cancelTasks context.tasks
  exact ⟨done, same.trans stands⟩

/-- Stopping all managers withdraws nothing from the scripts. -/
theorem Loading.stopRegistry (loading : Loading environment generation held host) :
    Loading environment generation held (after stopRegistry host) ∧
      (after Host.stopRegistry host).wiring.standing = host.wiring.standing.stop := by
  have kinds : managerKinds host = host.wiring.registry.managers.map (·.kind) := by
    simp only [managerKinds, wiring, Registry.bare, List.map_map]
    rfl
  have spec := stopRegistry_wiring host
  rw [kinds] at spec
  obtain ⟨waiting, stands⟩ := loading.waiting.stopAll
  rw [← spec] at waiting stands
  exact ⟨⟨stopRegistry_calm host loading.toCalm, waiting⟩, stands⟩

/-! ## Registering -/

/-- A schema is subscribed to all its kinds of events, or, where a stopped manager refuses
one of them, to none. -/
theorem Loading.subscribeAll (schema : EventSchema) (kinds : List EventKind) {sofar : List Handle}
    (loading : Loading environment generation (sofar ++ held) host) :
    (after (subscribeAll generation schema sofar kinds) host).wiring.standing =
        (host.wiring.standing.subscribeAll kinds).1 ∧
      if (host.wiring.standing.subscribeAll kinds).2 then
        ∃ handles, answer (Host.subscribeAll generation schema sofar kinds) host =
            .ok (sofar ++ handles) ∧ handles.map (·.kind) = kinds ∧
          Loading environment generation (sofar ++ handles ++ held)
            (after (Host.subscribeAll generation schema sofar kinds) host)
      else
        answer (Host.subscribeAll generation schema sofar kinds) host =
            .error (.staleGeneration generation) ∧
          Loading environment generation held
            (after (Host.subscribeAll generation schema sofar kinds) host) := by
  induction kinds generalizing sofar host with
  | nil =>
      refine ⟨rfl, [], ?_, rfl, ?_⟩
      · rw [List.append_nil]
        rfl
      · rw [List.append_nil]
        exact loading
  | cons kind rest previous =>
      obtain ⟨given, ready, stands⟩ := loading.need kind.manager
      simp only [Host.subscribeAll, subscribeWith, answer_bind, after_bind, given,
        Standings.subscribeAll, ← stands]
      generalize after (needManager kind.manager generation) host = needed at ready stands
      by_cases closed : needed.wiring.standing kind.manager = some .closed
      · obtain ⟨refused, kept, same⟩ := ready.refuse closed schema
        simp only [refused, if_pos closed, after_bind, answer_bind, after_pure, answer_pure,
          Bool.false_eq_true, if_false]
        obtain ⟨released, left⟩ := kept.releaseAll
        exact ⟨left.trans same, trivial, released⟩
      · have present : needed.wiring.standing kind.manager ≠ none := by
          rw [stands]
          exact Standings.need_self_ne_none _ _
        have pending := ready.waiting.standing_eq present closed
        obtain ⟨handle, accepted, named, kept, same⟩ := ready.accept pending schema
        have ordered : Loading environment generation (sofar ++ [handle] ++ held)
            (after (subscribe kind.manager kind schema) needed) := by
          refine kept.perm ?_
          rw [List.append_assoc]
          exact List.perm_middle.symm
        have others := previous ordered
        simp only [accepted, if_neg closed]
        rw [← same]
        refine ⟨others.1, ?_⟩
        have later := others.2
        split at later
        case isTrue all =>
          obtain ⟨handles, held', kinds, loaded⟩ := later
          rw [if_pos all]
          refine ⟨handle :: handles, ?_, ?_, ?_⟩
          · rw [held', List.append_assoc]
            rfl
          · rw [List.map_cons, named, kinds]
          · rw [List.append_cons]
            exact loaded
        case isFalse some =>
          rw [if_neg some]
          exact later

/-- Registering a schema adds a handle for each of its kinds of events, or, where a
stopped manager refuses one of them, changes nothing that is held. -/
theorem Loading.register (loading : Loading environment generation held host) (script : String)
    (schema : EventSchema) :
    (after (register script generation schema) host).wiring.standing =
        (host.wiring.standing.subscribeAll schema.kinds).1 ∧
      if (host.wiring.standing.subscribeAll schema.kinds).2 then
        ∃ handles, answer (Host.register script generation schema) host = .ok handles ∧
          handles.map (·.kind) = schema.kinds ∧
          Loading environment generation (handles ++ held)
            (after (Host.register script generation schema) host)
      else
        answer (Host.register script generation schema) host =
            .error (.staleGeneration generation) ∧
          Loading environment generation held
            (after (Host.register script generation schema) host) := by
  have start : Loading environment generation ([] ++ held) host := loading
  obtain ⟨stands, result⟩ := start.subscribeAll (schema.withOwner script) schema.kinds
  simp only [Host.register, after_bind, answer_bind]
  split at result
  case isTrue all =>
    obtain ⟨handles, given, kinds, loaded⟩ := result
    rw [if_pos all, given]
    have recorded (later : Host) (ready : Loading environment generation (handles ++ held) later) :
        Loading environment generation (handles ++ held)
            { later with registry := later.registry.record script generation handles } ∧
          ({ later with
            registry := later.registry.record script generation handles } : Host).wiring.standing =
              later.wiring.standing := by
      unfold Registry.record
      split
      · exact ⟨⟨ready.toCalm.of_core rfl, ready.waiting.keepRecords _⟩, rfl⟩
      · exact ⟨ready, rfl⟩
    obtain ⟨kept, same⟩ := recorded _ loaded
    exact ⟨same.trans stands, handles, rfl, kinds, kept⟩
  case isFalse some =>
    obtain ⟨given, loaded⟩ := result
    rw [if_neg some, given]
    exact ⟨stands, rfl, loaded⟩

/-! ## Publishing -/

/-- Listeners behind gates that are not open do nothing. -/
theorem deliver_shut (publish : Publisher) (payload : Payload)
    {listeners : List (Listener Delivery)}
    (shut : ∀ listener ∈ listeners, (host.gate listener.target.gate).phase ≠ .opened) :
    ran (deliver publish listeners payload) host = (.ok (), host) := by
  change ran (listeners.forM fun listener => dispatchInside publish listener.target payload)
    host = _
  induction listeners with
  | nil => rfl
  | cons listener rest previous =>
      have refused : (host.gate listener.target.gate).enter? = none := by
        unfold Gate.enter?
        split
        case h_1 admits => exact absurd admits (shut listener List.mem_cons_self)
        case h_2 => rfl
      refine (ran_bind_ok (ran_dispatchInside_refused refused payload) _).trans (previous fun other member => ?_)
      exact shut other (List.mem_cons_of_mem _ member)

/-- An event that a script publishes while it loads reaches listeners that wait, none of
which does anything. -/
theorem Loading.publish (loading : Loading environment generation held host) (event : Event) :
    ∃ count, ran (publish event) host = (.ok count, host) := by
  refine ⟨(host.bus.listenersTo event.kind).length, ?_⟩
  have shut : ∀ listener ∈ host.bus.listenersTo event.kind,
      (host.gate listener.target.gate).phase ≠ .opened := by
    intro listener member admits
    have heard : listener.line ∈ host.wiring.lines := by
      refine loading.waiting.sound.heard.mem_iff.mp (List.mem_map_of_mem ?_)
      exact List.mem_of_mem_filter member
    obtain ⟨manager, present, inside⟩ := List.mem_flatMap.mp heard
    obtain ⟨subscription, -, fed⟩ := List.mem_filterMap.mp inside
    obtain ⟨id, -, line⟩ := Option.map_eq_some_iff.mp fed
    have placed : listener.target.gate = manager.gate := (congrArg Line.gate line).symm
    refine loading.waiting.unopened manager.kind ?_
    rw [Wiring.standing, loading.waiting.sound.manager?_eq present, Option.map_some, ← placed]
    exact congrArg some admits
  change ran (publishWithin (999 + 1) event) host = _
  rw [publishWithin, ran_get_bind, ran_bind_ok (deliver_shut _ _ shut), ran_pure]

end Loading

end Host

end HomeRules
