import HomeRules.Check
import HomeRules.Proofs.Host.Gates
import HomeRules.Proofs.Host.Loading
import HomeRules.Proofs.Host.Managing

/-!
# Checking and loading

A check reads the same files as a load of the script directory, in the same order, and finds
the same faults. The two go through a file differently: a check looks a native script up before
it builds the schema, a load builds and registers the schema first. What a load finds wrong with
a file before anything of the file runs is therefore told on its own. It comes to the same as a
check, and a generation that runs refuses nothing beyond it.
-/

set_option autoImplicit false

namespace HomeRules

/-- Where one part after another fails, the first or the second does. -/
private theorem bind_eq_error_iff {ε α β : Type} {first : Except ε α} {second : α → Except ε β}
    {error : ε} : first >>= second = .error error ↔
      first = .error error ∨ ∃ value, first = .ok value ∧ second value = .error error := by
  constructor
  · intro failed
    cases first with
    | error cause =>
        cases failed
        exact .inl rfl
    | ok value => exact .inr ⟨value, rfl, failed⟩
  · rintro (rfl | ⟨value, rfl, failed⟩)
    · rfl
    · exact failed

/-! ## Faults of a file -/

/-- Whether an error is the fault of a script file: it cannot be read, it is no rule file, its
rules are invalid, or it asks for a native script that does not exist. -/
def LoadError.IsFault : LoadError → Prop
  | .unreadable _ _ | .unparsable _ _ | .schema _ _ | .unknownScript _ _ => True
  | .failed _ _ | .panicked _ _ | .host _ _ => False

/-- Whether an error names the file at a path, or the script in it. -/
def LoadError.IsOf (path : String) : LoadError → Prop
  | .unreadable file _ | .unparsable file _ => file = path
  | .schema script _ | .unknownScript script _ | .failed script _ | .panicked script _
  | .host script _ => script = scriptId path

theorem LoadError.isOf_of_script? {error : LoadError} {path : String}
    (owned : error.script? = some (scriptId path)) : error.IsOf path := by
  cases error <;> simp_all [LoadError.script?, LoadError.IsOf]

namespace ScriptSource

/-- What a load finds wrong with a source before its native script takes a step, or else that
native script. -/
def appraise (source : ScriptSource) (vocabulary : Vocabulary) (shelf : ScriptShelf) :
    Except LoadError (Option NativeScript) := do
  let rules ← source.rules vocabulary
  let _ ← (EventDraft.build rules.draft).mapError (LoadError.schema source.id)
  match rules.script with
  | none => return none
  | some name =>
    match shelf.get? name with
    | none => throw (.unknownScript source.id name)
    | some native => return some native

/-- The order in which a source is gone through does not matter for whether it passes. -/
theorem check_isOk (source : ScriptSource) (vocabulary : Vocabulary) (shelf : ScriptShelf) :
    (source.check vocabulary shelf).isOk = (source.appraise vocabulary shelf).isOk := by
  unfold check appraise
  cases source.rules vocabulary with
  | error error => rfl
  | ok rules =>
      dsimp only [bind, Except.bind, Except.mapError]
      cases rules.script with
      | none => cases EventDraft.build rules.draft <;> rfl
      | some name =>
          cases found : shelf.get? name <;> cases EventDraft.build rules.draft <;>
            simp only [Dictionary.contains, found, Option.isSome_none, Option.isSome_some,
              Bool.false_eq_true, if_false, if_true] <;> rfl

theorem read_error {tree : FileTree} {path : String} {error : LoadError}
    (failed : read tree path = .error error) : error.IsFault ∧ error.IsOf path := by
  unfold read at failed
  split at failed
  · cases failed
  · cases failed
    exact ⟨trivial, rfl⟩

theorem read_ok {tree : FileTree} {path : String} {source : ScriptSource}
    (given : read tree path = .ok source) : source.id = scriptId path ∧ source.path = path := by
  unfold read at given
  split at given
  · cases given
    exact ⟨rfl, rfl⟩
  · cases given

theorem rules_isFault {source : ScriptSource} {vocabulary : Vocabulary} {error : LoadError}
    (failed : source.rules vocabulary = .error error) :
    error.IsFault ∧ ∀ path, source.id = scriptId path → source.path = path → error.IsOf path := by
  unfold rules at failed
  split at failed
  case h_1 cause _ =>
    cases failed
    exact ⟨trivial, fun _ _ placed => placed⟩
  case h_2 file _ =>
    cases resolved : file.resolve vocabulary with
    | ok rules =>
        rw [resolved] at failed
        cases failed
    | error cause =>
        rw [resolved] at failed
        cases failed
        exact ⟨trivial, fun _ named _ => named⟩

end ScriptSource

/-- What a check of the files at certain paths reports. -/
def CheckReport.ofPaths (directory : String) (paths : List String)
    (check : String → Except CheckError CheckedScript) : CheckReport :=
  if paths.isEmpty then { lines := ["No scripts found in " ++ directory], failures := 0 }
  else {
    lines := paths.flatMap fun path => checkLines path (check path)
    failures := (paths.filter fun path => !(check path).isOk).length }

namespace Host

/-! ## A generation that runs -/

/-- A generation is the current one, and none of its managers was stopped. -/
structure Running (generation : Generation) (host : Host) : Prop where
  current : host.generation = generation
  registry : host.registry.generation = generation
  live : ∀ manager ∈ host.registry.managers,
    manager.generation = generation ∧ ¬(host.gate manager.gate).isClosed

/-- A generation runs from where its scripts begin to load: everything was unloaded before. -/
theorem unloadAll_running (host : Host) :
    (after unloadAll host).Running (after unloadAll host).generation :=
  ⟨rfl, rfl, nofun⟩

/-- What a generation that runs comes to in the wiring. -/
structure Wiring.Running (generation : Generation) (wiring : Wiring) : Prop where
  registry : wiring.registry.generation = generation
  live : ∀ manager ∈ wiring.registry.managers,
    manager.generation = generation ∧ ¬(wiring.gate manager.gate).isClosed

theorem Running.wiring {generation : Generation} {host : Host} (running : host.Running generation) :
    host.wiring.Running generation where
  registry := running.registry
  live manager member := by
    obtain ⟨old, present, rfl⟩ := List.mem_map.mp member
    exact running.live old present

namespace Wiring.Running

variable {generation : Generation} {wiring : Wiring} (running : wiring.Running generation)
include running

/-- Opening a gate closes none. -/
private theorem opening (id : GateId) :
    (wiring.changeGate id Gate.opening).Running generation where
  registry := running.registry
  live manager member := by
    obtain ⟨same, unclosed⟩ := running.live manager member
    refine ⟨same, ?_⟩
    rw [gate_changeGate]
    split
    · rwa [Gate.isClosed_opening]
    · exact unclosed

private theorem update {manager : Manager} (same : manager.generation = generation)
    (unclosed : ¬(wiring.gate manager.gate).isClosed) :
    (wiring.update manager).Running generation where
  registry := running.registry
  live other member := by
    rcases mem_update member with rfl | ⟨present, -⟩
    · exact ⟨same, unclosed⟩
    · exact running.live other present

private theorem resume (kind : ManagerKind) : (wiring.resume kind).Running generation := by
  unfold Wiring.resume
  cases found : wiring.registry.manager? kind with
  | none => exact running
  | some manager =>
      have opened := running.opening manager.gate
      obtain ⟨same, unclosed⟩ := opened.live manager (List.mem_of_find?_eq_some found)
      dsimp only
      split
      · exact opened.update same unclosed
      · exact opened

omit running in
/-- A manager that is let deliver stays with its source. -/
private theorem resume_manager? {kind : ManagerKind} {manager : Manager}
    (found : wiring.registry.manager? kind = some manager) :
    (wiring.resume kind).registry.manager? kind = some manager := by
  have named : manager.kind = kind := (Registry.of_manager? found).2
  simp only [Wiring.resume, found]
  split
  · exact (Registry.manager?_update found named kind).trans (if_pos rfl)
  · exact found

private theorem add (kind : ManagerKind) : (wiring.add kind generation).Running generation where
  registry := running.registry
  live manager member := by
    rcases List.mem_cons.mp ((Registry.insertManager_perm _ _).mem_iff.mp member) with rfl | old
    · refine ⟨rfl, ?_⟩
      simp [Wiring.add, Wiring.gate, Gate.isClosed]
    · obtain ⟨same, unclosed⟩ := running.live manager old
      refine ⟨same, ?_⟩
      rwa [add_gate]

/-- A generation that runs has a manager for every source that needs one. -/
theorem need (kind : ManagerKind) :
    (wiring.need generation kind generation).1 = .ok () ∧
      (wiring.need generation kind generation).2.Running generation ∧
      ∃ manager, (wiring.need generation kind generation).2.registry.manager? kind =
        some manager := by
  unfold Wiring.need
  have unmoved : ¬wiring.registry.generation ≠ generation := fun moved => moved running.registry
  simp only [unmoved, ne_eq, not_true_eq_false, if_false, decide_false, Bool.false_and,
    Bool.false_eq_true]
  split
  case isTrue present =>
    obtain ⟨manager, found, -⟩ := (Option.any_eq_true _ _).mp present
    exact ⟨rfl, running, manager, found⟩
  case isFalse absent =>
    have none : wiring.registry.manager? kind = none := by
      cases found : wiring.registry.manager? kind with
      | none => rfl
      | some manager =>
          have same := (running.live manager (List.mem_of_find?_eq_some found)).1
          simp [found, same] at absent
    have added := running.add kind
    have placed : (wiring.add kind generation).registry.manager? kind = some _ :=
      (Registry.manager?_add none kind).trans (if_pos rfl)
    unfold create
    dsimp only
    split
    · exact ⟨rfl, added.resume kind, _, resume_manager? placed⟩
    · exact ⟨rfl, added, _, placed⟩

/-- A generation that runs refuses no subscription with the manager of the source. -/
theorem subscribe (kind : EventKind) (schema : EventSchema) {manager : Manager}
    (found : wiring.registry.manager? kind.manager = some manager) :
    (∃ handle, (wiring.subscribe generation kind.manager kind schema).1 = .ok handle) ∧
      (wiring.subscribe generation kind.manager kind schema).2.Running generation := by
  obtain ⟨same, unclosed⟩ := running.live manager (List.mem_of_find?_eq_some found)
  have fed : (wiring.feed manager kind schema).2.Running generation := by
    cases kind <;> exact ⟨running.registry, running.live⟩
  have unclosed' : ¬((wiring.feed manager kind schema).2.gate manager.gate).isClosed := by
    cases kind <;> exact unclosed
  simp only [Wiring.subscribe, found, ne_eq, not_true_eq_false, if_false, unclosed]
  exact ⟨⟨_, rfl⟩, fed.update same unclosed'⟩

end Wiring.Running

section Registering

variable {generation : Generation} {host : Host}

theorem Running.of_wiring (current : host.generation = generation)
    (running : host.wiring.Running generation) : host.Running generation where
  current
  registry := running.registry
  live manager member := running.live manager.bare (List.mem_map_of_mem member)

private theorem generation_managing :
    Managing fun host => host.generation = generation where
  still _ _ _ _ _ holds := holds
  cancel _ _ holds := holds
  spawn name age owner work := by
    refine .get fun host holds => ?_
    split <;> exact holds

/-- A manager that runs takes the entry of a schema. -/
private theorem Running.subscribeWith (running : host.Running generation) (schema : EventSchema)
    (kind : EventKind) :
    (∃ handle, answer (subscribeWith generation schema kind.manager kind) host = .ok handle) ∧
      (after (Host.subscribeWith generation schema kind.manager kind) host).Running generation := by
  have current := running.current
  have needed := needManager_wiring kind.manager generation host
  rw [current] at needed
  obtain ⟨given, ready, manager, found⟩ := running.wiring.need kind.manager
  rw [← needed] at given ready found
  have given : answer (needManager kind.manager generation) host = .ok () := given
  have still := generation_managing.needManager kind.manager generation host current
  simp only [Host.subscribeWith, answer_bind, after_bind, given]
  generalize after (needManager kind.manager generation) host = middle at ready found still
  have subscribed := subscribe_wiring kind.manager kind schema middle
  rw [still] at subscribed
  obtain ⟨accepted, running⟩ := ready.subscribe kind schema found
  rw [← subscribed] at accepted running
  exact ⟨accepted, .of_wiring (generation_managing.subscribe _ kind schema middle still) running⟩

/-- A generation that runs binds a schema to all its kinds of events. -/
private theorem Running.subscribeAll (running : host.Running generation) (schema : EventSchema)
    (held : List Handle) (kinds : List EventKind) :
    ∃ handles, answer (subscribeAll generation schema held kinds) host = .ok handles := by
  induction kinds generalizing host held with
  | nil => exact ⟨held, rfl⟩
  | cons kind rest previous =>
      obtain ⟨⟨handle, accepted⟩, kept⟩ := running.subscribeWith schema kind
      simp only [Host.subscribeAll, answer_bind, accepted]
      exact previous kept (held ++ [handle])

theorem Running.register (running : host.Running generation) (script : String)
    (schema : EventSchema) :
    ∃ handles, answer (register script generation schema) host = .ok handles := by
  obtain ⟨handles, given⟩ := running.subscribeAll (schema.withOwner script) [] schema.kinds
  simp only [Host.register, answer_bind, given]
  exact ⟨handles, rfl⟩

end Registering

/-! ## Loading a source -/

section Loading

variable (context : LoadContext) (host : Host)

private theorem answer_addSchema {draft : EventDraft} {schema : EventSchema}
    (built : EventDraft.build draft = .ok schema) :
    (answer ((addSchema draft).run context) host).2.script = context.script ∧
      (answer ((addSchema draft).run context) host).1 =
        (answer (register context.script context.generation schema) host).map List.length := by
  rw [answer, run_addSchema built]
  cases answer (register context.script context.generation schema) host <;> exact ⟨rfl, rfl⟩

/-- How a script is told that its rules were bound or not. -/
private def ruled (script : String) : Except HostError Nat → Except LoadError Unit
  | .error (.schema cause) => .error (.schema script cause)
  | .error cause => .error (.host script cause)
  | .ok _ => .ok ()

private theorem answer_loadRules {draft : EventDraft} (some : ¬draft.isEmpty) :
    (answer ((loadRules draft).run.run context) host).1 =
        ruled context.script (answer ((addSchema draft).run context) host).1 ∧
      (answer ((loadRules draft).run.run context) host).2 =
        (answer ((addSchema draft).run context) host).2 := by
  let report : Except HostError Nat → Load LoadError Unit
    | .error (.schema cause) => throw (.schema context.script cause)
    | .error cause => throw (.host context.script cause)
    | .ok _ => return ()
  have opened : (loadRules draft).run.run context =
      ((addSchema draft).run context >>= fun added => (report added.1).run.run added.2) := by
    simp only [loadRules, if_neg some]
    rfl
  rw [opened, answer_bind]
  generalize answer ((addSchema draft).run context) host = added
  generalize after ((addSchema draft).run context) host = next
  obtain ⟨result, acquired⟩ := added
  cases result with
  | ok count => exact ⟨rfl, rfl⟩
  | error error => cases error <;> exact ⟨rfl, rfl⟩

/-- Rules that are not bound are reported for their script, which stays the one that loads. -/
private theorem loadRules_script (draft : EventDraft) :
    (answer ((loadRules draft).run.run context) host).2.script = context.script ∧
      ∀ error, (answer ((loadRules draft).run.run context) host).1 = .error error →
        error.script? = some context.script := by
  by_cases some : draft.isEmpty
  · have nothing : loadRules draft = pure () := by simp only [loadRules, if_pos some]
    rw [nothing]
    exact ⟨rfl, nofun⟩
  obtain ⟨result, acquired⟩ := answer_loadRules context host some
  rw [result, acquired]
  refine ⟨?_, fun error failed => ?_⟩
  · cases built : EventDraft.build draft with
    | ok schema => exact (answer_addSchema context host built).1
    | error cause =>
        unfold addSchema
        rw [built]
        rfl
  · unfold ruled at failed
    split at failed <;> cases failed <;> rfl

/-- A generation that runs binds all rules that make a schema. -/
private theorem Running.loadRules (context : LoadContext) {host : Host}
    (running : host.Running context.generation) (draft : EventDraft) :
    (answer ((loadRules draft).run.run context) host).1 =
      ((EventDraft.build draft).mapError (LoadError.schema context.script)).map fun _ => () := by
  by_cases some : draft.isEmpty
  · have nothing : draft = [] := List.isEmpty_iff.mp some
    rw [nothing]
    rfl
  rw [(answer_loadRules context host some).1]
  cases built : EventDraft.build draft with
  | error cause =>
      unfold addSchema
      rw [built]
      rfl
  | ok schema =>
      obtain ⟨handles, bound⟩ := running.register context.script schema
      rw [(answer_addSchema context host built).2, bound]
      rfl

/-- A native script fails only as one that failed or panicked. -/
private theorem loadNative_error (native : NativeScript) {error : LoadError}
    (failed : (answer ((loadNative native).run.run context) host).1 = .error error) :
    ∃ failure, error = nativeError context.script failure := by
  have opened : (answer ((loadNative native).run.run context) host).1 =
      (answer (((native.onLoad context.settings).forM (loadStep native.name)).run.run context)
        host).1.mapError (nativeError context.script) := rfl
  rw [opened] at failed
  generalize (answer (((native.onLoad context.settings).forM (loadStep native.name)).run.run
    context) host).1 = result at failed
  cases result with
  | ok value => cases failed
  | error failure =>
      cases failed
      exact ⟨failure, rfl⟩

/-- What the load of a source comes to: its rules are read and bound, and its native script is
looked up and takes its steps. -/
theorem answer_loadSource (source : ScriptSource) :
    ∃ acquired next, acquired.script = context.script ∧
      (answer ((loadSource source).run.run context) host).1 = (do
        let rules ← source.rules host.vocabulary
        (answer ((loadRules rules.draft).run.run
          { context with settings := context.settings.extend rules.settings }) host).1
        match rules.script with
        | none => return none
        | some name =>
          match host.shelf.get? name with
          | none => throw (.unknownScript source.id name)
          | some native => do
            (answer ((loadNative native).run.run acquired) next).1
            return some native) := by
  cases known : source.rules host.vocabulary with
  | error error =>
      refine ⟨context, host, rfl, ?_⟩
      rw [answer, loadSource_run, known]
      rfl
  | ok rules =>
      let extended := { context with settings := context.settings.extend rules.settings }
      have opened : answer ((loadSource source).run.run context) host =
          answer ((loadResolved host.shelf source rules).run.run extended) host := by
        rw [answer, loadSource_run, known]
        rfl
      refine ⟨(answer ((loadRules rules.draft).run.run extended) host).2,
        after ((loadRules rules.draft).run.run extended) host,
        (loadRules_script extended host rules.draft).1, ?_⟩
      rw [opened, loadResolved, ExceptT.run_bind, StateT.run_bind, answer_bind]
      change _ = (answer ((loadRules rules.draft).run.run extended) host).1.bind _
      generalize answer ((loadRules rules.draft).run.run extended) host = bound
      generalize after ((loadRules rules.draft).run.run extended) host = next
      obtain ⟨result, acquired⟩ := bound
      cases result with
      | error error => rfl
      | ok value =>
          cases rules.script with
          | none => rfl
          | some name =>
              dsimp only [Except.bind]
              cases host.shelf.get? name with
              | none => rfl
              | some native =>
                  dsimp only
                  rw [ExceptT.run_bind, StateT.run_bind, answer_bind]
                  change _ = (answer ((loadNative native).run.run acquired) next).1.bind _
                  generalize answer ((loadNative native).run.run acquired) next = loaded
                  obtain ⟨result, _⟩ := loaded
                  cases result <;> rfl

end Loading

/-! ## Loading a file -/

/-- The load of a source that was read fails as one that is not admitted, or with its native
script, in a generation that runs. -/
private theorem Running.loadSource {context : LoadContext} {host : Host}
    (running : host.Running context.generation) {source : ScriptSource}
    (named : context.script = source.id) (error : LoadError) :
    (answer ((loadSource source).run.run context) host).1 = .error error ∧ error.IsFault ↔
      source.appraise host.vocabulary host.shelf = .error error := by
  obtain ⟨acquired, next, script, result⟩ := answer_loadSource context host source
  rw [result, ScriptSource.appraise]
  cases known : source.rules host.vocabulary with
  | error cause =>
      refine ⟨fun failed => failed.1, fun failed => ⟨failed, ?_⟩⟩
      cases failed
      exact (ScriptSource.rules_isFault known).1
  | ok rules =>
      have bound := Running.loadRules
        { context with settings := context.settings.extend rules.settings } running rules.draft
      dsimp only [bind, Except.bind] at bound ⊢
      rw [bound, named]
      cases EventDraft.build rules.draft with
      | error cause =>
          refine ⟨fun failed => failed.1, fun failed => ⟨failed, ?_⟩⟩
          cases failed
          trivial
      | ok schema =>
          cases rules.script with
          | none => exact ⟨fun failed => (nomatch failed.1), nofun⟩
          | some name =>
              dsimp only [Except.mapError, Except.map]
              cases host.shelf.get? name with
              | none =>
                  refine ⟨fun failed => failed.1, fun failed => ⟨failed, ?_⟩⟩
                  cases failed
                  trivial
              | some native =>
                  refine ⟨fun failed => ?_, nofun⟩
                  obtain ⟨failed, fault⟩ := failed
                  dsimp only at failed
                  cases loaded : (answer ((loadNative native).run.run acquired) next).1 with
                  | ok value =>
                      rw [loaded] at failed
                      cases failed
                  | error cause =>
                      rw [loaded] at failed
                      cases failed
                      obtain ⟨failure, rfl⟩ := loadNative_error acquired next native loaded
                      cases failure <;> exact fault.elim

/-- The load of a source fails as its rules do, or for its script. -/
private theorem loadSource_error (context : LoadContext) (host : Host) {source : ScriptSource}
    (named : context.script = source.id) {error : LoadError}
    (failed : (answer ((loadSource source).run.run context) host).1 = .error error) :
    source.rules host.vocabulary = .error error ∨ error.script? = some source.id := by
  obtain ⟨acquired, next, script, result⟩ := answer_loadSource context host source
  rw [result] at failed
  obtain unread | ⟨rules, -, failed⟩ := bind_eq_error_iff.mp failed
  · exact .inl unread
  right
  obtain unbound | ⟨_, -, failed⟩ := bind_eq_error_iff.mp failed
  · exact ((loadRules_script _ host rules.draft).2 error unbound).trans (congrArg some named)
  split at failed
  · cases failed
  split at failed
  · cases failed
    rfl
  obtain failed | ⟨_, -, failed⟩ := bind_eq_error_iff.mp failed
  · obtain ⟨failure, rfl⟩ := loadNative_error acquired next _ failed
    rw [script, named]
    cases failure <;> rfl
  · cases failed

/-- Whether the result of a load is about the file at a path. -/
def Regards (path : String) : Except LoadError LoadedScript → Prop
  | .ok script => script.id = scriptId path
  | .error error => error.IsOf path

/-- The context in which the source of a file loads. -/
private def startOf (generation : Generation) (host : Host) (source : ScriptSource) :
    LoadContext where
  script := source.id
  generation
  settings := settingsFor host.reloading.config source.id

/-- The load of a file ends as the load of its source, if it can be read. -/
private theorem answer_loadFile (generation : Generation) (path : String) (host : Host) :
    answer (loadFile generation path) host = (do
      let source ← ScriptSource.read host.tree path
      let instance? ← (answer ((loadSource source).run.run (startOf generation host source))
        host).1
      return { id := source.id, instance? }) := by
  rw [loadFile, answer_get_bind]
  cases ScriptSource.read host.tree path with
  | error error => rfl
  | ok source =>
      dsimp only
      rw [answer_bind, ← startOf]
      change _ =
        (answer ((loadSource source).run.run (startOf generation host source)) host).1.bind _
      generalize answer ((loadSource source).run.run (startOf generation host source)) host =
        loaded
      obtain ⟨result, acquired⟩ := loaded
      cases result <;> rfl

/-- The outcome for a file is always about this file. -/
theorem loadFile_regards (generation : Generation) (path : String) (host : Host) :
    Regards path (answer (loadFile generation path) host) := by
  cases result : answer (loadFile generation path) host with
  | ok script =>
      rw [answer_loadFile] at result
      cases read : ScriptSource.read host.tree path with
      | error error =>
          rw [read] at result
          cases result
      | ok source =>
          rw [read] at result
          dsimp only [bind, Except.bind] at result
          split at result
          · cases result
          · cases result
            exact (ScriptSource.read_ok read).1
  | error error =>
      rw [answer_loadFile] at result
      obtain unread | ⟨source, read, failed⟩ := bind_eq_error_iff.mp result
      · exact (ScriptSource.read_error unread).2
      obtain ⟨named, placed⟩ := ScriptSource.read_ok read
      obtain failed | ⟨_, -, failed⟩ := bind_eq_error_iff.mp failed
      · obtain invalid | owned := loadSource_error _ host rfl failed
        · exact (ScriptSource.rules_isFault invalid).2 path named placed
        · exact LoadError.isOf_of_script? (owned.trans (congrArg some named))
      · cases failed

/-- In a generation that runs, the load of a file fails through a fault of the file just when it
cannot be read or its source is not admitted. -/
theorem Running.loadFile {generation : Generation} {host : Host} (running : host.Running generation)
    (path : String) (error : LoadError) :
    answer (Host.loadFile generation path) host = .error error ∧ error.IsFault ↔
      (ScriptSource.read host.tree path >>= (·.appraise host.vocabulary host.shelf)) =
        .error error := by
  rw [answer_loadFile]
  constructor
  · rintro ⟨failed, fault⟩
    obtain unread | ⟨source, read, failed⟩ := bind_eq_error_iff.mp failed
    · exact bind_eq_error_iff.mpr (.inl unread)
    obtain failed | ⟨_, -, failed⟩ := bind_eq_error_iff.mp failed
    · have refused := (running.loadSource rfl error).mp ⟨failed, fault⟩
      exact bind_eq_error_iff.mpr (.inr ⟨source, read, refused⟩)
    · cases failed
  · intro failed
    obtain unread | ⟨source, read, refused⟩ := bind_eq_error_iff.mp failed
    · exact ⟨bind_eq_error_iff.mpr (.inl unread), (ScriptSource.read_error unread).1⟩
    · have begun : host.Running (startOf generation host source).generation := running
      obtain ⟨failed, fault⟩ := (begun.loadSource rfl error).mpr refused
      refine ⟨bind_eq_error_iff.mpr (.inr ⟨source, read, ?_⟩), fault⟩
      exact bind_eq_error_iff.mpr (.inl failed)

/-! ## A whole directory -/

theorem checkDirectory_eq (host : Host) :
    checkDirectory host.tree host.reloading.directory host.reloading.config host.vocabulary
        host.shelf =
      .ofPaths host.reloading.directory (scriptPaths host)
        (checkFile host.tree host.vocabulary host.shelf) := by
  simp only [checkDirectory, CheckReport.ofPaths, scriptPaths, List.isEmpty_map, List.flatMap_map,
    List.filter_map, List.length_map, Function.comp_def]

/-- Each file of a list comes to one outcome of its own, in order. -/
theorem loadFiles_regard (generation : Generation) (paths : List String) (host : Host) :
    List.Forall₂ Regards paths (answer (paths.mapM (loadFile generation)) host) := by
  induction paths generalizing host with
  | nil => exact .nil
  | cons path rest previous =>
      rw [List.mapM_cons]
      exact .cons (loadFile_regards generation path host) (previous _)

/-- A check reports a file as in order just when no load of it into a running generation fails
through a fault of the file. Both go over the files of the script directory in the same order:
the report is made of a check of each, and the outcome of a load of one for each. -/
theorem check_agrees {generation : Generation} {host : Host} (running : host.Running generation) :
    (∀ path, (checkFile host.tree host.vocabulary host.shelf path).isOk = true ↔
        ∀ error, answer (loadFile generation path) host = .error error → ¬error.IsFault) ∧
      checkDirectory host.tree host.reloading.directory host.reloading.config host.vocabulary
          host.shelf =
        .ofPaths host.reloading.directory (scriptPaths host)
          (checkFile host.tree host.vocabulary host.shelf) ∧
      ∃ results, answer (loadAll generation) host = sortLoaded results ∧
        List.Forall₂ Regards (scriptPaths host) results := by
  refine ⟨fun path => ?_, checkDirectory_eq host, _, rfl, loadFiles_regard _ _ _⟩
  have faults := running.loadFile path
  have passes : (checkFile host.tree host.vocabulary host.shelf path).isOk =
      (ScriptSource.read host.tree path >>= (·.appraise host.vocabulary host.shelf)).isOk := by
    unfold checkFile
    cases ScriptSource.read host.tree path with
    | error error => rfl
    | ok source => exact source.check_isOk host.vocabulary host.shelf
  rw [passes]
  cases admitted : ScriptSource.read host.tree path >>= (·.appraise host.vocabulary host.shelf) with
  | error error =>
      obtain ⟨failed, fault⟩ := (faults error).mpr admitted
      exact ⟨fun passed => (nomatch passed), fun spared => absurd fault (spared error failed)⟩
  | ok native? =>
      refine ⟨fun _ error failed fault => ?_, fun _ => rfl⟩
      have refused := (faults error).mp ⟨failed, fault⟩
      rw [admitted] at refused
      cases refused

/-- A native script that binds a rule of its own. -/
private def beacon : NativeScript where
  name := "beacon"
  onLoad _ := [
    .register false (.ok [{
      key := "motion"
      body := .unconditional (.one (.call "tick" [.report])) }])]

/-- Two rule files, of which the second asks for a native script that nobody has. -/
private def pairedTree : FileTree :=
  (FileTree.put {} "data/scripts/a.toml" ⟨.file "script = \"beacon\"\n".toUTF8, 0⟩).put
    "data/scripts/b.toml" ⟨.file "script = \"siren\"\n".toUTF8, 0⟩

/-- A host that has gone through a cycle with these files. -/
def paired : Host :=
  after (reload 9) (create {} "data" pairedTree {} [("beacon", beacon)])

theorem check_agrees_paired :
    paired.Running 1 ∧ paired.registry.managers.length = 1 ∧
      (answer (loadFile 1 "data/scripts/a.toml") paired).isOk ∧
      (checkFile paired.tree paired.vocabulary paired.shelf "data/scripts/b.toml").isOk = false ∧
      ∃ error, answer (loadFile 1 "data/scripts/b.toml") paired = .error error ∧
        error.IsFault := by
  have running : paired.Running 1 :=
    { current := by decide +kernel
      registry := by decide +kernel
      live := by decide +kernel }
  have refused : ¬(checkFile paired.tree paired.vocabulary paired.shelf
      "data/scripts/b.toml").isOk = true := by
    decide +kernel
  refine ⟨running, by decide +kernel, by decide +kernel, by simpa using refused, ?_⟩
  have disagrees := mt ((check_agrees running).1 "data/scripts/b.toml").mpr refused
  push Not at disagrees
  exact disagrees

end Host
end HomeRules
