import HomeRules.Proofs.Host.Installing

/-!
# Records of native scripts

A record is kept beside the calls that reload and shut down a host: when a call has stopped
everything, and which native scripts it then unloads and loads. Keeping it changes nothing of
what the calls do.
-/

set_option autoImplicit false

namespace HomeRules

/-- A native script as it was made for a script of a generation. -/
structure Instance where
  generation : Generation
  script : String
  native : NativeScript

inductive Milestone where
  /-- Everything that belongs to generations before a number was stopped. -/
  | stopped (current : Generation)
  | loading (made : Instance)
  | loaded (made : Instance)
  /-- The load of an instance failed or panicked. -/
  | refused (made : Instance)
  | unloading (made : Instance)

def Milestone.loaded? : Milestone → Option Instance
  | .loaded made => some made
  | _ => none

def Milestone.unloading? : Milestone → Option Instance
  | .unloading made => some made
  | _ => none

/-- An instance that a call tried to load, and whether it did. -/
structure Attempt where
  made : Instance
  succeeded : Bool

def Attempt.milestones (attempt : Attempt) : List Milestone :=
  [.loading attempt.made, if attempt.succeeded then .loaded attempt.made else .refused attempt.made]

/-- The instances among the scripts of a generation. -/
def instances (generation : Generation) (scripts : List LoadedScript) : List Instance :=
  scripts.filterMap fun script => script.instance?.map (Instance.mk generation script.id)

namespace Host

/-! ## Keeping a record -/

/-- A step that notes what happens to native scripts. -/
abbrev Recorder := StateT (List Milestone) Step

def record (milestone : Milestone) : Recorder Unit :=
  modify (· ++ [milestone])

/-- Registers the rules of a source and finds its native script. -/
def openSource (source : ScriptSource) : Load LoadError (Option NativeScript) := do
  let host ← getThe Host
  let rules ← liftExcept (source.rules host.vocabulary)
  modifyThe LoadContext fun context =>
    { context with settings := context.settings.extend rules.settings }
  loadRules rules.draft
  match rules.script with
  | none => return none
  | some name =>
    match host.shelf.get? name with
    | none => throw (.unknownScript source.id name)
    | some native => return some native

def recordOpened (generation : Generation) (source : ScriptSource) :
    Except LoadError (Option NativeScript) × LoadContext →
      Recorder (Except LoadError (LoadedScript × LoadContext))
  | (.ok (some native), acquired) => do
    let made : Instance := ⟨generation, source.id, native⟩
    record (.loading made)
    let (result, acquired) ← (((loadNative native).run).run acquired : Step _)
    record (if result.isOk then .loaded made else .refused made)
    (finishFile source (result.map fun _ => some native, acquired) : Step _)
  | opened => (finishFile source opened : Step _)

def recordFile (generation : Generation) (path : String) :
    Recorder (Except LoadError (LoadedScript × LoadContext)) := do
  let host ← getThe Host
  match ScriptSource.read host.tree path with
  | .error error => do
    (warn error.message : Step Unit)
    return .error error
  | .ok source => do
    let context : LoadContext := {
      script := source.id, generation
      settings := settingsFor host.reloading.config source.id }
    recordOpened generation source (← (((openSource source).run).run context : Step _))

def recordLoads (generation : Generation) : Recorder (List LoadedScript × List LoadError) := do
  let results ← (scriptPaths (← getThe Host)).mapM (recordFile generation)
  return sortLoaded (results.map (Except.map Prod.fst))

def recordUnload (outgoing : Generation) (script : LoadedScript) : Recorder Unit := do
  script.instance?.forM fun native => record (.unloading ⟨outgoing, script.id, native⟩)
  (unloadScript script : Step Unit)

def recordUnloads (outgoing : Generation) : Recorder Unit := do
  let scripts := (← getThe Host).arena
  (modify fun host => { host with arena := [] } : Step Unit)
  scripts.forM (recordUnload outgoing)
  (clearRegistry : Step Unit)

/-- Stops and unloads the live generation. -/
def vacate (budget : Nat) : Step (Generation × List StopTimeout) := do
  let generation ← advanceGeneration
  enterPhase .stopping
  let timeouts ← stop budget
  enterPhase .unloading
  unloadAll
  return (generation, timeouts)

def recordVacation (budget : Nat) : Recorder (Generation × List StopTimeout) := do
  let outgoing := (← getThe Host).generation
  let generation ← (advanceGeneration : Step _)
  (enterPhase .stopping : Step Unit)
  let timeouts ← (stop budget : Step _)
  record (.stopped generation)
  (enterPhase .unloading : Step Unit)
  recordUnloads outgoing
  return (generation, timeouts)

def recordInstall (budget : Nat) (generation : Generation) (timeouts : List StopTimeout) :
    Recorder (Except HostError CycleReport) := do
  let (scripts, failed) ← recordLoads generation
  (conclude budget generation timeouts scripts failed : Step _)

def recordCycle (budget : Nat) : Recorder (Except HostError CycleReport) := do
  if (← getThe Host).loops.shutDown then return .error .shutDown
  else do
    let (generation, timeouts) ← recordVacation budget
    (enterPhase .loading : Step Unit)
    recordInstall budget generation timeouts

def recordReload (budget : Nat) : Recorder (Except HostError CycleReport) := do
  (changeLoops ReloadLoops.occupy : Step Unit)
  let result ← recordCycle budget
  (changeLoops ReloadLoops.release : Step Unit)
  return result

def recordShutDown (budget : Nat) : Recorder Unit := do
  (changeLoops ReloadLoops.retire : Step Unit)
  let _ ← recordVacation budget
  (enterPhase .idle : Step Unit)

/-! ## A record is faithful -/

/-- On a host, a recorder does what a step does, and adds to the record. -/
def Records {α : Type} (recorder : Recorder α) (step : Step α) (host : Host)
    (added : List Milestone) : Prop :=
  ∀ before, (recorder.run before).run host =
    ((answer step host, before ++ added), after step host)

namespace Records

variable {α β : Type} {host : Host} {added : List Milestone}

theorem lift (step : Step α) (host : Host) : Records (liftM step) step host [] := by
  intro before
  rw [List.append_nil]
  rfl

theorem pure (value : α) (host : Host) : Records (Pure.pure value) (Pure.pure value) host [] :=
  lift (Pure.pure value) host

theorem bind {recorder : Recorder α} {step : Step α} {rest : α → Recorder β} {next : α → Step β}
    {later : List Milestone} (first : Records recorder step host added)
    (second : Records (rest (answer step host)) (next (answer step host)) (after step host) later) :
    Records (recorder >>= rest) (step >>= next) host (added ++ later) := by
  intro before
  change ((rest ((recorder.run before).run host).1.1).run
    ((recorder.run before).run host).1.2).run ((recorder.run before).run host).2 = _
  rw [first before, ← List.append_assoc]
  exact second _

theorem step {step : Step α} {rest : α → Recorder β} {next : α → Step β}
    (second : Records (rest (answer step host)) (next (answer step host)) (after step host) added) :
    Records (liftM step >>= rest) (step >>= next) host added := by
  have both := bind (lift step host) second
  rwa [List.nil_append] at both

theorem get {rest : Host → Recorder β} {next : Host → Step β}
    (second : Records (rest host) (next host) host added) :
    Records (getThe Host >>= rest) (MonadState.get >>= next) host added :=
  second

theorem read {rest : Host → Recorder β} {next : Step β}
    (second : Records (rest host) next host added) :
    Records (getThe Host >>= rest) next host added :=
  second

theorem followed {recorder : Recorder α} {step : Step α} {rest : α → Recorder β}
    {next : α → Step β} (first : Records recorder step host added)
    (second : Records (rest (answer step host)) (next (answer step host)) (after step host) []) :
    Records (recorder >>= rest) (step >>= next) host added := by
  have both := bind first second
  rwa [List.append_nil] at both

theorem of_eq {recorder : Recorder α} {step other : Step α}
    (recorded : Records recorder step host added) (given : answer other host = answer step host)
    (reached : after other host = after step host) : Records recorder other host added := by
  intro before
  rw [recorded, given, reached]

/-- What is noted is no part of the step. -/
theorem noted {milestone : Milestone} {rest : Recorder β} {next : Step β}
    (second : Records rest next host added) :
    Records (record milestone >>= fun _ => rest) next host (milestone :: added) := by
  intro before
  change (rest.run (before ++ [milestone])).run host = _
  rw [second, List.append_assoc]
  rfl

end Records

/-! ## Loading -/

/-- Attempts that leave certain scripts of a generation loaded. -/
structure Attempts (generation : Generation) (scripts : List LoadedScript)
    (attempts : List Attempt) : Prop where
  live : (attempts.filter (·.succeeded)).map (·.made) = instances generation scripts
  numbered : ∀ attempt ∈ attempts, attempt.made.generation = generation

theorem Attempts.append {generation : Generation} {scripts others : List LoadedScript}
    {attempts later : List Attempt} (first : Attempts generation scripts attempts)
    (second : Attempts generation others later) :
    Attempts generation (scripts ++ others) (attempts ++ later) where
  live := by
    rw [List.filter_append, List.map_append, first.live, second.live, instances, instances,
      instances, List.filterMap_append]
  numbered attempt member := by
    rcases List.mem_append.mp member with early | late
    · exact first.numbered attempt early
    · exact second.numbered attempt late

theorem loadSource_eq (source : ScriptSource) :
    loadSource source = (do
      match ← openSource source with
      | none => return none
      | some native => do
        loadNative native
        return some native) := by
  simp only [loadSource, openSource, bind_assoc]
  refine congrArg _ (funext fun host => congrArg _ (funext fun rules => congrArg _
    (funext fun _ => congrArg _ (funext fun _ => ?_))))
  cases rules.script with
  | none => rfl
  | some name =>
      dsimp only
      cases host.shelf.get? name <;> rfl

/-- The end of the load of a file whose source was opened. -/
def finishOpened (source : ScriptSource) :
    Except LoadError (Option NativeScript) × LoadContext →
      Step (Except LoadError (LoadedScript × LoadContext))
  | (.ok (some native), acquired) => do
    let (result, acquired) ← ((loadNative native).run).run acquired
    finishFile source (result.map fun _ => some native, acquired)
  | opened => finishFile source opened

private theorem finishFile_loadSource (source : ScriptSource) (context : LoadContext) :
    ((loadSource source).run).run context >>= finishFile source =
      ((openSource source).run).run context >>= finishOpened source := by
  rw [loadSource_eq, ExceptT.run_bind, StateT.run_bind, bind_assoc]
  refine congrArg (((openSource source).run).run context >>= ·) (funext fun opened => ?_)
  obtain ⟨result, acquired⟩ := opened
  cases result with
  | error error => rfl
  | ok native? =>
      cases native? with
      | none => rfl
      | some native =>
          dsimp only
          rw [ExceptT.run_bind, StateT.run_bind, bind_assoc]
          refine congrArg (((loadNative native).run).run acquired >>= ·) (funext fun loaded => ?_)
          obtain ⟨result, _⟩ := loaded
          cases result <;> rfl

/-- The scripts that a load leaves loaded. -/
def loadedScripts (result : Except LoadError (LoadedScript × LoadContext)) : List LoadedScript :=
  (result.toOption.map Prod.fst).toList

private theorem loadedScripts_finishFile (source : ScriptSource)
    (loaded : Except LoadError (Option NativeScript) × LoadContext) (host : Host) :
    loadedScripts (answer (finishFile source loaded) host) =
      (loaded.1.toOption.map fun instance? => { id := source.id, instance? }).toList := by
  obtain ⟨result, acquired⟩ := loaded
  cases result <;> rfl

theorem Attempts.none {generation : Generation} {scripts : List LoadedScript}
    (idle : instances generation scripts = []) : Attempts generation scripts [] :=
  ⟨idle.symm, fun _ member => absurd member List.not_mem_nil⟩

private theorem recordOpened_records (generation : Generation) (source : ScriptSource)
    (opened : Except LoadError (Option NativeScript) × LoadContext) (host : Host) :
    ∃ attempts, Records (recordOpened generation source opened) (finishOpened source opened) host
        (attempts.flatMap Attempt.milestones) ∧
      Attempts generation (loadedScripts (answer (finishOpened source opened) host)) attempts := by
  have quiet {result : Except LoadError (Option NativeScript)} (acquired : LoadContext)
      (idle : ∀ native, result ≠ .ok (some native)) :
      Attempts generation (loadedScripts (answer (finishFile source (result, acquired)) host))
        [] := by
    rw [loadedScripts_finishFile]
    refine .none ?_
    cases result with
    | error error => rfl
    | ok native? =>
        cases native? with
        | none => rfl
        | some native => exact absurd rfl (idle native)
  obtain ⟨result, acquired⟩ := opened
  cases result with
  | error error => exact ⟨[], .lift _ _, quiet acquired fun _ same => by cases same⟩
  | ok native? =>
      cases native? with
      | none => exact ⟨[], .lift _ _, quiet acquired fun _ same => by cases same⟩
      | some native =>
          let made : Instance := ⟨generation, source.id, native⟩
          let loaded := answer (((loadNative native).run).run acquired) host
          refine ⟨[⟨made, loaded.1.isOk⟩], .noted (.step (.noted (.lift _ _))), ?_, ?_⟩
          · change _ = instances generation (loadedScripts (answer (finishFile source
              (loaded.1.map fun _ => some native, loaded.2)) _))
            rw [loadedScripts_finishFile]
            cases loaded.1 <;> rfl
          · intro attempt member
            rw [List.mem_singleton.mp member]

theorem recordFile_records (generation : Generation) (path : String) (host : Host) :
    ∃ attempts, Records (recordFile generation path) (loadKeeping generation path) host
        (attempts.flatMap Attempt.milestones) ∧
      Attempts generation (loadedScripts (answer (loadKeeping generation path) host)) attempts := by
  simp only [loadKeeping, answer_get_bind]
  cases read : ScriptSource.read host.tree path with
  | error error =>
      refine ⟨[], .get ?_, .none rfl⟩
      simp only [read]
      exact .step (.pure _ _)
  | ok source =>
      dsimp only
      rw [finishFile_loadSource, answer_bind]
      obtain ⟨attempts, recorded, made⟩ := recordOpened_records generation source
        (answer (((openSource source).run).run _) host)
        (after (((openSource source).run).run _) host)
      refine ⟨attempts, .get ?_, made⟩
      simp only [read]
      rw [finishFile_loadSource]
      exact .step recorded

theorem recordFiles_records (generation : Generation) (paths : List String) (host : Host) :
    ∃ attempts, Records (paths.mapM (recordFile generation)) (paths.mapM (loadKeeping generation))
        host (attempts.flatMap Attempt.milestones) ∧
      Attempts generation ((answer (paths.mapM (loadKeeping generation)) host).flatMap
        loadedScripts) attempts := by
  induction paths generalizing host with
  | nil => exact ⟨[], .pure _ _, .none rfl⟩
  | cons path rest previous =>
      obtain ⟨attempts, recorded, made⟩ := recordFile_records generation path host
      obtain ⟨later, others, left⟩ := previous (after (loadKeeping generation path) host)
      rw [List.mapM_cons, List.mapM_cons]
      refine ⟨attempts ++ later, ?_, made.append left⟩
      rw [List.flatMap_append, ← List.append_nil (later.flatMap _)]
      exact .bind recorded (.bind others (.pure _ _))

private theorem sortLoaded_scripts
    (results : List (Except LoadError (LoadedScript × LoadContext))) :
    (sortLoaded (results.map (Except.map Prod.fst))).1 = results.flatMap loadedScripts := by
  induction results with
  | nil => rfl
  | cons result rest previous =>
      cases result with
      | error error => exact previous
      | ok loaded => exact congrArg (loaded.1 :: ·) previous

/-- Loading the script directory tries to load instances, and gives those that loaded. -/
theorem recordLoads_records (generation : Generation) (host : Host) :
    ∃ attempts, Records (recordLoads generation) (loadAll generation) host
        (attempts.flatMap Attempt.milestones) ∧
      Attempts generation (answer (loadAll generation) host).1 attempts := by
  obtain ⟨given, reached⟩ := loadAll_eq generation host
  obtain ⟨attempts, recorded, made⟩ := recordFiles_records generation (scriptPaths host) host
  refine ⟨attempts, ?_, ?_⟩
  · have sorted : Records (recordLoads generation) (do
        let results ← (scriptPaths (← get)).mapM (loadKeeping generation)
        return sortLoaded (results.map (Except.map Prod.fst))) host
        (attempts.flatMap Attempt.milestones) :=
      .get (.followed recorded (.pure _ _))
    exact sorted.of_eq given reached
  · rw [given, sortLoaded_scripts]
    exact made

/-! ## Unloading -/

theorem recordUnloads_records (outgoing : Generation) (host : Host) :
    Records (recordUnloads outgoing) unloadAll host
      ((instances outgoing host.arena).map .unloading) := by
  have each (script : LoadedScript) (host : Host) :
      Records (recordUnload outgoing script) (unloadScript script) host
        ((instances outgoing [script]).map .unloading) := by
    obtain ⟨id, instance?⟩ := script
    cases instance? with
    | none => exact fun before => Records.lift (unloadScript ⟨id, none⟩) host before
    | some native => exact .noted (.lift _ _)
  have all (scripts : List LoadedScript) (host : Host) :
      Records (scripts.forM (recordUnload outgoing)) (scripts.forM unloadScript) host
        ((instances outgoing scripts).map .unloading) := by
    induction scripts generalizing host with
    | nil => exact .pure _ _
    | cons script rest previous =>
        have first : instances outgoing (script :: rest) =
            instances outgoing [script] ++ instances outgoing rest := by
          rw [instances, instances, instances, ← List.filterMap_append, List.singleton_append]
        rw [first, List.map_append]
        exact .bind (each script host) (previous _)
  exact .get (.step (.followed (all host.arena { host with arena := [] }) (.lift _ _)))

end Host

end HomeRules
