import HomeRules.Host.Loading
import HomeRules.Proofs.Host.Change
import HomeRules.Proofs.Host.Waiting

/-!
# What loading comes to

The outcome of loading a directory, told without the host: it is a function of the
files, the vocabulary, the native scripts and the settings alone. Of the managers
only how they stand matters, and of the handles only the kinds of their events. The
wording of an error may name the generation, nothing else depends on it.
-/

set_option autoImplicit false

namespace HomeRules

/-- How far the load of a script has come. -/
structure Desk where
  standings : Standings
  settings : Toml.Table := []
  kinds : List EventKind := []

/-- A part of a load, without the host. -/
abbrev Plan (ε : Type) := ExceptT (Generation → ε) (StateM Desk)

namespace Plan

/-- Registers a schema, and gives the number of events it was bound to. -/
def addSchema (draft : EventDraft) : StateM Desk (Except (Generation → HostError) Nat) := do
  match EventDraft.build draft with
  | .error cause => return .error fun _ => .schema cause
  | .ok schema => do
    let desk ← get
    let (standings, accepted) := desk.standings.subscribeAll schema.kinds
    if accepted then
      set { desk with standings, kinds := desk.kinds ++ schema.kinds }
      return .ok schema.kinds.length
    else
      set { desk with standings }
      return .error .staleGeneration

theorem run_addSchema {draft : EventDraft} {schema : EventSchema}
    (built : EventDraft.build draft = .ok schema) (desk : Desk) :
    (addSchema draft).run desk =
      if (desk.standings.subscribeAll schema.kinds).2 then
        (.ok schema.kinds.length, { desk with
          standings := (desk.standings.subscribeAll schema.kinds).1
          kinds := desk.kinds ++ schema.kinds })
      else
        (.error .staleGeneration,
          { desk with standings := (desk.standings.subscribeAll schema.kinds).1 }) := by
  unfold addSchema
  rw [built]
  cases accepted : (desk.standings.subscribeAll schema.kinds).2 with
  | true =>
      rw [if_pos rfl]
      change (StateT.run (if (desk.standings.subscribeAll schema.kinds).2 then _ else _) desk) = _
      rw [accepted]
      rfl
  | false =>
      change (StateT.run (if (desk.standings.subscribeAll schema.kinds).2 then _ else _) desk) = _
      rw [accepted]
      rfl

/-- A draft whose names were all known. -/
def known (draft : Except SchemaError EventDraft) : Plan Failure EventDraft :=
  match draft with
  | .ok draft => pure draft
  | .error error => throw fun _ => .error error.chain

/-- One step of a native script. Those that neither register nor stop anything come to
nothing. -/
def step : LoadStep → Plan Failure Unit
  | .register _ draft => do
    let draft ← known draft
    match ← (liftM (addSchema draft) : Plan Failure _) with
    | .error error => throw fun generation => .error (error generation).chain
    | .ok _ => pure ()
  | .tryRegister draft => do
    let draft ← known draft
    let _ ← (liftM (addSchema draft) : Plan Failure _)
    pure ()
  | .retract => modifyThe Desk fun desk => { desk with kinds := [] }
  | .stopManagers => modifyThe Desk fun desk => { desk with standings := desk.standings.stop }
  | .askManager kind =>
    modifyThe Desk fun desk => { desk with standings := desk.standings.need kind }
  | .fail failure => throw fun _ => failure
  | .say _ | .showSettings | .showContext | .spawn _ _ _ | .requestReload _ | .publish _ => pure ()

def native (script : String) (native : NativeScript) : Plan LoadError Unit := do
  let desk ← getThe Desk
  ExceptT.adapt (fun failure generation => Host.nativeError script (failure generation))
    ((native.onLoad desk.settings).forM step)

/-- Registers the rules of a script, if there are any. -/
def rules (script : String) (draft : EventDraft) : Plan LoadError Unit := do
  if draft.isEmpty then return ()
  else do
    match ← (liftM (addSchema draft) : Plan LoadError _) with
    | .error error =>
      throw fun generation =>
        match error generation with
        | .schema cause => .schema script cause
        | cause => .host script cause
    | .ok _ => return ()

/-- Loads a script source, and gives its native script if it has one. -/
def source (environment : Host.Environment) (source : ScriptSource) :
    Plan LoadError (Option NativeScript) := do
  match source.rules environment.vocabulary with
  | .error error => throw fun _ => error
  | .ok resolved => do
    modifyThe Desk fun desk => { desk with settings := desk.settings.extend resolved.settings }
    rules source.id resolved.draft
    match resolved.script with
    | none => return none
    | some name =>
      match environment.shelf.get? name with
      | none => throw fun _ => .unknownScript source.id name
      | some script => do
        native source.id script
        return some script

end Plan

/-! ## Blame -/

/-- Whether an error is about the file at a path and leaves later cycles alone. -/
def LoadError.Concerns (path : String) (error : LoadError) : Prop :=
  error.fatal? = none ∧
    match error with
    | .unreadable file _ | .unparsable file _ => file = path
    | .schema script _ | .unknownScript script _ | .failed script _ | .panicked script _
    | .host script _ => script = scriptId path

namespace Plan

/-- Every error of a plan is about the file at a path. -/
def Blames (path : String) {α : Type} (plan : Plan LoadError α) : Prop :=
  ∀ desk worded, (plan.run.run desk).1 = .error worded →
    ∀ generation, (worded generation).Concerns path

section Blames

variable {path : String} {α β : Type}

private theorem Blames.pure (value : α) : Blames path (Pure.pure value) :=
  fun _ _ failed => by cases failed

private theorem Blames.throw {worded : Generation → LoadError}
    (about : ∀ generation, (worded generation).Concerns path) :
    Blames path (throw worded : Plan LoadError α) := by
  intro _ _ failed
  cases failed
  exact about

private theorem Blames.lift (part : StateM Desk α) :
    Blames path (liftM part : Plan LoadError α) :=
  fun _ _ failed => by cases failed

private theorem Blames.bind {plan : Plan LoadError α} {rest : α → Plan LoadError β}
    (first : Blames path plan) (next : ∀ value, Blames path (rest value)) :
    Blames path (plan >>= rest) := by
  intro desk worded failed
  change ((ExceptT.bindCont rest (plan.run.run desk).1).run (plan.run.run desk).2).1 =
    .error worded at failed
  cases found : (plan.run.run desk).1 with
  | error worded' =>
      rw [found] at failed
      cases failed
      exact first desk worded found
  | ok value =>
      rw [found] at failed
      exact next value _ _ failed

/-- A schema that is not registered cannot be built, or a stopped manager refuses it. -/
private theorem addSchema_error {draft : EventDraft} {desk : Desk}
    {worded : Generation → HostError} (failed : ((addSchema draft).run desk).1 = .error worded) :
    (∃ cause, worded = fun _ => .schema cause) ∨ worded = .staleGeneration := by
  cases built : EventDraft.build draft with
  | error cause =>
      unfold addSchema at failed
      rw [built] at failed
      cases failed
      exact .inl ⟨cause, rfl⟩
  | ok schema =>
      rw [run_addSchema built] at failed
      split at failed
      · cases failed
      · cases failed
        exact .inr rfl

private theorem rules_blames (draft : EventDraft) :
    Blames path (rules (scriptId path) draft) := by
  unfold rules
  split
  · exact .pure _
  intro desk worded failed
  let report : Except (Generation → HostError) Nat → Plan LoadError Unit
    | .error error =>
      throw fun generation =>
        match error generation with
        | .schema cause => .schema (scriptId path) cause
        | cause => .host (scriptId path) cause
    | .ok _ => return ()
  change ((report ((addSchema draft).run desk).1).run.run ((addSchema draft).run desk).2).1 =
    .error worded at failed
  cases result : ((addSchema draft).run desk).1 with
  | ok count =>
      rw [result] at failed
      cases failed
  | error error =>
      rw [result] at failed
      cases failed
      intro generation
      rcases addSchema_error result with ⟨cause, rfl⟩ | rfl
      · exact ⟨rfl, rfl⟩
      · exact ⟨rfl, rfl⟩

private theorem native_blames (script : NativeScript) :
    Blames path (native (scriptId path) script) := by
  intro desk worded failed generation
  change (((script.onLoad desk.settings).forM step).run.run desk).1.mapError
    (fun failure generation => Host.nativeError (scriptId path) (failure generation)) =
      .error worded at failed
  cases result : (((script.onLoad desk.settings).forM step).run.run desk).1 with
  | ok value =>
      rw [result] at failed
      cases failed
  | error failure =>
      rw [result] at failed
      cases failed
      dsimp only
      cases failure generation <;> exact ⟨rfl, rfl⟩

/-- The errors of a plan for a file are about this file. -/
theorem source_blames (environment : Host.Environment) {source : ScriptSource}
    (named : source.id = scriptId path) (placed : source.path = path) :
    Blames path (Plan.source environment source) := by
  unfold Plan.source
  split
  case h_1 error failed =>
    refine .throw fun _ => ?_
    unfold ScriptSource.rules at failed
    split at failed
    · cases failed
      exact ⟨rfl, placed⟩
    · rename_i file _
      cases resolved : file.resolve environment.vocabulary with
      | ok rules =>
          rw [resolved] at failed
          cases failed
      | error cause =>
          rw [resolved] at failed
          cases failed
          exact ⟨rfl, named⟩
  case h_2 resolved _ =>
    rw [named]
    refine .bind (.lift _) fun _ => .bind (rules_blames _) fun _ => ?_
    split
    · exact .pure _
    split
    · exact .throw fun _ => ⟨rfl, rfl⟩
    · exact .bind (native_blames _) fun _ => .pure _

end Blames

end Plan

/-! ## Prospects -/

/-- What loading a file comes to: a script with the kinds of events it is subscribed to,
or an error. -/
abbrev Prospect := Except (Generation → LoadError) (LoadedScript × List EventKind)

namespace Host.Environment

/-- The paths of the scripts in the script directory, in order. -/
def paths (environment : Environment) : List String :=
  (discover environment.tree environment.reloading.directory environment.reloading.config).map
    (Path.inside environment.reloading.directory)

/-- What loading one script file comes to. -/
def prospect (environment : Environment) (path : String) : StateM Standings Prospect :=
  match ScriptSource.read environment.tree path with
  | .error error => pure (.error fun _ => error)
  | .ok source => modifyGet fun standings =>
    let (result, desk) := (Plan.source environment source).run.run {
      standings, settings := settingsFor environment.reloading.config source.id }
    (result.map fun instance? => ({ id := source.id, instance? }, desk.kinds), desk.standings)

/-- What loading all scripts comes to, file by file, and how the managers stand then. -/
def prospects (environment : Environment) : List Prospect × Standings :=
  (environment.paths.mapM environment.prospect).run fun _ => none

end Host.Environment

namespace Prospect

def script? : Prospect → Option LoadedScript
  | .ok (script, _) => some script
  | .error _ => none

/-- The error that a prospect announces under a generation. -/
def error? (generation : Generation) : Prospect → Option LoadError
  | .ok _ => none
  | .error worded => some (worded generation)

/-- What a prospect promises to subscribe, with the id of its script. -/
def binding? : Prospect → Option (String × List EventKind)
  | .ok (script, kinds) => some (script.id, kinds)
  | .error _ => none

/-- Whether a prospect is about the file at a path. -/
def Concerns (path : String) : Prospect → Prop
  | .ok (script, _) => script.id = scriptId path
  | .error worded => ∀ generation, (worded generation).Concerns path

end Prospect

namespace Host.Environment

/-- What loading a file comes to is about this file. -/
theorem prospect_concerns (environment : Environment) (path : String) (standings : Standings) :
    ((environment.prospect path).run standings).1.Concerns path := by
  unfold prospect
  cases found : ScriptSource.read environment.tree path with
  | error error =>
      unfold ScriptSource.read at found
      split at found
      · cases found
      · cases found
        exact fun _ => ⟨rfl, rfl⟩
  | ok source =>
      have about : source.id = scriptId path ∧ source.path = path := by
        unfold ScriptSource.read at found
        split at found
        · cases found
          exact ⟨rfl, rfl⟩
        · cases found
      let desk : Desk := {
        standings, settings := settingsFor environment.reloading.config source.id }
      change Prospect.Concerns path (((Plan.source environment source).run.run desk).1.map
        fun instance? => ({ id := source.id, instance? },
          ((Plan.source environment source).run.run desk).2.kinds))
      cases result : ((Plan.source environment source).run.run desk).1 with
      | ok instance? => exact about.1
      | error worded => exact Plan.source_blames environment about.1 about.2 desk worded result

/-- What loading the files of a directory comes to, file by file. -/
theorem prospects_concern (environment : Environment) :
    List.Forall₂ Prospect.Concerns environment.paths environment.prospects.1 := by
  have all (paths : List String) (standings : Standings) :
      List.Forall₂ Prospect.Concerns paths
        ((paths.mapM environment.prospect).run standings).1 := by
    induction paths generalizing standings with
    | nil => exact .nil
    | cons path rest previous =>
        rw [List.mapM_cons]
        exact .cons (environment.prospect_concerns path standings) (previous _)
  exact all environment.paths _

/-- No error of a directory breaks later cycles. -/
theorem prospects_lasting (environment : Environment) (generation : Generation) :
    (environment.prospects.1.filterMap (Prospect.error? generation)).findSome?
      LoadError.fatal? = none := by
  have each {paths : List String} {prospects : List Prospect}
      (about : List.Forall₂ Prospect.Concerns paths prospects) :
      (prospects.filterMap (Prospect.error? generation)).findSome? LoadError.fatal? = none := by
    induction about with
    | nil => rfl
    | @cons path prospect paths prospects concerns _ previous =>
        cases prospect with
        | ok loaded => exact previous
        | error worded =>
            change ((worded generation :: _).findSome? LoadError.fatal?) = none
            rw [List.findSome?_cons, (concerns generation).1]
            exact previous
  exact each environment.prospects_concern

end Host.Environment

/-! ## Managers that nobody stops -/

/-- A native script never stops the managers while it loads. -/
def NativeScript.Sparing (native : NativeScript) : Prop :=
  ∀ settings, LoadStep.stopManagers ∉ native.onLoad settings

namespace Plan

/-- A part of a plan stops no manager. -/
def Spares {α : Type} (part : StateM Desk α) : Prop :=
  ∀ desk, desk.standings.Unstopped → (part.run desk).2.standings.Unstopped

section Spares

variable {ε ε' α β : Type}

private theorem Spares.pure (value : α) : Spares (Pure.pure value) :=
  fun _ unstopped => unstopped

private theorem Spares.bind {plan : Plan ε α} {rest : α → Plan ε β} (first : Spares plan.run)
    (next : ∀ value, Spares (rest value).run) : Spares (plan >>= rest).run := by
  intro desk unstopped
  have kept := first desk unstopped
  change ((ExceptT.bindCont rest (plan.run.run desk).1).run
    (plan.run.run desk).2).2.standings.Unstopped
  cases (plan.run.run desk).1 with
  | error worded => exact kept
  | ok value => exact next value _ kept

private theorem Spares.forM {plan : α → Plan ε PUnit} {values : List α}
    (each : ∀ value ∈ values, Spares (plan value).run) : Spares (values.forM plan).run := by
  induction values with
  | nil => exact .pure _
  | cons value rest previous =>
      exact .bind (each value List.mem_cons_self) fun _ =>
        previous fun other member => each other (List.mem_cons_of_mem _ member)

private theorem addSchema_spares (draft : EventDraft) : Spares (addSchema draft) := by
  intro desk unstopped
  cases built : EventDraft.build draft with
  | error cause =>
      unfold addSchema
      rw [built]
      exact unstopped
  | ok schema =>
      rw [run_addSchema built]
      split <;> exact unstopped.subscribeAll schema.kinds

private theorem known_spares (draft : Except SchemaError EventDraft) :
    Spares (known draft).run := by
  cases draft <;> exact .pure _

private theorem step_spares {step : LoadStep} (other : LoadStep.stopManagers ≠ step) :
    Spares (Plan.step step).run := by
  cases step with
  | register announced draft =>
      refine .bind (known_spares draft) fun draft => .bind (addSchema_spares draft) fun result => ?_
      cases result <;> exact .pure _
  | tryRegister draft =>
      exact .bind (known_spares draft) fun draft => .bind (addSchema_spares draft) fun _ => .pure _
  | askManager kind => exact fun _ unstopped => unstopped.need kind
  | stopManagers => exact absurd rfl other
  | _ => exact fun _ unstopped => unstopped

private theorem native_spares {script : NativeScript} (sparing : script.Sparing) (id : String) :
    Spares (native id script).run := by
  intro desk unstopped
  have steps : Spares ((script.onLoad desk.settings).forM step).run :=
    .forM fun step member => step_spares fun same => sparing _ (same ▸ member)
  exact steps desk unstopped

private theorem rules_spares (id : String) (draft : EventDraft) : Spares (rules id draft).run := by
  unfold rules
  split
  · exact .pure _
  · refine .bind (addSchema_spares draft) fun result => ?_
    cases result <;> exact .pure _

theorem source_spares {environment : Host.Environment}
    (sparing : ∀ name native, environment.shelf.get? name = some native → native.Sparing)
    (source : ScriptSource) : Spares (Plan.source environment source).run := by
  unfold Plan.source
  split
  · exact .pure _
  · refine .bind (fun _ unstopped => unstopped) fun _ => .bind (rules_spares _ _) fun _ => ?_
    split
    · exact .pure _
    · split
      · exact .pure _
      · rename_i found
        exact .bind (native_spares (sparing _ _ found) _) fun _ => .pure _

end Spares

end Plan

namespace Host.Environment

/-- Where no native script stops the managers, they all wait to the end. -/
theorem prospects_unstopped {environment : Environment}
    (sparing : ∀ name native, environment.shelf.get? name = some native → native.Sparing) :
    environment.prospects.2.Unstopped := by
  have one (path : String) (standings : Standings) (unstopped : standings.Unstopped) :
      ((environment.prospect path).run standings).2.Unstopped := by
    unfold prospect
    cases ScriptSource.read environment.tree path with
    | error error => exact unstopped
    | ok source => exact Plan.source_spares sparing source _ unstopped
  have all (paths : List String) (standings : Standings) (unstopped : standings.Unstopped) :
      ((paths.mapM environment.prospect).run standings).2.Unstopped := by
    induction paths generalizing standings with
    | nil => exact unstopped
    | cons path rest previous =>
        rw [List.mapM_cons]
        exact previous _ (one path standings unstopped)
  exact all environment.paths _ fun _ => by simp

end Host.Environment

end HomeRules
