import HomeRules.Proofs.Host.Loading

/-!
# Contexts of loaded scripts

A loaded script keeps nothing of its load but its id and its native part. Here the
contexts are kept beside it, so that it can be said what each script holds when the whole
directory is loaded, and that this is what the directory promises.
-/

set_option autoImplicit false

namespace HomeRules

namespace Host

/-! ## Contexts -/

/-- Ends the load of a file: a script that failed is withdrawn. -/
def finishFile (source : ScriptSource) :
    Except LoadError (Option NativeScript) × LoadContext →
      Step (Except LoadError (LoadedScript × LoadContext))
  | (.ok instance?, acquired) => pure (.ok ({ id := source.id, instance? }, acquired))
  | (.error error, acquired) => do
    retract acquired
    warn ("Failed to load script '" ++ source.id ++ "': " ++ error.message)
    return .error error

/-- Loads one script file into a generation, and keeps the context of a script that
loads. -/
def loadKeeping (generation : Generation) (path : String) :
    Step (Except LoadError (LoadedScript × LoadContext)) := do
  let host ← get
  match ScriptSource.read host.tree path with
  | .error error => do
    warn error.message
    return .error error
  | .ok source => do
    let context : LoadContext := {
      script := source.id, generation
      settings := settingsFor host.reloading.config source.id }
    finishFile source (← ((loadSource source).run).run context)

/-- The handles that a load has left with its script. -/
def kept : Except LoadError (LoadedScript × LoadContext) → List Handle
  | .ok (_, context) => context.handles
  | .error _ => []

/-- A load gave what a prospect promises, and its script holds a handle of the generation
for each kind of events. -/
def Fulfils (generation : Generation) :
    Except LoadError (LoadedScript × LoadContext) → Prospect → Prop :=
  Agrees generation fun loaded promised =>
    loaded.1 = promised.1 ∧ loaded.2.script = promised.1.id ∧
      loaded.2.handles.map (·.kind) = promised.2

theorem loadFile_eq (generation : Generation) (path : String) :
    loadFile generation path =
      (fun result => result.map Prod.fst) <$> loadKeeping generation path := by
  unfold loadFile loadKeeping
  rw [map_bind]
  refine congrArg (get >>= ·) (funext fun host => ?_)
  cases ScriptSource.read host.tree path with
  | error error => rfl
  | ok source =>
      dsimp only
      rw [map_bind]
      refine congrArg (_ >>= ·) (funext fun loaded => ?_)
      obtain ⟨result, acquired⟩ := loaded
      cases result <;> rfl

/-- How the load of a file ends. A script that failed leaves nothing that is held. -/
private theorem Seat.At.finishFile {seat : Seat}
    {loaded : Except LoadError (Option NativeScript) × LoadContext} {desk : Desk} {host : Host}
    (there : seat.At loaded.2 desk host) {source : ScriptSource}
    (named : source.id = seat.script)
    {planned : Except (Generation → LoadError) (Option NativeScript)}
    (agreed : Agrees seat.generation Eq loaded.1 planned) :
    Fulfils seat.generation (answer (finishFile source loaded) host)
        (planned.map fun instance? => ({ id := source.id, instance? }, desk.kinds)) ∧
      Loading seat.environment seat.generation
        (kept (answer (Host.finishFile source loaded) host) ++ seat.others)
        (after (Host.finishFile source loaded) host) ∧
      (after (Host.finishFile source loaded) host).wiring.standing = desk.standings := by
  obtain ⟨result, acquired⟩ := loaded
  dsimp only at there agreed
  obtain ⟨instance?, _, rfl, rfl, rfl⟩ | ⟨worded, rfl, rfl⟩ := agreed.cases
  · exact ⟨⟨rfl, there.script.trans named.symm, there.kinds⟩, there.loading, there.standing⟩
  · obtain ⟨loading, stands⟩ := there.loading.retract
    have quiet : (after (Host.finishFile source (.error (worded seat.generation), acquired))
        host).parts = (after (retract acquired) host).parts := by
      rw [Host.finishFile, after_bind]
      rfl
    obtain ⟨left, unchanged⟩ := loading.of_parts quiet
    exact ⟨rfl, left, unchanged.trans (stands.trans there.standing)⟩

section Loading

variable {environment : Environment} {generation : Generation} {held : List Handle} {host : Host}

/-- Loading a file does what its prospect promises. -/
theorem Loading.loadFile (loading : Loading environment generation held host) (path : String) :
    Fulfils generation (answer (loadKeeping generation path) host)
        ((environment.prospect path).run host.wiring.standing).1 ∧
      Loading environment generation (kept (answer (loadKeeping generation path) host) ++ held)
        (after (loadKeeping generation path) host) ∧
      (after (loadKeeping generation path) host).wiring.standing =
        ((environment.prospect path).run host.wiring.standing).2 := by
  have tree : host.tree = environment.tree := congrArg Environment.tree loading.located
  have reloading : host.reloading = environment.reloading :=
    congrArg Environment.reloading loading.located
  simp only [loadKeeping, after_get_bind, answer_get_bind]
  unfold Environment.prospect
  rw [tree, reloading]
  cases ScriptSource.read environment.tree path with
  | error error =>
      have quiet : (after (warn error.message) host).parts = host.parts := rfl
      exact ⟨rfl, loading.of_parts quiet⟩
  | ok source =>
      let settings := settingsFor environment.reloading.config source.id
      let seat : Seat := { environment, generation, script := source.id, others := held }
      let context : LoadContext := { script := source.id, generation, settings }
      let desk : Desk := { standings := host.wiring.standing, settings }
      have here : seat.At context desk host := ⟨rfl, rfl, rfl, rfl, rfl, loading⟩
      have named : source.id = seat.script := rfl
      obtain ⟨agreed, there⟩ := loadSource_follows source named context desk host here
      dsimp only
      rw [answer_bind, after_bind]
      exact there.finishFile named agreed

/-- Loading files one after the other does what their prospects promise. -/
theorem Loading.loadFiles (loading : Loading environment generation held host)
    (paths : List String) :
    List.Forall₂ (Fulfils generation) (answer (paths.mapM (loadKeeping generation)) host)
        ((paths.mapM environment.prospect).run host.wiring.standing).1 ∧
      Loading environment generation
        ((answer (paths.mapM (loadKeeping generation)) host).flatMap kept ++ held)
        (after (paths.mapM (loadKeeping generation)) host) ∧
      (after (paths.mapM (loadKeeping generation)) host).wiring.standing =
        ((paths.mapM environment.prospect).run host.wiring.standing).2 := by
  induction paths generalizing host held with
  | nil => exact ⟨.nil, loading, rfl⟩
  | cons path rest previous =>
      obtain ⟨fulfilled, loaded, stands⟩ := loading.loadFile path
      obtain ⟨others, done, last⟩ := previous loaded
      rw [stands] at others last
      rw [List.mapM_cons, List.mapM_cons]
      refine ⟨.cons fulfilled others, done.perm ?_, last⟩
      rw [← List.append_assoc]
      refine List.Perm.append_right _ ?_
      exact List.perm_append_comm

end Loading

/-- The results of loading the files of the script directory with their contexts. -/
theorem loadAll_eq (generation : Generation) (host : Host) :
    answer (loadAll generation) host = sortLoaded
        ((answer ((scriptPaths host).mapM (loadKeeping generation)) host).map
          (Except.map Prod.fst)) ∧
      after (loadAll generation) host =
        after ((scriptPaths host).mapM (loadKeeping generation)) host := by
  have mapped (paths : List String) (host : Host) :
      answer (paths.mapM (loadFile generation)) host =
          (answer (paths.mapM (loadKeeping generation)) host).map (Except.map Prod.fst) ∧
        after (paths.mapM (loadFile generation)) host =
          after (paths.mapM (loadKeeping generation)) host := by
    induction paths generalizing host with
    | nil => exact ⟨rfl, rfl⟩
    | cons path rest previous =>
        obtain ⟨given, reached⟩ := previous (after (loadKeeping generation path) host)
        rw [List.mapM_cons, List.mapM_cons, loadFile_eq]
        simp only [answer_bind, answer_pure, after_bind, after_pure, answer_map, after_map,
          List.map_cons, given, reached, and_self]
  obtain ⟨given, reached⟩ := mapped (scriptPaths host) host
  rw [loadAll, answer_get_bind, after_get_bind, answer_bind, after_bind, answer_pure, after_pure,
    given]
  exact ⟨rfl, reached⟩

def contexts (results : List (Except LoadError (LoadedScript × LoadContext))) : List LoadContext :=
  results.filterMap fun result => result.toOption.map Prod.snd

/-- What fulfils prospects is sorted as they are, and the contexts bind what they
promise. -/
theorem fulfilled_lists {generation : Generation}
    {results : List (Except LoadError (LoadedScript × LoadContext))} {prospects : List Prospect}
    (fulfilled : List.Forall₂ (Fulfils generation) results prospects) :
    sortLoaded (results.map (Except.map Prod.fst)) =
        (prospects.filterMap Prospect.script?, prospects.filterMap (Prospect.error? generation)) ∧
      (contexts results).map (fun context => (context.script, context.handles.map (·.kind))) =
        prospects.filterMap Prospect.binding? ∧
      results.flatMap kept = (contexts results).flatMap (·.handles) := by
  induction fulfilled with
  | nil => exact ⟨rfl, rfl, rfl⟩
  | @cons result prospect results prospects agreed _ previous =>
      obtain ⟨sorted, bound, held⟩ := previous
      obtain ⟨⟨script, context⟩, ⟨_, _⟩, rfl, rfl, same, named, kinds⟩ | ⟨worded, rfl, rfl⟩ :=
        agreed.cases
      · dsimp only at same named kinds
        subst same kinds
        refine ⟨?_, ?_, congrArg (context.handles ++ ·) held⟩
        · exact congrArg (fun sorted => (script :: sorted.1, sorted.2)) sorted
        · change (context.script, context.handles.map (·.kind)) :: _ =
            (script.id, context.handles.map (·.kind)) :: _
          rw [named, ← bound]
          rfl
      · exact ⟨congrArg (fun sorted => (sorted.1, worded generation :: sorted.2)) sorted,
          bound, held⟩

end Host

end HomeRules
