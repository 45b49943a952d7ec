import HomeRules.Proofs.Host.Acquiring
import HomeRules.Proofs.Host.Plan

/-!
# Loading follows its plan

What loading does on a host that loads is what its plan says, from the single step of a
native script to the whole directory. The rules below carry that through the ways in
which loads and plans are put together.
-/

set_option autoImplicit false

namespace HomeRules.Host

/-! ## Following a plan -/

/-- What does not change while one script loads. `others` are the handles that the
scripts loaded before it hold. -/
structure Seat where
  environment : Environment
  generation : Generation
  script : String
  others : List Handle

/-- A script has come as far as a desk says. -/
structure Seat.At (seat : Seat) (context : LoadContext) (desk : Desk) (host : Host) : Prop where
  script : context.script = seat.script
  generation : context.generation = seat.generation
  settings : context.settings = desk.settings
  kinds : context.handles.map (·.kind) = desk.kinds
  standing : host.wiring.standing = desk.standings
  loading : Loading seat.environment seat.generation (context.handles ++ seat.others) host

/-- A result and a planned one are both errors, of the same wording under a generation,
or are both none, with values that a relation holds of. -/
def Agrees (generation : Generation) {ε α β : Type} (agree : α → β → Prop) :
    Except ε α → Except (Generation → ε) β → Prop
  | .ok value, .ok planned => agree value planned
  | .error error, .error worded => error = worded generation
  | _, _ => False

/-- Results that agree are both values or both errors. -/
theorem Agrees.cases {generation : Generation} {ε α β : Type} {agree : α → β → Prop}
    {result : Except ε α} {planned : Except (Generation → ε) β}
    (agreed : Agrees generation agree result planned) :
    (∃ value promised, result = .ok value ∧ planned = .ok promised ∧ agree value promised) ∨
      ∃ worded, result = .error (worded generation) ∧ planned = .error worded := by
  cases result with
  | ok value =>
      cases planned with
      | ok promised => exact .inl ⟨value, promised, rfl, rfl, agreed⟩
      | error worded => exact False.elim agreed
  | error error =>
      cases planned with
      | ok promised => exact False.elim agreed
      | error worded => exact .inr ⟨worded, congrArg Except.error agreed, rfl⟩

/-- What a part of a load does is what a part of a plan says. -/
def Matches (seat : Seat) {α β : Type} (agree : α → β → Prop) (part : StateT LoadContext Step α)
    (plan : StateM Desk β) : Prop :=
  ∀ context desk host, seat.At context desk host →
    agree (answer (part.run context) host).1 (plan.run desk).1 ∧
      seat.At (answer (part.run context) host).2 (plan.run desk).2 (after (part.run context) host)

/-- A load does what a plan says, also when it fails. -/
def Follows (seat : Seat) {ε α β : Type} (agree : α → β → Prop) (load : Load ε α)
    (plan : Plan ε β) : Prop :=
  Matches seat (Agrees seat.generation agree) load.run plan.run

/-- A part of a load that no plan mentions: it comes to nothing. -/
def Idle (seat : Seat) {α : Type} (part : StateT LoadContext Step α) : Prop :=
  ∀ context desk host, seat.At context desk host →
    seat.At (answer (part.run context) host).2 desk (after (part.run context) host)

section Rules

variable {seat : Seat} {ε ε' α β γ δ : Type}

theorem Matches.pure {agree : α → β → Prop} {value : α} {planned : β}
    (agreed : agree value planned) :
    Matches seat agree (Pure.pure value) (Pure.pure planned) :=
  fun _ _ _ here => ⟨agreed, here⟩

theorem Matches.bind {agree : α → β → Prop} {agree' : γ → δ → Prop}
    {part : StateT LoadContext Step α} {plan : StateM Desk β}
    {rest : α → StateT LoadContext Step γ} {then' : β → StateM Desk δ}
    (first : Matches seat agree part plan)
    (next : ∀ value planned, agree value planned →
      Matches seat agree' (rest value) (then' planned)) :
    Matches seat agree' (part >>= rest) (plan >>= then') := by
  intro context desk host here
  obtain ⟨agreed, there⟩ := first context desk host here
  exact next _ _ agreed _ _ _ there

namespace Follows

theorem pure {agree : α → β → Prop} {value : α} {planned : β} (agreed : agree value planned) :
    Follows seat agree (Pure.pure value : Load ε α) (Pure.pure planned) :=
  Matches.pure agreed

theorem throw {agree : α → β → Prop} {error : ε} {worded : Generation → ε}
    (same : error = worded seat.generation) :
    Follows seat agree (throw error : Load ε α) (throw worded) :=
  Matches.pure same

theorem lift {agree : α → β → Prop} {part : StateT LoadContext Step α} {plan : StateM Desk β}
    (matched : Matches seat agree part plan) :
    Follows seat agree (liftM part : Load ε α) (liftM plan) :=
  matched

theorem bind {agree : α → β → Prop} {agree' : γ → δ → Prop} {load : Load ε α} {plan : Plan ε β}
    {rest : α → Load ε γ} {then' : β → Plan ε δ} (first : Follows seat agree load plan)
    (next : ∀ value planned, agree value planned →
      Follows seat agree' (rest value) (then' planned)) :
    Follows seat agree' (load >>= rest) (plan >>= then') := by
  have bound : Matches seat (Agrees seat.generation agree')
      (load.run >>= ExceptT.bindCont rest) (plan.run >>= ExceptT.bindCont then') := by
    refine Matches.bind first fun result planned agreed => ?_
    obtain ⟨value, promised, rfl, rfl, agreed⟩ | ⟨worded, rfl, rfl⟩ := agreed.cases
    · exact next value promised agreed
    · exact Matches.pure rfl
  exact bound

/-- What the plan knows nothing of may stand before a load. -/
theorem beside {agree : β → γ → Prop} {holds : α → Prop} {part : StateT LoadContext Step α}
    {rest : α → Load ε β} {plan : Plan ε γ}
    (matched : Matches seat (fun value (_ : Unit) => holds value) part (Pure.pure ()))
    (next : ∀ value, holds value → Follows seat agree (rest value) plan) :
    Follows seat agree ((liftM part : Load ε α) >>= rest) plan := by
  intro context desk host here
  obtain ⟨given, there⟩ := matched context desk host here
  exact next _ given _ _ _ there

/-- What comes to nothing may stand before a load. -/
theorem skip {agree : β → γ → Prop} {part : StateT LoadContext Step α} {rest : α → Load ε β}
    {plan : Plan ε γ} (idle : Idle seat part)
    (next : ∀ value, Follows seat agree (rest value) plan) :
    Follows seat agree ((liftM part : Load ε α) >>= rest) plan :=
  .beside (fun context desk host here => ⟨trivial, idle context desk host here⟩)
    fun value (_ : True) => next value

/-- A load may ask for its script and its generation. -/
theorem context {agree : α → β → Prop} {rest : LoadContext → Load ε α} {plan : Plan ε β}
    (next : ∀ context : LoadContext, context.script = seat.script →
      context.generation = seat.generation → Follows seat agree (rest context) plan) :
    Follows seat agree (getThe LoadContext >>= rest) plan :=
  fun context desk host here =>
    next context here.script here.generation context desk host here

/-- A load may ask for what it loads from. -/
theorem environment {agree : α → β → Prop} {rest : Host → Load ε α} {plan : Plan ε β}
    (next : ∀ host : Host, host.environment = seat.environment →
      Follows seat agree (rest host) plan) :
    Follows seat agree (getThe Host >>= rest) plan :=
  fun context desk host here => next host here.loading.located context desk host here

/-- What comes to nothing is the plan to do nothing. -/
theorem idle {part : StateT LoadContext Step Unit} (idle : Idle seat part) :
    Follows seat Eq (liftM part : Load ε Unit) (Pure.pure ()) :=
  fun context desk host here => ⟨rfl, idle context desk host here⟩

/-- What comes to nothing may stand after a load. -/
theorem before {agree : α → Unit → Prop} {load : Load ε α} {plan : Plan ε Unit}
    {rest : α → Load ε Unit} (first : Follows seat agree load plan)
    (next : ∀ value, Follows seat Eq (rest value) (Pure.pure ())) :
    Follows seat Eq (load >>= rest) plan := by
  have bound := first.bind fun value planned _ => next value
  rwa [show (plan >>= fun _ => (Pure.pure () : Plan ε Unit)) = plan from bind_pure plan] at bound

theorem adapt {agree : α → β → Prop} {load : Load ε α} {plan : Plan ε β} {wrap : ε → ε'}
    {wrap' : (Generation → ε) → Generation → ε'} (followed : Follows seat agree load plan)
    (same : ∀ worded, wrap (worded seat.generation) = wrap' worded seat.generation) :
    Follows seat agree (ExceptT.adapt wrap load) (ExceptT.adapt wrap' plan) := by
  intro context desk host here
  obtain ⟨agreed, there⟩ := followed context desk host here
  refine ⟨?_, there⟩
  change Agrees seat.generation agree
    ((answer (load.run.run context) host).1.mapError wrap) ((plan.run.run desk).1.mapError wrap')
  obtain ⟨value, promised, given, told, agreed⟩ | ⟨worded, given, told⟩ := agreed.cases
  · rw [given, told]
    exact agreed
  · rw [given, told]
    exact same worded

theorem forM {load : α → Load ε PUnit} {plan : α → Plan ε PUnit}
    (followed : ∀ value, Follows seat Eq (load value) (plan value)) (values : List α) :
    Follows seat Eq (values.forM load) (values.forM plan) := by
  induction values with
  | nil => exact pure rfl
  | cons value rest previous => exact bind (followed value) fun _ _ _ => previous

end Follows

end Rules

/-! ## Acquiring -/

section Parts

variable {seat : Seat}

/-- What leaves the managers and the tasks alone does not matter. -/
theorem Seat.At.still {context : LoadContext} {desk : Desk} {host next : Host}
    (here : seat.At context desk host) (same : next.parts = host.parts) :
    seat.At context desk next := by
  obtain ⟨loading, stands⟩ := here.loading.of_parts same
  exact { here with standing := stands.trans here.standing, loading }

/-- Steps that nobody can observe in the managers and the tasks come to nothing. -/
private theorem Idle.ofStill {α : Type} {step : Step α}
    (still : ∀ host, (after step host).parts = host.parts) :
    Idle seat (liftM step : StateT LoadContext Step α) :=
  fun _ _ host here => here.still (still host)

private theorem note_idle (text : Note) : Idle seat (liftM (note text)) :=
  .ofStill fun _ => rfl

private theorem context_idle : Idle seat (getThe LoadContext : StateT LoadContext Step _) :=
  fun _ _ _ here => here

private theorem requestOnce_idle (name : String) (times : Nat) :
    Idle seat (liftM (requestOnce name times)) := by
  refine .ofStill fun host => ?_
  unfold requestOnce
  rw [after_get_bind]
  dsimp only
  split
  · exact changeLoops_parts ReloadLoops.request _
  · rfl

private theorem addTask_idle (name : String) (job : Job) : Idle seat (addTask name job) := by
  intro context desk host here
  have calm := spawn_calm (context.script ++ "/" ++ name) none job .none context.generation host
    here.loading.toCalm
  have wired := spawn_wiring (context.script ++ "/" ++ name) context.generation none
    (.job job .none) host
  refine ⟨here.script, here.generation, here.settings, here.kinds,
    (congrArg Wiring.standing wired).trans here.standing, calm, ?_⟩
  change Wiring.Waiting _ _ (after (spawn _ _ _ _) host).wiring
  rw [wired]
  exact here.loading.waiting

/-- Gives a script the handles that it has registered. -/
def acquire (context : LoadContext) :
    Except HostError (List Handle) → StateT LoadContext Step (Except HostError Nat)
  | .error error => return .error error
  | .ok handles => do
    set { context with handles := context.handles ++ handles }
    return .ok handles.length

theorem run_addSchema {draft : EventDraft} {schema : EventSchema}
    (built : EventDraft.build draft = .ok schema) (context : LoadContext) (host : Host) :
    ((addSchema draft).run context).run host =
      ((acquire context (answer (register context.script context.generation schema) host)).run
        context).run (after (register context.script context.generation schema) host) := by
  unfold addSchema
  rw [built]
  rfl

/-- A schema is bound, or refused, as planned. -/
theorem addSchema_matches (draft : EventDraft) :
    Matches seat (Agrees seat.generation Eq) (addSchema draft) (Plan.addSchema draft) := by
  intro context desk host here
  cases built : EventDraft.build draft with
  | error cause =>
      unfold addSchema Plan.addSchema
      rw [built]
      exact ⟨rfl, here⟩
  | ok schema =>
      obtain ⟨stands, result⟩ := here.loading.register context.script schema
      rw [here.standing] at stands result
      change Agrees seat.generation Eq (((addSchema draft).run context).run host).1.1 _ ∧
        seat.At (((addSchema draft).run context).run host).1.2 _
          (((addSchema draft).run context).run host).2
      rw [run_addSchema built, Plan.run_addSchema built, here.generation]
      split at result
      case isTrue all =>
        obtain ⟨handles, given, kinds, loading⟩ := result
        have ordered : Loading seat.environment seat.generation
            (context.handles ++ handles ++ seat.others)
            (after (register context.script seat.generation schema) host) := by
          refine loading.perm ?_
          rw [← List.append_assoc]
          exact List.perm_append_comm.append_right _
        rw [given, if_pos all]
        refine ⟨?_, here.script, here.generation, here.settings, ?_, stands, ordered⟩
        · exact (congrArg List.length kinds).symm.trans (List.length_map _) |>.symm
        · change (context.handles ++ handles).map (·.kind) = desk.kinds ++ schema.kinds
          rw [List.map_append, here.kinds, kinds]
      case isFalse some =>
        obtain ⟨given, loading⟩ := result
        rw [given, if_neg some]
        exact ⟨rfl, here.script, here.generation, here.settings, here.kinds, stands, loading⟩

theorem known_follows (draft : Except SchemaError EventDraft) :
    Follows seat Eq (known draft) (Plan.known draft) := by
  cases draft with
  | ok draft => exact .pure rfl
  | error error => exact .throw rfl

private theorem withdraw_matches :
    Matches seat Eq withdraw (modifyThe Desk fun desk => { desk with kinds := [] }) := by
  intro context desk host here
  obtain ⟨loading, stands⟩ := here.loading.retract
  exact ⟨rfl, here.script, here.generation, here.settings, rfl, stands.trans here.standing, loading⟩

private theorem stopRegistry_matches :
    Matches seat (fun _ _ => True) (liftM stopRegistry : StateT LoadContext Step _)
      (modifyThe Desk fun desk => { desk with standings := desk.standings.stop }) := by
  intro context desk host here
  obtain ⟨loading, stands⟩ := here.loading.stopRegistry
  refine ⟨trivial, here.script, here.generation, here.settings, here.kinds, ?_, loading⟩
  exact stands.trans (congrArg Standings.stop here.standing)

private theorem manager_matches (kind : ManagerKind) :
    Matches seat (fun _ _ => True)
      (liftM (manager kind seat.generation) : StateT LoadContext Step _)
      (modifyThe Desk fun desk => { desk with standings := desk.standings.need kind }) := by
  intro context desk host here
  obtain ⟨-, loading, stands⟩ := here.loading.need kind
  have last : after (manager kind seat.generation) host =
      after (needManager kind seat.generation) host := by
    simp only [manager, after_bind]
    split
    · rfl
    · simp only [after_bind, after_get]
      split <;> rfl
  refine ⟨trivial, ?_⟩
  change seat.At context _ (after (manager kind seat.generation) host)
  rw [last]
  exact ⟨here.script, here.generation, here.settings, here.kinds,
    stands.trans (congrArg (Standings.need · kind) here.standing), loading⟩

/-- While a script loads nothing is delivered, and nothing fails. -/
private theorem publish_matches (event : Event) :
    Matches seat (fun result (_ : Unit) => ∃ count, result = .ok count)
      (liftM (publish event).run : StateT LoadContext Step _) (pure ()) := by
  intro context desk host here
  obtain ⟨count, quiet⟩ := here.loading.publish event
  have told : answer (publish event).run host = .ok count := congrArg Prod.fst quiet
  have kept : after (publish event).run host = host := congrArg Prod.snd quiet
  refine ⟨⟨count, told⟩, ?_⟩
  change seat.At context desk (after (publish event).run host)
  rw [kept]
  exact here

/-! ## Native scripts -/

theorem loadStep_follows (name : String) (step : LoadStep) :
    Follows seat Eq (loadStep name step) (Plan.step step) := by
  cases step with
  | say text => exact .idle (note_idle _)
  | showSettings => exact .skip context_idle fun _ => .idle (note_idle _)
  | showContext => exact .skip context_idle fun _ => .idle (note_idle _)
  | register announced draft =>
      refine .bind (known_follows draft) fun draft _ same => ?_
      subst same
      refine .bind (.lift (addSchema_matches draft)) fun result planned agreed => ?_
      obtain ⟨count, _, rfl, rfl, -⟩ | ⟨worded, rfl, rfl⟩ := agreed.cases
      · dsimp only
        split
        · exact .idle (note_idle _)
        · exact .pure rfl
      · exact .throw rfl
  | tryRegister draft =>
      refine .bind (known_follows draft) fun draft _ same => ?_
      subst same
      exact .bind (.lift (addSchema_matches draft)) fun _ _ _ => .idle (note_idle _)
  | spawn announced task job =>
      refine .skip (addTask_idle task job) fun spawned => ?_
      split
      · exact .idle (note_idle _)
      · exact .pure rfl
  | retract =>
      exact .before (.lift withdraw_matches) fun _ =>
        .skip context_idle fun _ => .idle (note_idle _)
  | requestReload times => exact .idle (requestOnce_idle name times)
  | stopManagers => exact .before (.lift stopRegistry_matches) fun _ => .idle (note_idle _)
  | askManager kind =>
      refine .context fun context _ aged => ?_
      rw [aged]
      exact .before (.lift (manager_matches kind)) fun _ => .idle (note_idle _)
  | publish event =>
      refine .beside (publish_matches event) fun result given => ?_
      obtain ⟨count, rfl⟩ := given
      exact .idle (note_idle _)
  | fail failure => exact .throw rfl

theorem loadNative_follows (native : NativeScript) :
    Follows seat Eq (loadNative native) (Plan.native seat.script native) := by
  intro context desk host here
  have steps : Follows seat Eq
      (ExceptT.adapt (nativeError seat.script)
        ((native.onLoad desk.settings).forM (loadStep native.name)))
      (ExceptT.adapt (fun failure generation => nativeError seat.script (failure generation))
        ((native.onLoad desk.settings).forM Plan.step)) :=
    .adapt (.forM (loadStep_follows native.name) _) fun _ => rfl
  have opened : (loadNative native).run.run context =
      (ExceptT.adapt (nativeError context.script)
        ((native.onLoad context.settings).forM (loadStep native.name))).run.run context := rfl
  rw [opened, here.script, here.settings]
  exact steps context desk host here

/-! ## Script sources -/

theorem loadRules_follows (draft : EventDraft) :
    Follows seat Eq (loadRules draft) (Plan.rules seat.script draft) := by
  unfold loadRules Plan.rules
  split
  · exact .pure rfl
  refine .context fun context named _ => ?_
  rw [named]
  refine .bind (.lift (addSchema_matches draft)) fun result planned agreed => ?_
  obtain ⟨count, _, rfl, rfl, -⟩ | ⟨worded, rfl, rfl⟩ := agreed.cases
  · exact .pure rfl
  · cases given : worded seat.generation with
    | schema cause => exact .throw (by simp only [given])
    | _ => exact .throw (by simp only [given])

private theorem extend_matches (settings : Toml.Table) :
    Matches seat Eq
      (modifyThe LoadContext fun context =>
        { context with settings := context.settings.extend settings })
      (modifyThe Desk fun desk => { desk with settings := desk.settings.extend settings }) := by
  intro context desk host here
  exact ⟨rfl, here.script, here.generation, congrArg (·.extend settings) here.settings, here.kinds,
    here.standing, here.loading⟩

theorem loadSource_follows (source : ScriptSource) (named : source.id = seat.script) :
    Follows seat Eq (loadSource source) (Plan.source seat.environment source) := by
  unfold loadSource Plan.source
  refine .environment fun host located => ?_
  have vocabulary : host.vocabulary = seat.environment.vocabulary :=
    congrArg Environment.vocabulary located
  have shelf : host.shelf = seat.environment.shelf := congrArg Environment.shelf located
  rw [vocabulary, shelf]
  cases source.rules seat.environment.vocabulary with
  | error error => exact .throw rfl
  | ok rules =>
      change Follows seat Eq ((pure rules : Load LoadError ResolvedRules) >>= _) _
      rw [pure_bind]
      refine .bind (.lift (extend_matches rules.settings)) fun _ _ _ => ?_
      rw [named]
      refine .bind (loadRules_follows rules.draft) fun _ _ _ => ?_
      cases rules.script with
      | none => exact .pure rfl
      | some name =>
          dsimp only
          cases seat.environment.shelf.get? name with
          | none => exact .throw rfl
          | some native => exact .bind (loadNative_follows native) fun _ _ _ => .pure rfl

/-- Loads a script whose rules were read. -/
def loadResolved (shelf : ScriptShelf) (source : ScriptSource) (rules : ResolvedRules) :
    Load LoadError (Option NativeScript) := do
  loadRules rules.draft
  match rules.script with
  | none => return none
  | some name =>
    match shelf.get? name with
    | none => throw (.unknownScript source.id name)
    | some native => do
      loadNative native
      return some native

theorem loadSource_run (source : ScriptSource) (context : LoadContext) (host : Host) :
    ((loadSource source).run.run context).run host =
      ((do
        let rules ← liftExcept (source.rules host.vocabulary)
        modifyThe LoadContext fun context =>
          { context with settings := context.settings.extend rules.settings }
        loadResolved host.shelf source rules : Load LoadError (Option NativeScript)).run.run
          context).run host :=
  rfl

end Parts

end HomeRules.Host
