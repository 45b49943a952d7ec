import HomeRules.Host.Reload

/-!
# Facts that steps keep

A step is followed by its host and its answer. A fact about hosts is kept by a step
when it holds after the step of every host of which it holds before; the rules below
carry that through the ways in which steps are put together, also where a failure
can cut them short and where a script remembers what it has acquired.
-/

set_option autoImplicit false

namespace HomeRules.Host

/-! ## Steps -/

def after {α : Type} (step : Step α) (host : Host) : Host :=
  (step.run host).2

def answer {α : Type} (step : Step α) (host : Host) : α :=
  (step.run host).1

section Equations

variable {α β : Type}

@[simp] theorem after_pure (value : α) (host : Host) : after (pure value) host = host := rfl

@[simp] theorem answer_pure (value : α) (host : Host) : answer (pure value) host = value := rfl

@[simp] theorem after_bind (step : Step α) (rest : α → Step β) (host : Host) :
    after (step >>= rest) host = after (rest (answer step host)) (after step host) := rfl

@[simp] theorem answer_bind (step : Step α) (rest : α → Step β) (host : Host) :
    answer (step >>= rest) host = answer (rest (answer step host)) (after step host) := rfl

@[simp] theorem after_map (change : α → β) (step : Step α) (host : Host) :
    after (change <$> step) host = after step host := rfl

@[simp] theorem answer_map (change : α → β) (step : Step α) (host : Host) :
    answer (change <$> step) host = change (answer step host) := rfl

/-- Reading the host and going on is going on with it. -/
@[simp high] theorem after_get_bind (rest : Host → Step β) (host : Host) :
    after (get >>= rest) host = after (rest host) host := rfl

@[simp high] theorem answer_get_bind (rest : Host → Step β) (host : Host) :
    answer (get >>= rest) host = answer (rest host) host := rfl

@[simp] theorem after_get (host : Host) : after get host = host := rfl

@[simp] theorem answer_get (host : Host) : answer get host = host := rfl

@[simp] theorem after_set (next host : Host) : after (set next) host = next := rfl

@[simp] theorem after_modify (change : Host → Host) (host : Host) :
    after (modify change) host = change host := rfl

@[simp] theorem after_modifyGet (change : Host → α × Host) (host : Host) :
    after (modifyGet change) host = (change host).2 := rfl

@[simp] theorem answer_modifyGet (change : Host → α × Host) (host : Host) :
    answer (modifyGet change) host = (change host).1 := rfl

theorem answer_mapM_length (step : α → Step β) (values : List α) (host : Host) :
    (answer (values.mapM step) host).length = values.length := by
  induction values generalizing host with
  | nil => rfl
  | cons value rest previous =>
      rw [List.mapM_cons]
      simp only [answer_bind, answer_pure, List.length_cons, previous]

end Equations

/-! ## Kept facts -/

def Keeps (fact : Host → Prop) {α : Type} (step : Step α) : Prop :=
  ∀ host, fact host → fact (after step host)

namespace Keeps

variable {fact : Host → Prop} {α β : Type}

theorem pure (value : α) : Keeps fact (Pure.pure value : Step α) :=
  fun _ holds => holds

theorem bind {step : Step α} {rest : α → Step β} (first : Keeps fact step)
    (next : ∀ value, Keeps fact (rest value)) : Keeps fact (step >>= rest) :=
  fun host holds => next _ _ (first host holds)

/-- What a step reads of the host it may use to choose how it goes on. -/
theorem get {rest : Host → Step β} (next : ∀ host, fact host → fact (after (rest host) host)) :
    Keeps fact (MonadState.get >>= rest) :=
  next

theorem read {rest : Host → Step β} (next : ∀ host, Keeps fact (rest host)) :
    Keeps fact (MonadState.get >>= rest) :=
  fun host holds => next host host holds

theorem forM {step : α → Step PUnit} (kept : ∀ value, Keeps fact (step value))
    (values : List α) : Keeps fact (values.forM step) := by
  induction values with
  | nil => exact pure _
  | cons value rest previous => exact bind (kept value) fun _ => previous

theorem forM_of_mem {step : α → Step PUnit} {values : List α}
    (kept : ∀ value ∈ values, Keeps fact (step value)) : Keeps fact (values.forM step) := by
  induction values with
  | nil => exact pure _
  | cons value rest previous =>
      refine bind (kept value List.mem_cons_self) fun _ => previous ?_
      exact fun later member => kept later (List.mem_cons_of_mem _ member)

theorem mapM {step : α → Step β} (kept : ∀ value, Keeps fact (step value))
    (values : List α) : Keeps fact (values.mapM step) := by
  induction values with
  | nil => exact pure _
  | cons value rest previous =>
      rw [List.mapM_cons]
      exact bind (kept value) fun _ => bind previous fun _ => pure _

theorem option_forM {step : α → Step PUnit} (kept : ∀ value, Keeps fact (step value))
    (value : Option α) : Keeps fact (value.forM step) := by
  cases value with
  | none => exact pure _
  | some value => exact kept value

end Keeps

/-- What warnings keep, the warnings about a cycle keep. -/
theorem warnOf_keeps {fact : Host → Prop} (warned : ∀ text, Keeps fact (warn text))
    (report : CycleReport) : Keeps fact (warnOf report) := by
  have empty : Keeps fact
      (if report.loaded.isEmpty && report.failed.isEmpty then
        warn "No scripts loaded after reload" else pure ()) := by
    split
    · exact warned _
    · exact .pure _
  have detached : Keeps fact (do
      unless report.timeouts.isEmpty do
        warn (Text.numeral report.timeouts.length ++ " task(s) were detached while stopping")
      if report.loaded.isEmpty && report.failed.isEmpty then
        warn "No scripts loaded after reload") := by
    dsimp only
    split
    · exact empty
    · exact .bind (warned _) fun _ => empty
  unfold warnOf
  dsimp only
  split
  · exact detached
  · exact .bind (warned _) fun _ => detached

/-! ## Steps that lead from fact to fact -/

/-- From hosts of which one fact holds, a step leads to answers and hosts of which
another one does. -/
def Leads (before : Host → Prop) {α : Type} (step : Step α) (reached : α → Host → Prop) : Prop :=
  ∀ host, before host → reached (answer step host) (after step host)

namespace Leads

variable {before : Host → Prop} {α β : Type} {step : Step α}

theorem bind {rest : α → Step β} {middle : α → Host → Prop} {reached : β → Host → Prop}
    (first : Leads before step middle) (next : ∀ value, Leads (middle value) (rest value) reached) :
    Leads before (step >>= rest) reached :=
  fun host holds => next _ _ (first host holds)

theorem read {rest : Host → Step β} {reached : β → Host → Prop}
    (next : ∀ host, Leads before (rest host) reached) :
    Leads before (MonadState.get >>= rest) reached :=
  fun host holds => next host host holds

end Leads

theorem Keeps.ofLeads {fact : Host → Prop} {α : Type} {step : Step α}
    (led : Leads fact step fun _ => fact) : Keeps fact step :=
  led

theorem Keeps.leads {fact : Host → Prop} {α : Type} {step : Step α} (kept : Keeps fact step) :
    Leads fact step fun _ => fact :=
  kept

/-! ## Runs and loads -/

/-- What a run gives, and the host after it. -/
def ran {α : Type} (run : Run α) (host : Host) : Except Failure α × Host :=
  (run.run).run host

section Equations

variable {α β : Type}

@[simp] theorem ran_pure (value : α) (host : Host) : ran (pure value) host = (.ok value, host) :=
  rfl

@[simp] theorem ran_throw (failure : Failure) (host : Host) :
    ran (throw failure : Run α) host = (.error failure, host) := rfl

@[simp] theorem ran_lift (step : Step α) (host : Host) :
    ran (liftM step : Run α) host = (.ok (answer step host), after step host) := rfl

@[simp high] theorem ran_get_bind (rest : Host → Run β) (host : Host) :
    ran (getThe Host >>= rest) host = ran (rest host) host := rfl

theorem ran_bind (run : Run α) (rest : α → Run β) (host : Host) :
    ran (run >>= rest) host =
      match ran run host with
      | (.ok value, next) => ran (rest value) next
      | (.error failure, next) => (.error failure, next) := by
  change ran (ExceptT.mk (run.run >>= ExceptT.bindCont rest)) host = _
  change (ExceptT.bindCont rest (ran run host).1).run (ran run host).2 = _
  cases found : ran run host with
  | mk result next => cases result <;> rfl

theorem ran_bind_ok {run : Run α} {host next : Host} {value : α}
    (first : ran run host = (.ok value, next)) (rest : α → Run β) :
    ran (run >>= rest) host = ran (rest value) next := by
  rw [ran_bind, first]

@[simp] theorem ran_lift_bind (step : Step α) (rest : α → Run β) (host : Host) :
    ran (liftM step >>= rest) host = ran (rest (answer step host)) (after step host) := rfl

/-- Runs over a list go on with the next value once those before it complete. -/
theorem ran_forM_past {α : Type} {run : α → Run PUnit} {first : List α} {host next : Host}
    (completes : ran (first.forM run) host = (.ok (), next)) (value : α) (later : List α) :
    ran ((first ++ value :: later).forM run) host =
      ran (run value >>= fun _ => later.forM run) next := by
  have split : (first ++ value :: later).forM run =
      first.forM run >>= fun _ => (value :: later).forM run := List.forM_append
  rw [split, ran_bind_ok completes]
  rfl

/-- A run whose failure is caught changes the host as it does otherwise. -/
@[simp] theorem after_attempt (run : Run Unit) (host : Host) :
    after (attempt run) host = (ran run host).2 := by
  unfold attempt
  rw [after_bind]
  split <;> rfl

@[simp] theorem answer_attempt (run : Run Unit) (host : Host) :
    answer (attempt run) host = match (ran run host).1 with
      | .ok () => none
      | .error failure => some failure := by
  unfold attempt
  rw [answer_bind, show (ran run host).1 = answer run.run host from rfl]
  cases answer run.run host <;> rfl

end Equations

/-- A run keeps a fact, also when a failure cuts it short. -/
def RunKeeps (fact : Host → Prop) {α : Type} (run : Run α) : Prop :=
  Keeps fact run.run

namespace RunKeeps

variable {fact : Host → Prop} {α β : Type}

theorem pure (value : α) : RunKeeps fact (Pure.pure value) :=
  Keeps.pure _

theorem throw (failure : Failure) : RunKeeps fact (throw failure : Run α) :=
  Keeps.pure _

theorem lift {step : Step α} (kept : Keeps fact step) : RunKeeps fact (liftM step : Run α) :=
  kept

theorem bind {run : Run α} {rest : α → Run β} (first : RunKeeps fact run)
    (next : ∀ value, RunKeeps fact (rest value)) : RunKeeps fact (run >>= rest) := by
  intro host holds
  have kept := first host holds
  change fact (after (ExceptT.bindCont rest (answer run.run host)) (after run.run host))
  cases answer run.run host with
  | error failure => exact kept
  | ok value => exact next value _ kept

/-- What holds after a run holds after all of which the rest keeps it. -/
theorem bind_after (fact : Host → Prop) {run : Run α} {rest : α → Run β} {host : Host}
    (first : fact (ran run host).2) (next : ∀ value, RunKeeps fact (rest value)) :
    fact (ran (run >>= rest) host).2 := by
  rw [ran_bind]
  cases found : ran run host with
  | mk result later =>
      rw [found] at first
      cases result with
      | ok value => exact next value later first
      | error failure => exact first

theorem get {rest : Host → Run β}
    (next : ∀ host, fact host → fact (after (rest host).run host)) :
    RunKeeps fact (getThe Host >>= rest) :=
  next

theorem forM {run : α → Run PUnit} (kept : ∀ value, RunKeeps fact (run value))
    (values : List α) : RunKeeps fact (values.forM run) := by
  induction values with
  | nil => exact pure _
  | cons value rest previous => exact bind (kept value) fun _ => previous

theorem forM_of_mem {run : α → Run PUnit} {values : List α}
    (kept : ∀ value ∈ values, RunKeeps fact (run value)) : RunKeeps fact (values.forM run) := by
  induction values with
  | nil => exact pure _
  | cons value rest previous =>
      refine bind (kept value List.mem_cons_self) fun _ => previous ?_
      exact fun later member => kept later (List.mem_cons_of_mem _ member)

theorem foldlM_of_mem {run : β → α → Run β} {values : List α}
    (kept : ∀ value ∈ values, ∀ state, RunKeeps fact (run state value)) (state : β) :
    RunKeeps fact (values.foldlM run state) := by
  induction values generalizing state with
  | nil => exact pure _
  | cons value rest previous =>
      rw [List.foldlM_cons]
      refine bind (kept value List.mem_cons_self state) fun next => previous ?_ next
      exact fun later member => kept later (List.mem_cons_of_mem _ member)

theorem attempt {run : Run Unit} (kept : RunKeeps fact run) : Keeps fact (attempt run) := by
  intro host holds
  rw [after_attempt]
  exact kept host holds

end RunKeeps

/-- What a script does with its context keeps a fact, whatever the context holds. -/
def ContextKeeps (fact : Host → Prop) {α : Type} (part : StateT LoadContext Step α) : Prop :=
  ∀ context, Keeps fact (part.run context)

namespace ContextKeeps

variable {fact : Host → Prop} {α β : Type}

theorem pure (value : α) : ContextKeeps fact (Pure.pure value) :=
  fun _ => Keeps.pure _

theorem bind {part : StateT LoadContext Step α} {rest : α → StateT LoadContext Step β}
    (first : ContextKeeps fact part) (next : ∀ value, ContextKeeps fact (rest value)) :
    ContextKeeps fact (part >>= rest) :=
  fun context host holds => next _ _ _ (first context host holds)

theorem lift {step : Step α} (kept : Keeps fact step) :
    ContextKeeps fact (liftM step : StateT LoadContext Step α) :=
  fun _ => kept

theorem get : ContextKeeps fact (getThe LoadContext) :=
  fun _ => Keeps.pure _

theorem set (context : LoadContext) : ContextKeeps fact (MonadStateOf.set context) :=
  fun _ => Keeps.pure _

theorem modify (change : LoadContext → LoadContext) :
    ContextKeeps fact (modifyThe LoadContext change) :=
  fun _ => Keeps.pure _

end ContextKeeps

/-- A load keeps a fact, also when a failure cuts it short. -/
def LoadKeeps (fact : Host → Prop) {ε α : Type} (load : Load ε α) : Prop :=
  ContextKeeps fact load.run

namespace LoadKeeps

variable {fact : Host → Prop} {ε ε' α β : Type}

theorem pure (value : α) : LoadKeeps fact (Pure.pure value : Load ε α) :=
  ContextKeeps.pure _

theorem throw (error : ε) : LoadKeeps fact (throw error : Load ε α) :=
  ContextKeeps.pure _

theorem bind {load : Load ε α} {rest : α → Load ε β} (first : LoadKeeps fact load)
    (next : ∀ value, LoadKeeps fact (rest value)) : LoadKeeps fact (load >>= rest) := by
  have kept : ContextKeeps fact (load.run >>= ExceptT.bindCont rest) := by
    refine ContextKeeps.bind first fun result => ?_
    cases result with
    | error error => exact ContextKeeps.pure _
    | ok value => exact next value
  exact kept

theorem lift {part : StateT LoadContext Step α} (kept : ContextKeeps fact part) :
    LoadKeeps fact (liftM part : Load ε α) :=
  kept

theorem step {step : Step α} (kept : Keeps fact step) : LoadKeeps fact (liftM step : Load ε α) :=
  fun _ => kept

theorem except (result : Except ε α) : LoadKeeps fact (liftExcept result : Load ε α) := by
  cases result with
  | error error => exact throw error
  | ok value => exact pure value

theorem adapt (wrap : ε → ε') {load : Load ε α} (kept : LoadKeeps fact load) :
    LoadKeeps fact (ExceptT.adapt wrap load) :=
  kept

theorem forM {load : α → Load ε PUnit} (kept : ∀ value, LoadKeeps fact (load value))
    (values : List α) : LoadKeeps fact (values.forM load) := by
  induction values with
  | nil => exact pure _
  | cons value rest previous => exact bind (kept value) fun _ => previous

end LoadKeeps

end HomeRules.Host
