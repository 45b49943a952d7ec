import HomeRules.Proofs.Host.Serving
import HomeRules.Proofs.Schema.Selection

/-!
# What a dispatch does

A dispatch runs along the tree of an action list and carries an outcome with it. Here
it is compared with a plain account of the same thing: first all guards are asked, then
the owner's work is dropped, then the leaf actions of the lists that match are visited
one by one, and their fates are counted. The plain account cannot be cut short; a
dispatch is, by a task that panics when it is asked for its work.
-/

set_option autoImplicit false

namespace HomeRules

/-! ## Leaf actions -/

theorem Action.leavesOf_append (first second : List Action) :
    Action.leavesOf (first ++ second) = Action.leavesOf first ++ Action.leavesOf second := by
  induction first with
  | nil => rw [List.nil_append, Action.leavesOf, List.nil_append]
  | cons action rest previous =>
      rw [List.cons_append, Action.leavesOf, previous, Action.leavesOf, List.append_assoc]

theorem Action.leavesOf_flatten (lists : List (List Action)) :
    Action.leavesOf lists.flatten = lists.flatMap Action.leavesOf := by
  induction lists with
  | nil => rw [List.flatten_nil, Action.leavesOf, List.flatMap_nil]
  | cons actions rest previous =>
      rw [List.flatten_cons, Action.leavesOf_append, previous, List.flatMap_cons]

/-- Whether an action gives work when it is asked for it. Only a task may fail to. -/
def Action.gives : Action → Bool
  | .task _ (.panics _) => false
  | _ => true

namespace Host

inductive Fate where
  | executed
  | failed
  | deferred
  /-- The supervisor did not accept the work. -/
  | refused
  /-- The task panicked when it was asked for its work. -/
  | escaped (failure : Failure)
  deriving DecidableEq, Repr

def Fate.count (fate : Fate) (outcome : Outcome) : Outcome :=
  match fate with
  | .executed => { outcome with executed := outcome.executed + 1 }
  | .failed => { outcome with failed := outcome.failed + 1 }
  | .deferred => { outcome with deferred := outcome.deferred + 1 }
  | .refused => outcome
  | .escaped _ => outcome

/-- Counts a fate, unless it takes the dispatch with it. -/
def Fate.settle (outcome : Outcome) : Fate → Run Outcome
  | .escaped failure => throw failure
  | fate => pure (fate.count outcome)

def handOver (occasion : Occasion) (name : String) (work : Work) : Step Fate := do
  match ← spawn name occasion.generation occasion.owner work with
  | some _ => return .deferred
  | none => return .refused

def visit (publish : Publisher) (occasion : Occasion) : Action → Step Fate
  | .call name commands => do
    mark (.called occasion.generation name)
    match ← attempt (commands.forM (perform publish name occasion.payload)) with
    | none => return .executed
    | some failure => do
      warn (ActionFailure.message ⟨name, failure⟩)
      return .failed
  | .task name source => do
    mark (.called occasion.generation name)
    match source with
    | .job job => handOver occasion name (.job job occasion.payload)
    | .panics message => return .escaped (.panic message)
  | .group _ _ => return .executed
  | .after delay actions =>
    handOver occasion (Action.after delay actions).name (.delayed delay actions occasion.payload)

/-- Runs are equal when they do the same to every host. -/
theorem run_ext {α : Type} {first second : Run α}
    (same : ∀ host, ran first host = ran second host) :
    first = second :=
  funext same

section Trees

variable (publish : Publisher) (occasion : Occasion)

/-- Visits a leaf action and goes on with its fate counted. -/
def visitNext (outcome : Outcome) (leaf : Action) : Run Outcome := do
  (← visit publish occasion leaf).settle outcome

theorem ran_visitNext (outcome : Outcome) (leaf : Action) (host : Host) :
    ran (visitNext publish occasion outcome leaf) host =
      ran ((answer (visit publish occasion leaf) host).settle outcome)
        (after (visit publish occasion leaf) host) := rfl

private theorem ran_defer (name : String) (work : Work) (outcome : Outcome) (host : Host) :
    ran (liftM (defer occasion name work outcome) : Run Outcome) host =
      ran ((answer (handOver occasion name work) host).settle outcome)
        (after (handOver occasion name work) host) := by
  simp only [ran_lift, defer, handOver, answer_bind, after_bind]
  cases answer (spawn name occasion.generation occasion.owner work) host <;> rfl

private theorem execute_call (name : String) (commands : List Command) (outcome : Outcome) :
    execute publish occasion (.call name commands) outcome =
      visitNext publish occasion outcome (.call name commands) := by
  refine run_ext fun host => ?_
  rw [ran_visitNext, execute, visit]
  simp only [ran_lift_bind, answer_bind, after_bind]
  cases answer (attempt (commands.forM (perform publish name occasion.payload)))
    (after (mark (.called occasion.generation name)) host) <;> rfl

private theorem execute_task (name : String) (source : TaskSource) (outcome : Outcome) :
    execute publish occasion (.task name source) outcome =
      visitNext publish occasion outcome (.task name source) := by
  refine run_ext fun host => ?_
  rw [ran_visitNext]
  cases source with
  | job job =>
      simp only [execute, visit, ran_lift_bind, answer_bind, after_bind]
      exact ran_defer occasion name _ outcome _
  | panics message =>
      simp only [execute, visit]
      rfl

private theorem execute_after (delay : Duration) (actions : List Action) (outcome : Outcome) :
    execute publish occasion (.after delay actions) outcome =
      visitNext publish occasion outcome (.after delay actions) :=
  run_ext fun host => by
    rw [ran_visitNext, execute, visit]
    exact ran_defer occasion _ _ outcome host

mutual

/-- Running an action is visiting the leaves that it stands for. -/
theorem execute_eq (action : Action) (outcome : Outcome) :
    execute publish occasion action outcome =
      action.leaves.foldlM (visitNext publish occasion) outcome := by
  cases action with
  | call name commands =>
      simp only [execute_call, Action.leaves, List.foldlM_cons, List.foldlM_nil, bind_pure]
  | task name source =>
      simp only [execute_task, Action.leaves, List.foldlM_cons, List.foldlM_nil, bind_pure]
  | after delay actions =>
      simp only [execute_after, Action.leaves, List.foldlM_cons, List.foldlM_nil, bind_pure]
  | group name members =>
      rw [execute, Action.leaves]
      exact executeAll_eq members outcome

/-- Running a list of actions is visiting its leaves in their order. -/
theorem executeAll_eq (actions : List Action) (outcome : Outcome) :
    executeAll publish occasion actions outcome =
      (Action.leavesOf actions).foldlM (visitNext publish occasion) outcome := by
  cases actions with
  | nil => rw [executeAll, Action.leavesOf, List.foldlM_nil]
  | cons action rest =>
      rw [executeAll, Action.leavesOf, List.foldlM_append, execute_eq action outcome]
      exact bind_congr fun next => executeAll_eq rest next

end

end Trees

/-! ## Fates -/

section Fates

variable {publish : Publisher} {occasion : Occasion}

/-- The fates that count: a leaf ran, failed, or was handed over. -/
def Fate.counts : Fate → Prop
  | .executed => True
  | .failed => True
  | .deferred => True
  | _ => False

theorem settle_counted {fate : Fate} (counts : fate.counts) (outcome : Outcome) :
    fate.settle outcome = pure (fate.count outcome) := by
  cases fate with
  | escaped failure => exact counts.elim
  | _ => rfl

theorem ran_visitNext_counted {host : Host} {leaf : Action}
    (counts : (answer (visit publish occasion leaf) host).counts) (outcome : Outcome) :
    ran (visitNext publish occasion outcome leaf) host =
      (.ok ((answer (visit publish occasion leaf) host).count outcome),
        after (visit publish occasion leaf) host) := by
  rw [ran_visitNext, settle_counted counts, ran_pure]

/-- The supervisor accepts work of the current generation. -/
theorem spawn_accepted {host : Host} {generation : Generation}
    (current : host.generation = generation) (name : String) (owner : Option String)
    (work : Work) : answer (spawn name generation owner work) host =
      some (host.supervisor.add name generation owner work).2 := by
  rw [spawn, answer_get_bind, if_pos current]
  rfl

theorem handOver_accepted {host : Host} (current : host.generation = occasion.generation)
    (name : String) (work : Work) : answer (handOver occasion name work) host = .deferred := by
  rw [handOver, answer_bind, spawn_accepted current]
  rfl

/-- In its generation, every leaf that gives its work meets a fate that counts. -/
theorem visit_counts {host : Host} (current : host.generation = occasion.generation)
    {leaf : Action} (gives : leaf.gives) : (answer (visit publish occasion leaf) host).counts := by
  cases leaf with
  | call name commands =>
      simp only [visit, answer_bind]
      split
      · trivial
      · trivial
  | task name source =>
      cases source with
      | job job =>
          simp only [visit, answer_bind]
          have marked : (after (mark (.called occasion.generation name)) host).generation =
            occasion.generation := current
          rw [handOver_accepted marked]
          trivial
      | panics message => cases gives
  | group name members => trivial
  | after delay actions =>
      rw [visit, handOver_accepted current]
      trivial

theorem after_visit (leaf : Action) (outcome : Outcome) (host : Host) :
    after (visit publish occasion leaf) host =
      (ran (visitNext publish occasion outcome leaf) host).2 := by
  rw [ran_visitNext]
  cases answer (visit publish occasion leaf) host <;> rfl

/-- What running a leaf keeps, visiting it keeps. -/
theorem visit_keeps {fact : Host → Prop} {leaf : Action}
    (kept : RunKeeps fact (execute publish occasion leaf {})) :
    Keeps fact (visit publish occasion leaf) := by
  intro host holds
  have executed := kept host holds
  cases leaf with
  | call name commands =>
      rw [execute_call] at executed
      rw [after_visit _ {}]
      exact executed
  | task name source =>
      rw [execute_task] at executed
      rw [after_visit _ {}]
      exact executed
  | group name members => exact holds
  | after delay actions =>
      rw [execute_after] at executed
      rw [after_visit _ {}]
      exact executed

/-- What visiting a leaf keeps is kept when its fate is counted. -/
theorem visitNext_keeps {fact : Host → Prop} {leaf : Action}
    (kept : Keeps fact (visit publish occasion leaf)) (outcome : Outcome) :
    RunKeeps fact (visitNext publish occasion outcome leaf) := by
  refine .bind (.lift kept) fun fate => ?_
  cases fate with
  | escaped failure => exact .throw failure
  | _ => exact .pure _

theorem handOver_reaches {start : Host} (name : String) (work : Work) :
    Keeps (Reaches false start) (handOver occasion name work) := by
  refine .bind (spawn_reaches _ _ _ _) fun handle? => ?_
  cases handle? with
  | none => exact .pure _
  | some handle => exact .pure _

theorem visit_reaches {start : Host}
    (served : ∀ event, RunKeeps (Reaches false start) (publish event))
    (current : occasion.generation = start.generation) (leaf : Action) :
    Keeps (Reaches false start) (visit publish occasion leaf) :=
  visit_keeps (execute_reaches served current leaf {})

/-- Where every leaf gives its work, all of them are visited, whatever fails. -/
theorem ran_leaves {start host : Host}
    (served : ∀ event, RunKeeps (Reaches false start) (publish event))
    (current : occasion.generation = start.generation) (path : Reaches false start host)
    {leaves : List Action} (gives : ∀ leaf ∈ leaves, leaf.gives) (outcome : Outcome) :
    (∀ fate ∈ answer (leaves.mapM (visit publish occasion)) host, fate.counts) ∧
      ran (leaves.foldlM (visitNext publish occasion) outcome) host =
        (.ok ((answer (leaves.mapM (visit publish occasion)) host).foldl
            (fun outcome fate => fate.count outcome) outcome),
          after (leaves.mapM (visit publish occasion)) host) := by
  induction leaves generalizing host outcome with
  | nil => exact ⟨fun _ member => absurd member List.not_mem_nil, rfl⟩
  | cons leaf rest previous =>
      have now : host.generation = occasion.generation := path.generation_eq.trans current.symm
      have counts : (answer (visit publish occasion leaf) host).counts :=
        visit_counts now (gives leaf List.mem_cons_self)
      have visited := visit_reaches served current leaf host path
      obtain ⟨others, ran⟩ := previous visited
        (fun leaf member => gives leaf (List.mem_cons_of_mem _ member))
        ((answer (visit publish occasion leaf) host).count outcome)
      rw [List.mapM_cons, List.foldlM_cons]
      simp only [answer_bind, answer_pure, after_bind, after_pure, List.foldl_cons]
      refine ⟨?_, ?_⟩
      · intro fate member
        rcases List.mem_cons.mp member with rfl | later
        · exact counts
        · exact others fate later
      · rw [ran_bind_ok (ran_visitNext_counted counts outcome), ran]

theorem count_fates (fates : List Fate) (outcome : Outcome) :
    fates.foldl (fun outcome fate => fate.count outcome) outcome =
      { outcome with
        executed := outcome.executed + fates.count .executed
        failed := outcome.failed + fates.count .failed
        deferred := outcome.deferred + fates.count .deferred } := by
  induction fates generalizing outcome with
  | nil => rfl
  | cons fate rest previous =>
      rw [List.foldl_cons, previous]
      cases fate <;> simp [Fate.count] <;> omega

theorem total_fates {fates : List Fate} (counts : ∀ fate ∈ fates, fate.counts) :
    fates.count .executed + fates.count .failed + fates.count .deferred = fates.length := by
  induction fates with
  | nil => rfl
  | cons fate rest previous =>
      have others := previous fun fate member => counts fate (List.mem_cons_of_mem _ member)
      have first := counts fate List.mem_cons_self
      cases fate with
      | executed => simp; omega
      | failed => simp; omega
      | deferred => simp; omega
      | refused => exact first.elim
      | escaped failure => exact first.elim

end Fates

/-! ## The plain account -/

/-- The verdict of a guard on the event of an occasion, in the world of a host. -/
def asks (host : Host) (occasion : Occasion) : Condition → Verdict :=
  Condition.evaluateIn host.world occasion.payload

/-- The leaf actions that an entry brings about on an occasion, in their order. -/
def dueLeaves (host : Host) (occasion : Occasion) (body : ConditionSchema) : List Action :=
  Action.leavesOf (body.matching (host.asks occasion)).flatten

/-- Drops the pending work of an owner where that is due, and gives its amount. -/
def dropPending (due : Bool) (owner : Option String) : Step Nat :=
  if due then restartOwner owner else pure 0

/-- The first half of an entry: asks its guards and drops the owner's pending work where
that is due. -/
def readyEntry (occasion : Occasion) (restart : Bool) (body : ConditionSchema) :
    Step Outcome := do
  let host ← get
  let asked := body.askedItems (host.asks occasion)
  let matching := body.matching (host.asks occasion)
  asked.forM fun item =>
    announce occasion.generation ⟨item, host.asks occasion item.condition⟩
  let cancelled ← dropPending (restart && !matching.isEmpty) occasion.owner
  return {
    matched := matching.length
    failed := (asked.filter fun item => (host.asks occasion item.condition).fails).length
    cancelled }

/-- The plain account of an entry: all guards, then the owner's pending work, then the
leaf actions, then the counts. -/
def plainEntry (publish : Publisher) (occasion : Occasion) (restart : Bool)
    (body : ConditionSchema) : Step Outcome := do
  let host ← get
  if host.generation ≠ occasion.generation then return { stale := true }
  else do
    let asked := body.askedItems (host.asks occasion)
    let matching := body.matching (host.asks occasion)
    asked.forM fun item =>
      announce occasion.generation ⟨item, host.asks occasion item.condition⟩
    let cancelled ← dropPending (restart && !matching.isEmpty) occasion.owner
    let fates ← (host.dueLeaves occasion body).mapM (visit publish occasion)
    return {
      matched := matching.length
      executed := fates.count .executed
      failed := (asked.filter fun item => (host.asks occasion item.condition).fails).length +
        fates.count .failed
      deferred := fates.count .deferred
      cancelled }

/-- The counts of a dispatch add up: as many lists match as guards hold, and each failing
guard and each leaf action is counted once. -/
structure Balanced (host : Host) (occasion : Occasion) (body : ConditionSchema)
    (outcome : Outcome) : Prop where
  matched : outcome.matched = match body with
    | .unconditional _ => 1
    | .conditional _ _ => ((body.askedItems (host.asks occasion)).filter fun item =>
        (host.asks occasion item.condition).holds).length
  total : outcome.executed + outcome.failed + outcome.deferred =
    (host.dueLeaves occasion body).length +
      ((body.askedItems (host.asks occasion)).filter fun item =>
        (host.asks occasion item.condition).fails).length

section Entries

variable {publish : Publisher} {occasion : Occasion}

private theorem ran_announcements (generation : Generation) (ask : Condition → Verdict)
    (items : List GuardedActions) (host : Host) :
    ran ((items.map fun item => (⟨item, ask item.condition⟩ : Reached)).forM fun reached =>
        (announce generation reached : Run Unit)) host =
      (.ok (), after (items.forM fun item => announce generation ⟨item, ask item.condition⟩)
        host) := by
  induction items generalizing host with
  | nil => rfl
  | cons item rest previous => exact previous _

/-- An entry of the current generation is made ready, and then the leaves that are due are
visited, whatever becomes of them. -/
theorem ran_runEntry_ready (restart : Bool) (body : ConditionSchema) {host : Host}
    (current : host.generation = occasion.generation) :
    ran (runEntry publish occasion restart body) host =
      ran ((host.dueLeaves occasion body).foldlM (visitNext publish occasion)
          (answer (readyEntry occasion restart body) host))
        (after (readyEntry occasion restart body) host) := by
  have ask : Condition.evaluateIn host.world occasion.payload = host.asks occasion := rfl
  rw [runEntry, ran_get_bind, if_neg (not_not.mpr current), ask]
  simp only [ConditionSchema.selected_eq, ConditionSchema.failures_eq, executeAll_eq]
  rw [ConditionSchema.reach_eq,
    ran_bind_ok (ran_announcements occasion.generation (host.asks occasion) _ host), readyEntry]
  rw [answer_get_bind, after_get_bind]
  simp only [answer_bind, after_bind, answer_pure, after_pure]
  by_cases due : restart && !(body.matching (host.asks occasion)).isEmpty
  · simp only [dropPending, if_pos due, ran_lift_bind]
    rfl
  · simp only [dropPending, if_neg due, pure_bind, answer_pure, after_pure]
    rfl

private theorem announcements_reach {start : Host}
    (current : occasion.generation = start.generation) (ask : Condition → Verdict)
    (items : List GuardedActions) :
    Keeps (Reaches false start) (items.forM fun item =>
      announce occasion.generation ⟨item, ask item.condition⟩) :=
  .forM (fun _ => announce_reaches current _) items

private theorem dropPending_reaches {start : Host} (due : Bool) (owner : Option String) :
    Keeps (Reaches false start) (dropPending due owner) := by
  unfold dropPending
  split
  · exact restartOwner_reaches owner
  · exact .pure _

/-- The leaf actions of an entry, from any host the guards and the cancelling lead to. -/
private theorem ran_executeAll {start host : Host}
    (served : ∀ event, RunKeeps (Reaches false start) (publish event))
    (current : occasion.generation = start.generation) (path : Reaches false start host)
    {actions : List Action} (gives : ∀ leaf ∈ Action.leavesOf actions, leaf.gives)
    (matched failed cancelled : Nat) :
    ran (executeAll publish occasion actions { matched, failed, cancelled }) host =
      let fates := answer ((Action.leavesOf actions).mapM (visit publish occasion)) host
      (.ok {
          matched
          executed := fates.count .executed
          failed := failed + fates.count .failed
          deferred := fates.count .deferred
          cancelled },
        after ((Action.leavesOf actions).mapM (visit publish occasion)) host) := by
  rw [executeAll_eq, (ran_leaves served current path gives _).2, count_fates]
  simp only [Nat.zero_add]

/-- An entry does what the plain account says, if its leaves give their work. -/
theorem ran_runEntry (served : ∀ start event, RunKeeps (Reaches false start) (publish event))
    (restart : Bool) (body : ConditionSchema) (host : Host)
    (gives : ∀ leaf ∈ host.dueLeaves occasion body, leaf.gives) :
    ran (runEntry publish occasion restart body) host =
      (.ok (answer (plainEntry publish occasion restart body) host),
        after (plainEntry publish occasion restart body) host) := by
  rw [runEntry, ran_get_bind, plainEntry, answer_get_bind, after_get_bind]
  by_cases current : host.generation = occasion.generation
  case neg =>
    rw [if_pos current, if_pos current, ran_pure]
    rfl
  have ask : Condition.evaluateIn host.world occasion.payload = host.asks occasion := rfl
  rw [if_neg (not_not.mpr current), if_neg (not_not.mpr current), ask]
  simp only [ConditionSchema.selected_eq, ConditionSchema.failures_eq]
  rw [ConditionSchema.reach_eq,
    ran_bind_ok (ran_announcements occasion.generation (host.asks occasion) _ host)]
  have announced := announcements_reach current.symm (host.asks occasion)
    (body.askedItems (host.asks occasion)) host .refl
  have dropped := dropPending_reaches (restart && !(body.matching (host.asks occasion)).isEmpty)
    occasion.owner _ announced
  have finished := ran_executeAll (served host) current.symm dropped gives
  simp only [answer_bind, after_bind, answer_pure, after_pure]
  by_cases due : restart && !(body.matching (host.asks occasion)).isEmpty
  · simp only [dropPending, if_pos due, ran_lift_bind] at finished ⊢
    exact finished _ _ _
  · simp only [dropPending, if_neg due, pure_bind, answer_pure, after_pure] at finished ⊢
    exact finished _ _ _

/-- What the plain account counts in the current generation. -/
theorem plainEntry_balanced
    (served : ∀ start event, RunKeeps (Reaches false start) (publish event))
    (restart : Bool) (body : ConditionSchema) {host : Host}
    (current : host.generation = occasion.generation)
    (gives : ∀ leaf ∈ host.dueLeaves occasion body, leaf.gives) :
    host.Balanced occasion body (answer (plainEntry publish occasion restart body) host) := by
  rw [plainEntry, answer_get_bind, if_neg (not_not.mpr current)]
  have announced := announcements_reach current.symm (host.asks occasion)
    (body.askedItems (host.asks occasion)) host .refl
  have dropped := dropPending_reaches (restart && !(body.matching (host.asks occasion)).isEmpty)
    occasion.owner _ announced
  have counts := (ran_leaves (served host) current.symm dropped gives {}).1
  have total := total_fates counts
  rw [answer_mapM_length] at total
  refine ⟨ConditionSchema.matching_length _ body, ?_⟩
  simp only [answer_bind, answer_pure]
  rw [← total]
  omega

end Entries

/-! ## Dispatches -/

/-- The first half of a dispatch in its generation. -/
def readyDispatch (occasion : Occasion) (schema : EventSchema) (kind : EventKind) :
    Step Outcome :=
  match schema.entry? kind with
  | none => pure {}
  | some entry => readyEntry occasion (entry.mode = .restart) entry.body

theorem readyDispatch_reaches {start host : Host} {occasion : Occasion}
    (current : occasion.generation = start.generation) (path : Reaches false start host)
    (schema : EventSchema) (kind : EventKind) :
    Reaches false start (after (readyDispatch occasion schema kind) host) := by
  unfold readyDispatch
  cases schema.entry? kind with
  | none => exact path
  | some entry =>
      have announced := announcements_reach current (host.asks occasion)
        (entry.body.askedItems (host.asks occasion)) host path
      exact dropPending_reaches _ occasion.owner _ announced

/-- The leaf actions that a dispatch is to visit. -/
def leavesDue (host : Host) (occasion : Occasion) (schema : EventSchema) (kind : EventKind) :
    List Action :=
  match schema.entry? kind with
  | none => []
  | some entry => host.dueLeaves occasion entry.body

/-- A dispatch in its generation is made ready, and then visits the leaves that are due. -/
theorem ran_dispatch_ready (publish : Publisher) (schema : EventSchema) (kind : EventKind)
    (payload : Payload) (host : Host) :
    let occasion : Occasion := { generation := host.generation, owner := schema.owner, payload }
    ran (dispatch publish host.generation schema kind payload) host =
      ran ((host.leavesDue occasion schema kind).foldlM (visitNext publish occasion)
          (answer (readyDispatch occasion schema kind) host))
        (after (readyDispatch occasion schema kind) host) := by
  unfold dispatch leavesDue readyDispatch
  cases schema.entry? kind with
  | none => rfl
  | some entry => exact ran_runEntry_ready _ _ rfl

/-- The plain account of a dispatch. -/
def plainDispatch (publish : Publisher) (generation : Generation) (schema : EventSchema)
    (kind : EventKind) (payload : Payload) : Step Outcome :=
  match schema.entry? kind with
  | none => pure {}
  | some entry =>
    plainEntry publish { generation, owner := schema.owner, payload } (entry.mode = .restart)
      entry.body

/-- A dispatch does what the plain account says, and its counts add up; for a generation
that is over it does nothing. The tasks among the leaves that are due must give their
work. Events that actions publish may be nested to any depth. -/
theorem dispatch_refines (depth : Nat) (generation : Generation) (schema : EventSchema)
    (kind : EventKind) (payload : Payload) (host : Host)
    (gives : ∀ entry, schema.entry? kind = some entry → ∀ leaf ∈ host.dueLeaves
      { generation, owner := schema.owner, payload } entry.body, leaf.gives) :
    let plain := plainDispatch (publishWithin depth) generation schema kind payload
    ran (dispatch (publishWithin depth) generation schema kind payload) host =
        (.ok (answer plain host), after plain host) ∧
      (∀ entry, schema.entry? kind = some entry → host.generation = generation →
        host.Balanced { generation, owner := schema.owner, payload } entry.body
          (answer plain host)) ∧
      (host.generation ≠ generation → after plain host = host) := by
  have served (start : Host) (event : Event) :
      RunKeeps (Reaches false start) (publishWithin depth event) :=
    publishWithin_reaches depth event
  dsimp only
  unfold plainDispatch dispatch
  cases found : schema.entry? kind with
  | none =>
      refine ⟨rfl, ?_, fun _ => rfl⟩
      rintro _ ⟨⟩
  | some entry =>
      have gives := gives entry found
      refine ⟨ran_runEntry served _ _ host gives, ?_, fun stale => ?_⟩
      · intro other same current
        cases same
        exact plainEntry_balanced served _ _ current gives
      · simp only [plainEntry, after_get_bind, if_pos stale, after_pure]

/-- A failing guard, a group, a call that fails, work that is handed over, and a list that
is not reached. -/
def mixedSchema : EventSchema where
  entries := [{
    kind := .bus "motion"
    body := .conditional [
      ⟨.leaf { name := "broken", arity := .nullary, sensor := .failing (.panic none) }, []⟩,
      ⟨.leaf { name := "dark", arity := .nullary, sensor := .constant true }, [
        .group "lights" [.call "lamp" [], .group "inner" [.call "strip" [.fail (.panic none)]]],
        .after .zero [.call "off" []],
        .task "fade" (.job {})]⟩,
      ⟨.leaf { name := "late", arity := .nullary, sensor := .constant true }, [.call "never" []]⟩]
      true
    mode := .parallel }]

theorem dispatch_refines_mixed :
    (ran (dispatch (publishWithin 1) 0 mixedSchema (.bus "motion") .none) {}).1 =
      .ok { matched := 1, executed := 1, failed := 2, deferred := 2 } := by
  have gives : ∀ entry, mixedSchema.entry? (.bus "motion") = some entry →
      ∀ leaf ∈ dueLeaves {} { generation := 0, owner := none, payload := .none } entry.body,
        leaf.gives := by
    intro entry found
    cases found
    decide
  rw [(dispatch_refines 1 0 mixedSchema (.bus "motion") .none {} gives).1]
  rfl

end Host

end HomeRules
