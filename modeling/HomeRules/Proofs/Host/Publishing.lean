import HomeRules.Proofs.Host.Answering
import HomeRules.Proofs.Host.Dispatch

/-!
# Publishing

An event that is published reaches every live subscription to its kind once: the listeners of the
platform are those that feed live subscriptions, and the managers of a registry that was let
deliver answer. What a publication does is one dispatch after the other, each under the current
generation and with the payload of the event, whatever events the actions publish in turn.
-/

set_option autoImplicit false

namespace HomeRules

/-- Whether a leaf action stops no manager and takes no dispatch with it. -/
def Action.isDocile : Action → Bool
  | .call _ commands => commands.all (· ≠ .stopManagers)
  | action => action.gives

/-- The leaf actions of an entry, whatever their conditions. -/
def ConditionSchema.leaves : ConditionSchema → List Action
  | .unconditional actions => Action.leavesOf actions
  | .conditional items _ => items.flatMap fun item => Action.leavesOf item.actions

/-- The lists that match have their leaves from the entry. -/
theorem ConditionSchema.matching_leaves (ask : Condition → Verdict) (body : ConditionSchema) :
    Action.leavesOf (body.matching ask).flatten ⊆ body.leaves := by
  rw [Action.leavesOf_flatten]
  intro leaf member
  obtain ⟨actions, matching, inside⟩ := List.mem_flatMap.mp member
  cases body with
  | unconditional all => exact List.mem_singleton.mp matching ▸ inside
  | conditional items exclusive =>
      have listed : ∃ item ∈ items, item.actions = actions := by
        cases exclusive with
        | false =>
            obtain ⟨item, kept, same⟩ := List.mem_map.mp matching
            exact ⟨item, List.mem_of_mem_filter kept, same⟩
        | true =>
            obtain ⟨item, kept, same⟩ := List.mem_map.mp matching
            exact ⟨item, List.mem_of_find?_eq_some (Option.mem_toList.mp kept), same⟩
      obtain ⟨item, present, rfl⟩ := listed
      exact List.mem_flatMap.mpr ⟨item, present, inside⟩

def EventSchema.Docile (schema : EventSchema) : Prop :=
  ∀ entry ∈ schema.entries, ∀ leaf ∈ entry.body.leaves, leaf.isDocile

instance (schema : EventSchema) : Decidable schema.Docile :=
  inferInstanceAs (Decidable (∀ entry ∈ schema.entries, ∀ leaf ∈ entry.body.leaves,
    leaf.isDocile = true))

namespace Host

/-! ## Subscribers -/

/-- The live subscriptions to a kind of event with the managers of pushed events. -/
def subscribers (host : Host) (kind : EventKind) : List Subscription :=
  (host.registry.managers.filter (·.kind ≠ .time)).flatMap fun manager =>
    manager.subscriptions.filter (·.kind = kind)

/-- What the listener that feeds a subscription is told to dispatch. -/
def delivery? (host : Host) (subscription : Subscription) : Option Delivery :=
  subscription.feed.listener?.bind fun id =>
    (host.bus.listeners.find? (·.id = id)).map (·.target)

theorem bare_listener? (subscription : Subscription) :
    subscription.bare.feed.listener? = subscription.feed.listener? := by
  obtain ⟨id, kind, feed⟩ := subscription
  cases feed <;> rfl

/-- Managers of pushed events have a listener for each of their subscriptions, and that of
intervals has none. -/
private theorem numbers_eq {manager : Manager} (sound : manager.bare.Sound) :
    ∀ subscription ∈ manager.subscriptions,
      subscription.feed.listener?.isSome = decide (manager.kind ≠ .time) := by
  intro subscription member
  have present : subscription.bare ∈ manager.bare.subscriptions := List.mem_map_of_mem member
  have fed := sound.fed _ present
  have sourced : subscription.bare.kind.manager = manager.kind := sound.sourced _ present
  rw [bare_listener?] at fed
  rw [fed, ← sourced]
  cases subscription.bare.kind <;> rfl

/-- The lines of a manager that lead to a kind of event. -/
private theorem lines_to {manager : Manager} (sound : manager.bare.Sound) (kind : EventKind) :
    ((manager.bare.lines).filter (·.kind = kind)).map (fun line => some line.id) =
      if manager.kind ≠ .time then
        (manager.subscriptions.filter (·.kind = kind)).map (·.feed.listener?)
      else [] := by
  have each (subscriptions : List Subscription)
      (fed : ∀ subscription ∈ subscriptions,
        subscription.feed.listener?.isSome = decide (manager.kind ≠ .time)) :
      ((subscriptions.filterMap fun subscription => manager.bare.line? subscription.bare).filter
        (·.kind = kind)).map (fun line => some line.id) =
      if manager.kind ≠ .time then
        (subscriptions.filter (·.kind = kind)).map (·.feed.listener?)
      else [] := by
    induction subscriptions with
    | nil => simp
    | cons subscription rest previous =>
        have here := fed subscription List.mem_cons_self
        have later := previous fun other member => fed other (List.mem_cons_of_mem _ member)
        have called : subscription.bare.kind = subscription.kind := rfl
        rw [List.filterMap_cons, Manager.line?, bare_listener?]
        by_cases pushed : manager.kind ≠ .time
        · rw [decide_eq_true pushed] at here
          obtain ⟨id, fed⟩ := Option.isSome_iff_exists.mp here
          rw [if_pos pushed] at later ⊢
          by_cases same : subscription.kind = kind
          · simp [fed, same, called, later]
          · simp [fed, same, called, later]
        · rw [decide_eq_false pushed] at here
          rw [if_neg pushed] at later ⊢
          rw [Option.isSome_eq_false_iff.mp here |> Option.isNone_iff_eq_none.mp]
          exact later
  have lines : manager.bare.lines =
      manager.subscriptions.filterMap fun subscription => manager.bare.line? subscription.bare :=
    List.filterMap_map
  rw [lines]
  exact each manager.subscriptions (numbers_eq sound)

/-- The listeners to a kind of event are those that feed the live subscriptions to it. -/
theorem listeners_perm {host : Host} (sound : host.wiring.Sound) (kind : EventKind) :
    ((host.bus.listenersTo kind).map fun listener => some listener.target).Perm
      ((host.subscribers kind).map host.delivery?) := by
  have numbers : ((host.wiring.lines.filter (·.kind = kind)).map fun line => some line.id) =
      (host.subscribers kind).map (·.feed.listener?) := by
    have each (managers : List Manager)
        (sound : ∀ manager ∈ managers, manager.bare.Sound) :
        ((((managers.map Manager.bare).flatMap Manager.lines).filter (·.kind = kind)).map
          fun line => some line.id) =
        ((managers.filter (·.kind ≠ .time)).flatMap fun manager =>
          manager.subscriptions.filter (·.kind = kind)).map (·.feed.listener?) := by
      induction managers with
      | nil => rfl
      | cons manager rest previous =>
          rw [List.map_cons, List.flatMap_cons, List.filter_append, List.map_append,
            lines_to (sound manager List.mem_cons_self),
            previous fun other member => sound other (List.mem_cons_of_mem _ member)]
          by_cases pushed : manager.kind ≠ .time
          · simp [pushed]
          · simp [pushed]
    exact each host.registry.managers fun manager member =>
      sound.managers _ (List.mem_map_of_mem member)
  have heard := (sound.heard.filter (·.kind = kind)).map fun line => some line.id
  rw [numbers, List.filter_map, List.map_map] at heard
  have found := heard.map fun id? => id?.bind fun id =>
    (host.bus.listeners.find? (·.id = id)).map (·.target)
  rw [List.map_map, List.map_map] at found
  refine .trans (.of_eq (List.map_congr_left fun listener member => ?_)) found
  have present : listener ∈ host.bus.listeners := List.mem_of_mem_filter member
  exact (congrArg (Option.map (·.target)) (find?_key sound.bus.distinct present)).symm

/-- What listeners are told leads through gates that admit it, and names the generation of the
registry. -/
theorem Wiring.Answering.opened {wiring : Wiring} (answering : wiring.Answering)
    (resumed : wiring.registry.resumed = true) {listener : Listener Delivery}
    (member : listener ∈ wiring.bus.listeners) :
    (wiring.gate listener.target.gate).isOpen ∧
      listener.target.generation = wiring.registry.generation := by
  have line := answering.sound.heard.mem_iff.mp (List.mem_map_of_mem (f := Listener.line) member)
  obtain ⟨manager, present, fed⟩ := List.mem_flatMap.mp line
  obtain ⟨subscription, subscribed, described⟩ := List.mem_filterMap.mp fed
  obtain ⟨id, -, equal⟩ := Option.map_eq_some_iff.mp described
  have gated : manager.gate = listener.target.gate := congrArg Line.gate equal
  have aged : manager.generation = listener.target.generation := congrArg Line.generation equal
  refine ⟨?_, aged.symm.trans (answering.sound.uniform manager present)⟩
  rw [← gated]
  cases phase : (wiring.gate manager.gate).phase with
  | pending => exact absurd phase (answering.started resumed manager present)
  | opened => simp [Gate.isOpen, phase]
  | closed =>
      have closed : (wiring.gate manager.gate).isClosed := by simp [Gate.isClosed, phase]
      have empty := answering.vacant manager.gate closed manager present rfl
      rw [empty] at subscribed
      exact absurd subscribed List.not_mem_nil

/-! ## Dispatches -/

/-- One dispatch after the other takes a host to another: each is for the generation that is
current, its gate admits it, and it runs the entry of a schema to its end. -/
inductive Dispatches (publish : Publisher) (payload : Payload) :
    List Delivery → Host → Host → Prop where
  | done (host : Host) : Dispatches publish payload [] host host
  | dispatch {delivery : Delivery} {rest : List Delivery} {host middle last : Host}
      {entered : Gate} {entry : SchemaEntry} {outcome : Outcome}
      (current : delivery.generation = host.generation)
      (admitted : (host.gate delivery.gate).enter? = some entered)
      (found : delivery.schema.entry? delivery.kind = some entry)
      (executed : ran (runEntry publish
          { generation := delivery.generation, owner := delivery.schema.owner, payload }
          (entry.mode = .restart) entry.body)
        (after (changeGate delivery.gate fun _ => entered) host) = (.ok outcome, middle))
      (others : Dispatches publish payload rest
        (after (changeGate delivery.gate Gate.leave) middle) last) :
      Dispatches publish payload (delivery :: rest) host last

/-- Of the dispatches one after the other, none panics and none stops a manager: the gates that
are open stay open. -/
inductive Unhindered (publish : Publisher) (payload : Payload) : List Delivery → Host → Prop where
  | done (host : Host) : Unhindered publish payload [] host
  | dispatch {delivery : Delivery} {rest : List Delivery} {host : Host}
      (ended : (ran (dispatchInside publish delivery payload) host).1 = .ok ())
      (spared : ∀ gate, (host.gate gate).isOpen →
        ((ran (dispatchInside publish delivery payload) host).2.gate gate).isOpen)
      (others : Unhindered publish payload rest
        (ran (dispatchInside publish delivery payload) host).2) :
      Unhindered publish payload (delivery :: rest) host

private theorem entry_of_kinds {schema : EventSchema} {kind : EventKind}
    (known : kind ∈ schema.kinds) : ∃ entry, schema.entry? kind = some entry := by
  obtain ⟨entry, member, named⟩ := List.mem_map.mp known
  exact Option.isSome_iff_exists.mp
    (List.find?_isSome.mpr ⟨entry, member, decide_eq_true named⟩)

private theorem enter?_of_isOpen {gate : Gate} (opened : gate.isOpen) :
    ∃ entered, gate.enter? = some entered := by
  rw [Gate.isOpen, decide_eq_true_eq] at opened
  exact ⟨_, by rw [Gate.enter?, opened]⟩

/-- Deliveries that managers answer are all dispatched where nothing hinders them. -/
theorem deliver_dispatches {publish : Publisher}
    (served : ∀ start event, RunKeeps (Reaches false start) (publish event)) (payload : Payload)
    (listeners : List (Listener Delivery)) {host : Host}
    (opened : ∀ listener ∈ listeners, (host.gate listener.target.gate).isOpen)
    (current : ∀ listener ∈ listeners, listener.target.generation = host.generation)
    (known : ∀ listener ∈ listeners, listener.target.kind ∈ listener.target.schema.kinds)
    (unhindered : Unhindered publish payload (listeners.map (·.target)) host) :
    ∃ last, ran (deliver publish listeners payload) host = (.ok (), last) ∧
      Dispatches publish payload (listeners.map (·.target)) host last := by
  induction listeners generalizing host with
  | nil => exact ⟨host, rfl, .done host⟩
  | cons listener rest previous =>
      rw [List.map_cons] at unhindered
      cases unhindered with
      | dispatch ended spared calm =>
          obtain ⟨entry, found⟩ := entry_of_kinds (known listener List.mem_cons_self)
          obtain ⟨entered, admitted⟩ := enter?_of_isOpen (opened listener List.mem_cons_self)
          have path : Reaches false host
              (ran (dispatchInside publish listener.target payload) host).2 :=
            dispatchInside_reaches (served host) listener.target payload host .refl
          obtain ⟨last, delivered, others⟩ := previous
            (fun other member => spared _ (opened other (List.mem_cons_of_mem _ member)))
            (fun other member => (current other (List.mem_cons_of_mem _ member)).trans
              path.generation_eq.symm)
            (fun other member => known other (List.mem_cons_of_mem _ member)) calm
          have finished : ran (dispatchInside publish listener.target payload) host =
              (.ok (), (ran (dispatchInside publish listener.target payload) host).2) :=
            Prod.ext ended rfl
          refine ⟨last, ?_, ?_⟩
          · rw [deliver, List.forM_eq_forM, List.forM_cons, ran_bind_ok finished]
            exact delivered
          have result := ended
          rw [ran_dispatchInside_admitted admitted] at result others
          rw [dispatch, found] at result others
          generalize executed : ran (runEntry publish _ _ _) _ = dispatched at result others
          obtain ⟨outcome?, middle⟩ := dispatched
          cases outcome? with
          | error failure => cases result
          | ok outcome =>
              exact .dispatch (current listener List.mem_cons_self) admitted found executed others

/-! ## Docile schemas -/

/-- Nobody subscribed since, and the gates that were open are. -/
def Unclosed (start host : Host) : Prop :=
  host.bus = start.bus ∧ ∀ gate, (start.gate gate).isOpen → (host.gate gate).isOpen

section Docile

variable {start : Host}

theorem Unclosed.of_wiring {host next : Host} (unclosed : Unclosed start host)
    (same : next.wiring = host.wiring) : Unclosed start next := by
  have bus : next.bus = host.bus := congrArg Wiring.bus same
  have gate (id : GateId) : next.gate id = host.gate id :=
    congrArg (fun wiring : Wiring => wiring.gate id) same
  exact ⟨bus.trans unclosed.1, fun id opened => gate id ▸ unclosed.2 id opened⟩

/-- Dispatches that enter and leave a gate do not close it. -/
theorem Unclosed.changeGate {host : Host} (unclosed : Unclosed start host) (id : GateId)
    {change : Gate → Gate} (open? : (change (host.gate id)).isOpen = (host.gate id).isOpen) :
    Unclosed start (after (Host.changeGate id change) host) := by
  refine ⟨unclosed.1, fun gate opened => ?_⟩
  have before := unclosed.2 gate opened
  have turned : (after (Host.changeGate id change) host).gate gate =
      if id = gate ∧ gate < host.wiring.gates.length then change (host.gate gate)
      else host.gate gate :=
    Wiring.gate_changeGate host.wiring id gate change
  rw [turned]
  split
  case isTrue here => rw [← here.1, open?, here.1]; exact before
  case isFalse => exact before

private theorem perform_closesNone {publish : Publisher}
    (served : ∀ event, RunKeeps (Unclosed start) (publish event)) (name : String)
    (payload : Payload) {command : Command} (sparing : command ≠ .stopManagers) :
    RunKeeps (Unclosed start) (perform publish name payload command) := by
  cases command with
  | publish event => exact .bind (served event) fun _ => .lift fun _ unclosed => unclosed
  | requestReload =>
      exact .lift fun host unclosed =>
        unclosed.of_wiring (wiring_of_parts (changeLoops_parts _ host))
  | stopManagers => exact absurd rfl sparing
  | fail failure => exact .throw failure
  | _ => exact .lift fun _ unclosed => unclosed

private theorem visit_closesNone {publish : Publisher}
    (served : ∀ event, RunKeeps (Unclosed start) (publish event)) (occasion : Occasion)
    {leaf : Action} (docile : leaf.isDocile) :
    Keeps (Unclosed start) (visit publish occasion leaf) := by
  have handed (name : String) (work : Work) :
      Keeps (Unclosed start) (handOver occasion name work) := by
    refine .bind (fun host unclosed => unclosed.of_wiring (spawn_wiring _ _ _ _ host))
      fun handle? => ?_
    cases handle? with
    | none => exact .pure _
    | some handle => exact .pure _
  have still {α : Type} {step : Step α} (same : ∀ host, (after step host).wiring = host.wiring) :
      Keeps (Unclosed start) step :=
    fun host unclosed => unclosed.of_wiring (same host)
  cases leaf with
  | call name commands =>
      have sparing := List.all_eq_true.mp docile
      refine .bind (still fun _ => rfl) fun _ =>
        .bind (RunKeeps.forM_of_mem fun command member => ?_).attempt fun failure? => ?_
      · exact perform_closesNone served _ _ (of_decide_eq_true (sparing command member))
      · cases failure? with
        | none => exact .pure _
        | some failure => exact .bind (still fun _ => rfl) fun _ => .pure _
  | task name source =>
      refine .bind (still fun _ => rfl) fun _ => ?_
      cases source with
      | job job => exact handed _ _
      | panics message => exact .pure _
  | group name members => exact .pure _
  | after delay actions => exact handed _ _

private theorem runEntry_closesNone {publish : Publisher}
    (served : ∀ event, RunKeeps (Unclosed start) (publish event)) (occasion : Occasion)
    (restart : Bool) {body : ConditionSchema} (docile : ∀ leaf ∈ body.leaves, leaf.isDocile) :
    RunKeeps (Unclosed start) (runEntry publish occasion restart body) := by
  have announced (item : Reached) : Keeps (Unclosed start) (announce occasion.generation item) := by
    refine .bind (fun _ unclosed => unclosed) fun _ =>
      .bind (.forM (fun _ _ unclosed => unclosed) _) fun _ => ?_
    split
    · exact fun _ unclosed => unclosed
    · exact .pure _
  refine .get fun host unclosed => ?_
  have executed (outcome : Outcome) : RunKeeps (Unclosed start)
      (executeAll publish occasion (body.selected (body.reach
        (Condition.evaluateIn host.world occasion.payload))).flatten outcome) := by
    rw [executeAll_eq, ConditionSchema.selected_eq]
    refine .foldlM_of_mem (fun leaf member outcome => ?_) _
    refine .bind (.lift (visit_closesNone served occasion
      (docile leaf (ConditionSchema.matching_leaves _ _ member)))) fun fate => ?_
    cases fate with
    | escaped failure => exact .throw _
    | _ => exact .pure _
  dsimp only
  split
  · exact unclosed
  · refine RunKeeps.bind (.forM (fun item => .lift (announced item)) _) (fun _ => ?_) host unclosed
    split
    · refine .bind (.lift ?_) fun _ => executed _
      cases occasion.owner with
      | none => exact .pure _
      | some owner => exact fun _ unclosed => unclosed
    · exact .bind (.pure _) fun _ => executed _

private theorem dispatchInside_closesNone {publish : Publisher}
    (served : ∀ event, RunKeeps (Unclosed start) (publish event)) {delivery : Delivery}
    (docile : delivery.schema.Docile) (payload : Payload) :
    RunKeeps (Unclosed start) (dispatchInside publish delivery payload) := by
  intro host unclosed
  change Unclosed start (ran (dispatchInside publish delivery payload) host).2
  cases admitted : (host.gate delivery.gate).enter? with
  | none =>
      rw [ran_dispatchInside_refused admitted]
      exact unclosed
  | some entered =>
      obtain ⟨opened, inside⟩ := Gate.enter?_eq_some admitted
      have entering : Unclosed start
          (after (Host.changeGate delivery.gate fun _ => entered) host) :=
        unclosed.changeGate _ (by rw [inside]; rfl)
      have dispatched : RunKeeps (Unclosed start)
          (dispatch publish delivery.generation delivery.schema delivery.kind payload) := by
        unfold dispatch
        split
        · exact .pure _
        · case h_2 entry found =>
            exact runEntry_closesNone served _ _ (docile entry (List.mem_of_find?_eq_some found))
      rw [ran_dispatchInside_admitted admitted]
      exact (dispatched _ entering).changeGate _ rfl

/-- Where all that is listened to is docile, a publication closes no gate, however deep events
are nested. -/
theorem publishWithin_closesNone
    (docile : ∀ listener ∈ start.bus.listeners, listener.target.schema.Docile) (depth : Nat)
    (event : Event) : RunKeeps (Unclosed start) (publishWithin depth event) := by
  induction depth generalizing event with
  | zero => exact .throw _
  | succ depth nested =>
      refine .get fun host unclosed => ?_
      refine RunKeeps.bind (.forM_of_mem fun listener member => ?_) (fun _ => .pure _) host unclosed
      have listening : listener ∈ start.bus.listeners := unclosed.1 ▸ List.mem_of_mem_filter member
      exact dispatchInside_closesNone nested (docile listener listening) _

end Docile

/-- Leaf actions that are docile give their work when they are asked for it. -/
theorem gives_of_isDocile {leaf : Action} (docile : leaf.isDocile) : leaf.gives := by
  cases leaf with
  | call name commands => rfl
  | _ => exact docile

/-- A dispatch of a docile schema does not panic. -/
theorem dispatchInside_docile {delivery : Delivery} (docile : delivery.schema.Docile)
    (depth : Nat) (payload : Payload) (host : Host) :
    (ran (dispatchInside (publishWithin depth) delivery payload) host).1 = .ok () := by
  cases admitted : (host.gate delivery.gate).enter? with
  | none => rw [ran_dispatchInside_refused admitted]
  | some entered =>
      have refined := dispatch_refines depth delivery.generation delivery.schema delivery.kind
        payload (after (changeGate delivery.gate fun _ => entered) host)
        fun entry found leaf due => gives_of_isDocile
          (docile entry (List.mem_of_find?_eq_some found) leaf
            (ConditionSchema.matching_leaves _ _ due))
      rw [ran_dispatchInside_admitted admitted, Prod.map_fst, refined.1]
      rfl

private theorem deliveries_unhindered {host : Host}
    (docile : ∀ listener ∈ host.bus.listeners, listener.target.schema.Docile) (depth : Nat)
    (payload : Payload) {deliveries : List Delivery}
    (told : ∀ delivery ∈ deliveries, delivery.schema.Docile) :
    Unhindered (publishWithin depth) payload deliveries host := by
  induction deliveries generalizing host with
  | nil => exact .done host
  | cons delivery rest previous =>
      have here := told delivery List.mem_cons_self
      have unclosed : Unclosed host
          (ran (dispatchInside (publishWithin depth) delivery payload) host).2 :=
        dispatchInside_closesNone (publishWithin_closesNone docile depth) here payload host
          ⟨rfl, fun _ => id⟩
      refine .dispatch (dispatchInside_docile here depth payload host) unclosed.2 (previous ?_ ?_)
      · rw [unclosed.1]
        exact docile
      · exact fun other member => told other (List.mem_cons_of_mem _ member)

/-- Where all that is listened to is docile, no publication is hindered. -/
theorem publish_unhindered (host : Host)
    (docile : ∀ listener ∈ host.bus.listeners, listener.target.schema.Docile) (depth : Nat)
    (event : Event) :
    Unhindered (publishWithin depth) event.payload
      ((host.bus.listenersTo event.kind).map (·.target)) host := by
  refine deliveries_unhindered docile depth event.payload fun delivery member => ?_
  obtain ⟨listener, present, rfl⟩ := List.mem_map.mp member
  exact docile listener (List.mem_of_mem_filter present)

/-! ## Publications -/

/-- After every history, an event that is published where managers of the current generation were
let deliver, and where no dispatch panics or stops a manager, is delivered to as many as
subscribed to its kind. What happens is that each live subscription has the entry of its schema
for that kind dispatched once, under the current generation and with the payload of the event. -/
theorem publish_dispatches_each_once {operations : List Operation}
    (scripted : ∀ operation ∈ operations, operation.Scripted) (config : ScriptingConfig)
    (dataDirectory : String) (tree : FileTree) (vocabulary : Vocabulary) (shelf : ScriptShelf)
    {host : Host}
    (reached : host = after (run operations)
      (create config dataDirectory tree vocabulary shelf))
    (resumed : host.registry.resumed = true)
    (current : host.registry.generation = host.generation) (event : Event)
    (unhindered : Unhindered (publishWithin (nestingLimit - 1)) event.payload
      ((host.bus.listenersTo event.kind).map (·.target)) host) :
    ∃ deliveries last,
      (deliveries.map some).Perm ((host.subscribers event.kind).map host.delivery?) ∧
      (∀ delivery ∈ deliveries,
        delivery.kind = event.kind ∧ delivery.generation = host.generation) ∧
      ran (publish event) host = (.ok (host.subscribers event.kind).length, last) ∧
      Dispatches (publishWithin (nestingLimit - 1)) event.payload deliveries host last := by
  have answering : host.wiring.Answering :=
    reached ▸ run_answering scripted config dataDirectory tree vocabulary shelf
  have perm := listeners_perm answering.sound event.kind
  have listening : ∀ listener ∈ host.bus.listenersTo event.kind,
      listener ∈ host.bus.listeners ∧ listener.kind = event.kind := by
    intro listener member
    exact (List.mem_filter.mp member).imp_right of_decide_eq_true
  have answered := fun listener member =>
    answering.opened resumed (listening listener member).1
  have aged : ∀ listener ∈ host.bus.listenersTo event.kind,
      listener.target.generation = host.generation :=
    fun listener member => (answered listener member).2.trans current
  have bound := fun listener member => answering.bound listener (listening listener member).1
  obtain ⟨last, delivered, dispatches⟩ := deliver_dispatches
    (fun _ => publishWithin_reaches (nestingLimit - 1)) event.payload
    (host.bus.listenersTo event.kind) (fun listener member => (answered listener member).1) aged
    (fun listener member => (bound listener member).1 ▸ (bound listener member).2) unhindered
  have counted : (host.bus.listenersTo event.kind).length =
      (host.subscribers event.kind).length := by
    have lengths := perm.length_eq
    rwa [List.length_map, List.length_map] at lengths
  refine ⟨_, last, ?_, ?_, ?_, dispatches⟩
  · rw [List.map_map]
    exact perm
  · intro delivery member
    obtain ⟨listener, present, rfl⟩ := List.mem_map.mp member
    exact ⟨(bound listener present).1.trans (listening listener present).2, aged listener present⟩
  · have published : publish event = publishWithin ((nestingLimit - 1) + 1) event := rfl
    rw [published, publishWithin, ran_get_bind, ran_bind_ok delivered, ran_pure, counted]

/-- A native script that answers one event with another, and listens to both. -/
private def echo : NativeScript where
  name := "echo"
  onLoad _ := [
    .register false (.ok [
      { key := "call"
        body := .unconditional (.one (.call "answer" [.publish ⟨.bus "echo", .none⟩])) },
      { key := "echo", body := .unconditional (.one (.call "fade" [.report])) }])]

/-- Two files that name this script. -/
private def valleyTree : FileTree :=
  (FileTree.put {} "data/scripts/a.toml" ⟨.file "script = \"echo\"\n".toUTF8, 0⟩).put
    "data/scripts/b.toml" ⟨.file "script = \"echo\"\n".toUTF8, 0⟩

/-- A host that has loaded them. -/
def valley : Host :=
  after (run [.reload 1]) (create {} "data" valleyTree {} [("echo", echo)])

theorem publish_dispatches_each_once_valley :
    (valley.subscribers (.bus "call")).length = 2 ∧
      ∃ last, ran (publish ⟨.bus "call", .none⟩) valley = (.ok 2, last) := by
  have scripted : ∀ operation ∈ [Operation.reload 1], operation.Scripted := by
    simp [Operation.Scripted]
  have docile : ∀ listener ∈ valley.bus.listeners, listener.target.schema.Docile := by
    decide +kernel
  have resumed : valley.registry.resumed = true := by decide +kernel
  have current : valley.registry.generation = valley.generation := by decide +kernel
  have count : (valley.subscribers (.bus "call")).length = 2 := by decide +kernel
  have unhindered := publish_unhindered valley docile (nestingLimit - 1) ⟨.bus "call", .none⟩
  have reached : valley = after (run [.reload 1])
      (create {} "data" valleyTree {} [("echo", echo)]) :=
    rfl
  obtain ⟨-, last, -, -, published, -⟩ := publish_dispatches_each_once scripted {} "data"
    valleyTree {} [("echo", echo)] reached resumed current ⟨.bus "call", .none⟩ unhindered
  exact ⟨count, last, count ▸ published⟩

end Host

end HomeRules
