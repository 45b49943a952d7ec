import HomeRules.Proofs.Host.Holdings

/-!
# Dormant managers

While scripts load no manager delivers, so none has started a timer. Then nothing that managers
do starts or ends a task, and stopping them all leaves nothing but the tasks of the scripts.
-/

set_option autoImplicit false

namespace HomeRules.Host

/-- A manager does not deliver, and runs no timer. -/
structure Asleep (gates : List Gate) (manager : Manager) : Prop where
  shut : ((gates[manager.gate]?).getD {}).phase ≠ .opened
  untimed : ∀ subscription ∈ manager.subscriptions, subscription.feed.task? = none

/-- No manager delivers, and neither will new ones. -/
structure Dormant (host : Host) : Prop where
  unresumed : host.registry.resumed = false
  asleep : ∀ manager ∈ host.registry.managers, Asleep host.gates manager

namespace Dormant

variable {host : Host} (dormant : Dormant host)
include dormant

theorem of_same {next : Host} (registry : next.registry = host.registry)
    (gates : next.gates = host.gates) : Dormant next := by
  refine ⟨registry ▸ dormant.unresumed, ?_⟩
  rw [registry, gates]
  exact dormant.asleep

theorem update {manager : Manager} (asleep : Asleep host.gates manager) :
    Dormant { host with registry := host.registry.update manager } := by
  refine ⟨dormant.unresumed, fun other member => ?_⟩
  obtain ⟨old, present, rfl⟩ := List.mem_map.mp member
  split
  · exact asleep
  · exact dormant.asleep old present

theorem untimed (kind : ManagerKind) :
    ∀ subscription ∈ host.subscriptions kind, subscription.feed.task? = none := by
  intro subscription member
  cases found : host.registry.manager? kind with
  | none => simp [subscriptions, found] at member
  | some manager =>
      rw [subscriptions_of_manager? found] at member
      exact (dormant.asleep manager (List.mem_of_find?_eq_some found)).untimed _ member

/-- A manager without subscriptions that is added sleeps like the others. -/
theorem add (kind : ManagerKind) (generation : Generation) :
    Dormant (host.addManager kind generation) := by
  have same (id : GateId) :
      ((host.gates ++ [({} : Gate)])[id]?).getD {} = (host.gates[id]?).getD {} := by
    rcases Nat.lt_trichotomy id host.gates.length with before | rfl | beyond
    · rw [List.getElem?_append_left before]
    · simp
    · have longer : (host.gates ++ [({} : Gate)]).length ≤ id := by
        rw [List.length_append]
        exact beyond
      rw [List.getElem?_eq_none longer, List.getElem?_eq_none (Nat.le_of_lt beyond)]
  refine ⟨dormant.unresumed, fun manager member => ?_⟩
  rcases List.mem_cons.mp ((Registry.insertManager_perm _ _).mem_iff.mp member) with rfl | old
  · refine ⟨?_, fun subscription live => absurd live List.not_mem_nil⟩
    simp [addManager]
  · have asleep := dormant.asleep manager old
    refine ⟨?_, asleep.untimed⟩
    rw [addManager, same]
    exact asleep.shut

end Dormant

/-- Where there is no manager yet, none is awake. -/
theorem cleared_dormant {host : Host} (unresumed : host.registry.resumed = false)
    (stands : host.wiring.standing = fun _ => none) : Dormant host := by
  refine ⟨unresumed, fun manager member => ?_⟩
  have none := congrFun stands manager.kind
  rw [Wiring.standing, wiring_manager?, Option.map_map, Option.map_eq_none_iff] at none
  simpa using List.find?_eq_none.mp none manager member

theorem needManager_dormant (kind : ManagerKind) (generation : Generation) :
    Keeps Dormant (needManager kind generation) := by
  have created {host : Host} (dormant : Dormant host) :
      Dormant (after (createManager kind generation) host) := by
    have added := dormant.add kind generation
    rw [after_createManager, if_neg (by simp [added.unresumed])]
    exact added
  intro host dormant
  rw [needManager, after_get_bind]
  split
  · exact dormant
  split
  · exact dormant
  split
  · exact dormant
  split
  · have renewed : Dormant { host with registry := { generation } } :=
      ⟨rfl, fun _ member => absurd member List.not_mem_nil⟩
    exact created renewed
  · exact created dormant

theorem subscribe_dormant (managerKind : ManagerKind) (kind : EventKind) (schema : EventSchema) :
    Keeps Dormant (subscribe managerKind kind schema) := by
  intro host dormant
  rcases subscribe_spec managerKind kind schema host with ⟨-, untouched⟩ |
    ⟨manager, feed, opened, found, opens, timed, -, reached⟩
  · rw [untouched]
    exact dormant
  · have asleep := dormant.asleep manager (List.mem_of_find?_eq_some found)
    have untimed : feed.task? = none := by
      refine timed.resolve_right fun delivers => asleep.shut ?_
      simpa [gate, Gate.isOpen] using delivers
    obtain ⟨registry, gates⟩ := opens.managers
    have listening : Dormant opened := dormant.of_same registry gates
    rw [reached, ← registry]
    refine listening.update ⟨?_, fun subscription member => ?_⟩
    · rw [gates]
      exact asleep.shut
    · rcases List.mem_append.mp member with old | new
      · exact asleep.untimed subscription old
      · rw [List.mem_singleton.mp new]
        exact untimed

theorem spawn_dormant (name : String) (generation : Generation) (owner : Option String)
    (work : Work) : Keeps Dormant (spawn name generation owner work) := by
  refine .get fun host dormant => ?_
  split
  · exact dormant.of_same rfl rfl
  · exact dormant

private theorem closeFeed_dormant (feed : Feed) : Keeps Dormant (closeFeed feed) := by
  intro host dormant
  refine dormant.of_same (closeFeed_spec feed host).1 ?_
  cases feed with
  | listener id => rfl
  | timer period schema task? => cases task? <;> rfl

private theorem unsubscribe_dormant (kind : ManagerKind) (id : Nat) :
    Keeps Dormant (unsubscribe kind id) := by
  intro host dormant
  rw [unsubscribe, after_get_bind]
  cases found : host.registry.manager? kind with
  | none => exact dormant
  | some manager =>
      have asleep := dormant.asleep manager (List.mem_of_find?_eq_some found)
      dsimp only
      cases manager.subscriptions.find? (·.id = id) with
      | none => exact dormant
      | some subscription =>
          have fewer : Asleep host.gates { manager with
              subscriptions := manager.subscriptions.filter (·.id ≠ id) } :=
            ⟨asleep.shut, fun other member => asleep.untimed other (List.mem_of_mem_filter member)⟩
          exact closeFeed_dormant subscription.feed _ (dormant.update fewer)

theorem dormant_booking : Booking Dormant where
  unsubscribe := unsubscribe_dormant
  records _ _ dormant := ⟨dormant.unresumed, dormant.asleep⟩
  needManager := needManager_dormant
  subscribe := subscribe_dormant

theorem retract_dormant (context : LoadContext) : Keeps Dormant (retract context) :=
  dormant_booking.retract (fun _ _ dormant => dormant.of_same rfl rfl) context

/-! ## Stopping all managers -/

/-- The generation of a manager and the number of its next subscription. -/
def tag (host : Host) (kind : ManagerKind) : Option (Generation × Nat) :=
  (host.registry.manager? kind).map fun manager => (manager.generation, manager.nextId)

/-- Subscriptions and listeners were dropped, and nothing else happened. -/
structure Hushed (host next : Host) : Prop where
  dormant : Dormant next
  tag : next.tag = host.tag
  nextListener : next.bus.nextId = host.bus.nextId
  supervisor : next.supervisor = host.supervisor

section Hushed

variable {start : Host}

private theorem closeFeed_hushed {feed : Feed} (untimed : feed.task? = none) :
    Keeps (Hushed start) (closeFeed feed) := by
  intro host hushed
  obtain ⟨registry, bus, supervisor⟩ := closeFeed_spec feed host
  refine ⟨closeFeed_dormant feed host hushed.dormant, ?_, ?_, ?_⟩
  · rw [← hushed.tag]
    funext kind
    rw [Host.tag, registry]
    rfl
  · rw [bus]
    exact hushed.nextListener
  · rw [supervisor, ← hushed.supervisor]
    simp [untimed]

/-- Closing a gate wakes no manager. -/
private theorem Asleep.closing {gates : List Gate} {manager : Manager}
    (asleep : Asleep gates manager) (gate : GateId) :
    Asleep (gates.modify gate Gate.closing) manager := by
  refine ⟨?_, asleep.untimed⟩
  have shut := asleep.shut
  rw [List.getElem?_modify]
  cases placed : gates[manager.gate]? with
  | none => exact GatePhase.noConfusion
  | some own =>
      rw [placed] at shut
      by_cases same : gate = manager.gate
      · simp [same, Gate.closing]
      · simpa [same] using shut

/-- A manager whose gate is closed gives up its subscriptions. -/
private theorem Hushed.emptied {host : Host} (hushed : Hushed start host)
    {kind : ManagerKind} {manager : Manager}
    (found : host.registry.manager? kind = some manager) (journal : Journal) :
    Hushed start { host with
      gates := host.gates.modify manager.gate Gate.closing
      registry := host.registry.update { manager with subscriptions := [] }
      journal } := by
  obtain ⟨member, named⟩ := Registry.of_manager? found
  have asleep := hushed.dormant.asleep manager member
  let closed : Host := { host with
    gates := host.gates.modify manager.gate Gate.closing
    journal }
  have dormant : Dormant closed :=
    ⟨hushed.dormant.unresumed, fun other member =>
      (hushed.dormant.asleep other member).closing manager.gate⟩
  let empty : Manager := { manager with subscriptions := [] }
  have silent : Asleep closed.gates empty :=
    ⟨(asleep.closing _).shut, fun _ live => absurd live List.not_mem_nil⟩
  refine ⟨dormant.update silent, ?_, hushed.nextListener, hushed.supervisor⟩
  rw [← hushed.tag]
  funext other
  have placed := manager?_updated empty { closed with registry := host.registry.update empty } found
    named rfl other
  rw [Host.tag, Host.tag, placed]
  split
  case isTrue here => rw [here, found]; rfl
  case isFalse => rfl

theorem stopManager_hushed (kind : ManagerKind) : Keeps (Hushed start) (stopManager kind) := by
  intro host hushed
  cases found : host.registry.manager? kind with
  | none =>
      rw [stopManager, after_get_bind, found]
      exact hushed
  | some manager =>
      have asleep := hushed.dormant.asleep manager (List.mem_of_find?_eq_some found)
      obtain ⟨journal, stopped⟩ := after_stopManager found
      rw [stopped]
      exact Keeps.forM_of_mem (fun subscription member => .bind
        (closeFeed_hushed (asleep.untimed subscription member)) fun _ => .pure _) _
        (hushed.emptied found journal)

theorem stopRegistry_hushed {host : Host} (dormant : Dormant host) :
    Hushed host (after stopRegistry host) := by
  have stopped : Keeps (Hushed host) ((managerKinds host).mapM stopManager) :=
    .mapM stopManager_hushed _
  exact stopped host ⟨dormant, rfl, rfl, rfl⟩

end Hushed

/-- A host without subscriptions and listeners. -/
def silenced (host : Host) : Host :=
  { host with
    bus := { host.bus with listeners := [] }
    registry := { host.registry with
      managers := host.registry.managers.map fun manager => { manager with subscriptions := [] } } }

section Silenced

variable {base host : Host} {held : List Handle} {tasks : List TaskId}

private theorem silenced_manager? (host : Host) (kind : ManagerKind) :
    host.silenced.registry.manager? kind =
      (host.registry.manager? kind).map fun manager => { manager with subscriptions := [] } := by
  simp only [silenced, Registry.manager?, List.find?_map]
  rfl

theorem silenced_number (host : Host) : host.silenced.number = host.number := by
  funext kind
  rw [number, number, silenced_manager?]
  cases host.registry.manager? kind <;> rfl

theorem silenced_subscriptions (host : Host) : host.silenced.subscriptions = fun _ => [] := by
  funext kind
  rw [subscriptions, silenced_manager?]
  cases host.registry.manager? kind <;> rfl

private theorem tagged {host next : Host} (same : next.tag = host.tag) {kind : ManagerKind}
    {manager : Manager} (found : host.registry.manager? kind = some manager) :
    ∃ other, next.registry.manager? kind = some other ∧
      other.generation = manager.generation ∧ other.nextId = manager.nextId := by
  have shared := congrFun same kind
  unfold tag at shared
  rw [found] at shared
  obtain ⟨other, present, equal⟩ := Option.map_eq_some_iff.mp shared
  exact ⟨other, present, congrArg Prod.fst equal, congrArg Prod.snd equal⟩

private theorem number_of_tag {host next : Host} (same : next.tag = host.tag) :
    next.number = host.number := by
  funext kind
  cases found : host.registry.manager? kind with
  | none =>
      have shared := congrFun same kind
      unfold tag at shared
      rw [found] at shared
      rw [number, number, found, Option.map_eq_none_iff.mp shared]
  | some manager =>
      obtain ⟨other, present, -, count⟩ := tagged same found
      rw [number_of_manager? found, number_of_manager? present, count]

private theorem subscriptions_eq_nil {host : Host} (unsubscribed : host.wiring.Unsubscribed)
    (kind : ManagerKind) : host.subscriptions kind = [] := by
  cases found : host.registry.manager? kind with
  | none => rw [subscriptions, found]; rfl
  | some manager =>
      rw [subscriptions_of_manager? found]
      have present := List.mem_of_find?_eq_some found
      exact List.map_eq_nil_iff.mp (unsubscribed manager.bare (List.mem_map_of_mem present))

/-- When all managers are stopped, only tasks are left, and only those that were spawned. -/
theorem Accounted.stopRegistry (accounted : Accounted base held tasks host)
    (sound : host.wiring.Sound) (dormant : Dormant host) :
    Accounted base.silenced held tasks (after stopRegistry host) := by
  have hushed := stopRegistry_hushed dormant
  have path : Reaches true host (after Host.stopRegistry host) := stopRegistry_reaches host .refl
  have stopped := stopRegistry_unsubscribed host
  have heard := (path.sound sound).heard
  generalize after Host.stopRegistry host = next at *
  have none := subscriptions_eq_nil stopped
  have silent : next.bus.listeners = [] := by
    rw [stopped.lines_eq] at heard
    exact List.map_eq_nil_iff.mp heard.eq_nil
  have stale (kind : ManagerKind) (subscription : Subscription) :
      ¬Fresh base.silenced next kind subscription := by
    intro fresh
    have live := fresh.live
    rw [none] at live
    cases live
  constructor
  · constructor
    · rw [silenced_number, number_of_tag hushed.tag]
      exact accounted.number
    · rw [hushed.nextListener]
      exact accounted.nextListener
    · rw [hushed.supervisor]
      exact accounted.nextTask
    · intro kind
      rw [silenced_subscriptions, none, List.filter_nil]
    · rw [silent]
      rfl
    · rw [running, hushed.supervisor]
      exact accounted.running
  · intro handle member
    obtain ⟨since, manager, found, aged⟩ := accounted.known handle member
    obtain ⟨other, present, same, -⟩ := tagged hushed.tag found
    rw [silenced_number]
    exact ⟨since, other, present, same.trans aged⟩
  · exact accounted.issued
  · exact fun kind subscription fresh => absurd fresh (stale kind subscription)
  · exact fun kind subscription fresh => absurd fresh (stale kind subscription)
  · intro listener member
    rw [silent] at member
    cases member
  · intro task member since
    rw [hushed.supervisor] at member
    rcases accounted.tracked task member since with own | timed
    · exact .inl own
    · obtain ⟨kind, subscription, fresh, fed⟩ := timed
      rw [dormant.untimed kind subscription fresh.live] at fed
      cases fed

end Silenced

end HomeRules.Host
