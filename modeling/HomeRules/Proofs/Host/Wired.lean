import HomeRules.Proofs.Host.Change
import HomeRules.Proofs.Host.Wiring

/-!
# Sound wirings

A wiring is sound when the listeners of the platform are exactly those that feed the
live subscriptions, and every number that identifies something does so uniquely.
Every change of a host keeps its wiring sound. In particular no listener outlives
its subscription, whatever was subscribed, dropped, stopped or cleared before.
-/

set_option autoImplicit false

namespace HomeRules

/-! ## What feeds what -/

/-- Whether the platform pushes events of a kind. Those of intervals are ticks of
timers. -/
def EventKind.isPushed : EventKind → Bool
  | .interval _ => false
  | _ => true

/-- What a listener and the subscription that it feeds agree on. -/
structure Line where
  id : Nat
  kind : EventKind
  gate : GateId
  generation : Generation
  deriving DecidableEq, Repr

def Listener.line (listener : Listener Delivery) : Line where
  id := listener.id
  kind := listener.kind
  gate := listener.target.gate
  generation := listener.target.generation

def Feed.listener? : Feed → Option Nat
  | .listener id => some id
  | .timer _ _ _ => none

namespace Manager

/-- The line of a subscription to pushed events. -/
def line? (manager : Manager) (subscription : Subscription) : Option Line :=
  subscription.feed.listener?.map fun id =>
    { id, kind := subscription.kind, gate := manager.gate, generation := manager.generation }

def lines (manager : Manager) : List Line :=
  manager.subscriptions.filterMap manager.line?

theorem lines_append (manager : Manager) (nextId : Nat) (subscription : Subscription) :
    ({ manager with
      nextId, subscriptions := manager.subscriptions ++ [subscription] } : Manager).lines =
      manager.lines ++ (manager.line? subscription).toList := by
  unfold lines
  rw [List.filterMap_append]
  congr 1

def handle (manager : Manager) (subscription : Subscription) : Handle where
  id := subscription.id
  manager := manager.kind
  kind := subscription.kind
  generation := manager.generation

/-- The handles of the live subscriptions of a manager. -/
def handles (manager : Manager) : List Handle :=
  manager.subscriptions.map manager.handle

theorem handles_append (manager : Manager) (nextId : Nat) (subscription : Subscription) :
    ({ manager with
      nextId, subscriptions := manager.subscriptions ++ [subscription] } : Manager).handles =
      manager.handles ++ [manager.handle subscription] :=
  List.map_append

/-- The subscriptions of a manager are told apart by their numbers, none of which
will be used again. They belong to the source of the manager, and a listener feeds those
to pushed events. -/
structure Sound (manager : Manager) : Prop where
  distinct : (manager.subscriptions.map (·.id)).Nodup
  bounded : ∀ subscription ∈ manager.subscriptions, subscription.id < manager.nextId
  sourced : ∀ subscription ∈ manager.subscriptions, subscription.kind.manager = manager.kind
  fed : ∀ subscription ∈ manager.subscriptions,
    subscription.feed.listener?.isSome = subscription.kind.isPushed

theorem Sound.empty (manager : Manager) (none : manager.subscriptions = []) : manager.Sound := by
  refine ⟨?_, ?_, ?_, ?_⟩ <;> simp [none]

/-- The subscription with a number, and the others. -/
theorem Sound.perm_filter {manager : Manager} (sound : manager.Sound) {id : Nat}
    {subscription : Subscription}
    (present : manager.subscriptions.find? (·.id = id) = some subscription) :
    manager.subscriptions.Perm
      (subscription :: manager.subscriptions.filter (·.id ≠ id)) := by
  obtain ⟨named, before, rest, split, others⟩ := List.find?_eq_some_iff_append.mp present
  have named : subscription.id = id := by simpa using named
  have distinct := sound.distinct
  rw [split, List.map_append, List.map_cons, List.nodup_append, List.nodup_cons] at distinct
  have earlier : before.filter (·.id ≠ id) = before := by
    rw [List.filter_eq_self]
    exact fun other member => by simpa using others other member
  have later : rest.filter (·.id ≠ id) = rest := by
    rw [List.filter_eq_self]
    intro other member
    have apart : other.id ≠ id := fun same =>
      distinct.2.1.1 (named.trans same.symm ▸ List.mem_map_of_mem member)
    simpa using apart
  have gone : (subscription :: rest).filter (·.id ≠ id) = rest := by
    rw [List.filter_cons_of_neg (by simpa using named), later]
  rw [split, List.filter_append, earlier, gone]
  exact List.perm_middle

theorem Sound.append {manager : Manager} (sound : manager.Sound) {kind : EventKind}
    (sourced : kind.manager = manager.kind) {feed : Feed}
    (fed : feed.listener?.isSome = kind.isPushed) :
    Sound { manager with
      nextId := manager.nextId + 1
      subscriptions := manager.subscriptions ++ [{ id := manager.nextId, kind, feed }] } := by
  have fresh : manager.nextId ∉ manager.subscriptions.map (·.id) := by
    intro member
    obtain ⟨subscription, present, same⟩ := List.mem_map.mp member
    exact Nat.ne_of_lt (sound.bounded subscription present) same
  have all {fact : Subscription → Prop} (old : ∀ subscription ∈ manager.subscriptions,
      fact subscription) (new : fact { id := manager.nextId, kind, feed }) :
      ∀ subscription ∈ manager.subscriptions ++ [{ id := manager.nextId, kind, feed }],
        fact subscription := by
    intro subscription member
    rcases List.mem_append.mp member with earlier | last
    · exact old subscription earlier
    · exact List.mem_singleton.mp last ▸ new
  refine ⟨?_, all (fun subscription member => ?_) (Nat.lt_succ_self _),
    all sound.sourced sourced, all sound.fed fed⟩
  · rw [List.map_append]
    exact List.perm_append_comm.nodup_iff.mp (List.nodup_cons.mpr ⟨fresh, sound.distinct⟩)
  · exact Nat.lt_succ_of_lt (sound.bounded subscription member)

end Manager

/-- Listeners are told apart by their numbers, none of which will be used again. -/
structure Bus.Sound {τ : Type} (bus : Bus τ) : Prop where
  distinct : (bus.listeners.map (·.id)).Nodup
  bounded : ∀ listener ∈ bus.listeners, listener.id < bus.nextId

namespace Host.Wiring

def lines (wiring : Wiring) : List Line :=
  wiring.registry.managers.flatMap Manager.lines

def handles (wiring : Wiring) : List Handle :=
  wiring.registry.managers.flatMap Manager.handles

/-- There is one manager for a source, with a gate of its own, and the listeners of the
platform are those that feed subscriptions. -/
structure Sound (wiring : Wiring) : Prop where
  bus : wiring.bus.Sound
  managers : ∀ manager ∈ wiring.registry.managers, manager.Sound
  distinct : (wiring.registry.managers.map (·.kind)).Nodup
  uniform : ∀ manager ∈ wiring.registry.managers,
    manager.generation = wiring.registry.generation
  gated : ∀ manager ∈ wiring.registry.managers, manager.gate < wiring.gates.length
  apart : (wiring.registry.managers.map (·.gate)).Nodup
  heard : (wiring.bus.listeners.map Listener.line).Perm wiring.lines

theorem Sound.empty : ({ bus := {}, gates := [], registry := {} } : Wiring).Sound :=
  ⟨⟨.nil, fun _ member => absurd member List.not_mem_nil⟩,
    fun _ member => absurd member List.not_mem_nil, .nil,
    fun _ member => absurd member List.not_mem_nil,
    fun _ member => absurd member List.not_mem_nil, .nil, .nil⟩

/-! ## One manager among others -/

/-- The manager of a source has a place in the registry, and what replaces it takes
this place. -/
theorem Sound.split {wiring : Wiring} (sound : wiring.Sound) {kind : ManagerKind}
    {manager : Manager} (found : wiring.registry.manager? kind = some manager) :
    manager.kind = kind ∧ ∃ before rest, wiring.registry.managers = before ++ manager :: rest ∧
      ∀ next : Manager, next.kind = kind →
        (wiring.registry.update next).managers = before ++ next :: rest := by
  obtain ⟨named, before, rest, placed, others⟩ := List.find?_eq_some_iff_append.mp found
  have named : manager.kind = kind := by simpa using named
  refine ⟨named, before, rest, placed, fun next same => ?_⟩
  have distinct := sound.distinct
  rw [placed, List.map_append, List.map_cons, List.nodup_append] at distinct
  obtain ⟨-, tail, apart⟩ := distinct
  have earlier : ∀ other ∈ before, other.kind ≠ next.kind := by
    intro other member equal
    simpa [equal, same] using others other member
  have later : ∀ other ∈ rest, other.kind ≠ next.kind := by
    intro other member equal
    refine (List.nodup_cons.mp tail).1 ?_
    rw [named, ← same, ← equal]
    exact List.mem_map_of_mem member
  have unchanged (managers : List Manager) (apart : ∀ other ∈ managers, other.kind ≠ next.kind) :
      (managers.map fun old => if old.kind = next.kind then next else old) = managers :=
    (List.map_congr_left fun old member => if_neg (apart old member)).trans (List.map_id _)
  have replaced : (if manager.kind = next.kind then next else manager) = next :=
    if_pos (named.trans same.symm)
  simp only [Registry.update, placed, List.map_append, List.map_cons, unchanged before earlier,
    unchanged rest later, replaced]

/-- Listeners whose numbers are on gone lines are all that feeds these lines. -/
theorem drop_lines {listeners : List (Listener Delivery)} {gone others : List Line}
    (heard : (listeners.map Listener.line).Perm (gone ++ others))
    (distinct : (listeners.map (·.id)).Nodup) :
    ((listeners.filter fun listener => listener.id ∉ gone.map (·.id)).map Listener.line).Perm
      others := by
  have numbers : ((gone ++ others).map (·.id)).Nodup := by
    have same := heard.map (·.id)
    rw [List.map_map] at same
    exact same.nodup_iff.mp distinct
  rw [List.map_append, List.nodup_append] at numbers
  have dropped : gone.filter (fun line => line.id ∉ gone.map (·.id)) = [] := by
    simp only [List.filter_eq_nil_iff, decide_eq_true_eq, not_not]
    exact fun line member => List.mem_map_of_mem member
  have kept : others.filter (fun line => line.id ∉ gone.map (·.id)) = others := by
    simp only [List.filter_eq_self, decide_eq_true_eq]
    exact fun line member dropped =>
      numbers.2.2 _ dropped _ (List.mem_map_of_mem member) rfl
  have filtered := heard.filter fun line => line.id ∉ gone.map (·.id)
  rw [List.filter_append, dropped, kept, List.nil_append, List.filter_map] at filtered
  exact filtered

/-- A manager may be replaced by a sound one when the listeners change with it, whatever
the other managers listen to. -/
theorem Sound.replace {wiring : Wiring} (sound : wiring.Sound) {kind : ManagerKind}
    {manager next : Manager} (found : wiring.registry.manager? kind = some manager)
    (managed : next.Sound) (same : next.kind = kind)
    (aged : next.generation = manager.generation) (placed : next.gate = manager.gate)
    {bus : Bus Delivery} (listening : bus.Sound)
    (heard : ∀ others, (wiring.bus.listeners.map Listener.line).Perm (manager.lines ++ others) →
      (bus.listeners.map Listener.line).Perm (next.lines ++ others))
    {gates : List Gate} (length : gates.length = wiring.gates.length) :
    Sound { bus, gates, registry := wiring.registry.update next } := by
  obtain ⟨named, before, rest, split, replaced⟩ := sound.split found
  have managers := replaced next same
  have member : manager ∈ wiring.registry.managers := by
    rw [split]
    exact List.mem_append_right _ List.mem_cons_self
  have all {fact : Manager → Prop} (old : ∀ manager ∈ wiring.registry.managers, fact manager)
      (new : fact next) : ∀ manager ∈ (wiring.registry.update next).managers, fact manager := by
    rw [split] at old
    rw [managers]
    intro other present
    rcases List.mem_append.mp present with earlier | later
    · exact old other (List.mem_append_left _ earlier)
    rcases List.mem_cons.mp later with rfl | later
    · exact new
    · exact old other (List.mem_append_right _ (List.mem_cons_of_mem _ later))
  refine ⟨listening, all sound.managers managed, ?_, all sound.uniform ?_, ?_, ?_, ?_⟩
  · have distinct := sound.distinct
    rw [split] at distinct
    rw [managers]
    simpa only [List.map_append, List.map_cons, same, named] using distinct
  · exact aged.trans (sound.uniform manager member)
  · rw [length]
    exact all sound.gated (placed ▸ sound.gated manager member)
  · have apart := sound.apart
    rw [split] at apart
    rw [managers]
    simpa only [List.map_append, List.map_cons, placed] using apart
  · have old := sound.heard
    rw [lines, split, List.flatMap_append, List.flatMap_cons] at old
    rw [lines, managers, List.flatMap_append, List.flatMap_cons]
    have front (here : Manager) :
        (before.flatMap Manager.lines ++ (here.lines ++ rest.flatMap Manager.lines)).Perm
          (here.lines ++ (before.flatMap Manager.lines ++ rest.flatMap Manager.lines)) := by
      rw [← List.append_assoc, ← List.append_assoc]
      exact List.perm_append_comm.append_right _
    exact (heard _ (old.trans (front manager))).trans (front next).symm

/-! ## Operations on managers -/

/-- The table without the listeners that some feeds stand for. -/
def without (bus : Bus Delivery) (feeds : List Feed) : Bus Delivery :=
  { bus with
    listeners := bus.listeners.filter fun listener =>
      listener.id ∉ feeds.filterMap Feed.listener? }

theorem lines_numbers (manager : Manager) :
    manager.lines.map (·.id) =
      (manager.subscriptions.map (·.feed)).filterMap Feed.listener? := by
  simp only [Manager.lines, List.map_filterMap, List.filterMap_map]
  congr 1
  funext subscription
  simp [Manager.line?, Function.comp_def]

theorem without_sound {bus : Bus Delivery} (sound : bus.Sound) (feeds : List Feed) :
    (without bus feeds).Sound :=
  ⟨(List.filter_sublist.map _).nodup sound.distinct,
    fun listener member => sound.bounded listener (List.mem_of_mem_filter member)⟩

theorem close_eq (wiring : Wiring) (feed : Feed) :
    wiring.close feed = { wiring with bus := without wiring.bus [feed] } := by
  cases feed with
  | listener id => simp [close, without, Bus.unlisten, Feed.listener?]
  | timer period schema task => simp [close, without, Feed.listener?]

theorem closeAll_eq (wiring : Wiring) (feeds : List Feed) :
    feeds.foldl close wiring = { wiring with bus := without wiring.bus feeds } := by
  induction feeds generalizing wiring with
  | nil => simp [without]
  | cons feed rest previous =>
      rw [List.foldl_cons, previous, close_eq]
      cases feed with
      | listener id =>
          simp only [without, Feed.listener?, List.filterMap_cons, List.filterMap_nil,
            List.filter_filter, List.mem_cons, List.not_mem_nil, or_false]
          congr 3
          funext listener
          simp [not_or, Bool.and_comm]
      | timer period schema task => simp [without, Feed.listener?]

theorem Sound.changeGate {wiring : Wiring} (sound : wiring.Sound) (id : GateId)
    (change : Gate → Gate) : (wiring.changeGate id change).Sound :=
  { sound with gated := by simpa [Wiring.changeGate] using sound.gated }

theorem Sound.update_self {wiring : Wiring} (sound : wiring.Sound) {kind : ManagerKind}
    {manager : Manager} (found : wiring.registry.manager? kind = some manager) :
    wiring.update manager = wiring := by
  obtain ⟨named, before, rest, split, replaced⟩ := sound.split found
  have managers := (replaced manager named).trans split.symm
  change { wiring with
    registry := { wiring.registry with managers := (wiring.registry.update manager).managers } } =
      wiring
  rw [managers]

theorem Sound.resume {wiring : Wiring} (sound : wiring.Sound) (kind : ManagerKind) :
    (wiring.resume kind).Sound := by
  unfold Wiring.resume
  cases found : wiring.registry.manager? kind with
  | none => exact sound
  | some manager =>
      have opened := sound.changeGate manager.gate Gate.opening
      dsimp only
      split
      · have same := opened.update_self found
        rw [same]
        exact opened
      · exact opened

theorem Sound.stop {wiring : Wiring} (sound : wiring.Sound) (kind : ManagerKind) :
    (wiring.stop kind).Sound := by
  unfold Wiring.stop
  cases found : wiring.registry.manager? kind with
  | none => exact sound
  | some manager =>
      dsimp only
      rw [closeAll_eq]
      have empty : ({ manager with subscriptions := [] } : Manager).Sound := .empty _ rfl
      refine sound.replace found empty (sound.split found).1 rfl rfl
        (without_sound sound.bus _) (fun others heard => ?_) (List.length_modify _ _ _)
      have dropped := drop_lines heard sound.bus.distinct
      rw [lines_numbers] at dropped
      exact dropped

theorem Sound.unsubscribe {wiring : Wiring} (sound : wiring.Sound) (kind : ManagerKind)
    (id : Nat) : (wiring.unsubscribe kind id).Sound := by
  unfold Wiring.unsubscribe
  cases found : wiring.registry.manager? kind with
  | none => exact sound
  | some manager =>
      have managed := sound.managers manager (List.mem_of_find?_eq_some found)
      cases present : manager.subscriptions.find? (·.id = id) with
      | none => simp only [present]; exact sound
      | some subscription =>
          simp only [present, close_eq]
          have fewer : ({ manager with
              subscriptions := manager.subscriptions.filter (·.id ≠ id) } : Manager).Sound :=
            ⟨(List.filter_sublist.map _).nodup managed.distinct,
              fun other member => managed.bounded other (List.mem_of_mem_filter member),
              fun other member => managed.sourced other (List.mem_of_mem_filter member),
              fun other member => managed.fed other (List.mem_of_mem_filter member)⟩
          refine sound.replace found fewer (sound.split found).1 rfl rfl
            (without_sound sound.bus _) (fun others heard => ?_) rfl
          have first : manager.lines.Perm ((manager.line? subscription).toList ++
              ({ manager with
                subscriptions := manager.subscriptions.filter (·.id ≠ id) } : Manager).lines) := by
            have parted := (managed.perm_filter present).filterMap manager.line?
            rw [List.filterMap_cons] at parted
            cases fed : manager.line? subscription with
            | none => rw [fed] at parted; exact parted
            | some line => rw [fed] at parted; exact parted
          have numbers : (manager.line? subscription).toList.map (·.id) =
              [subscription.feed].filterMap Feed.listener? := by
            cases fed : subscription.feed.listener? <;> simp [Manager.line?, fed]
          have heard := heard.trans (first.append_right others)
          rw [List.append_assoc] at heard
          have dropped := drop_lines heard sound.bus.distinct
          rwa [numbers] at dropped

theorem listen_sound {bus : Bus Delivery} (sound : bus.Sound) (kind : EventKind)
    (delivery : Delivery) : (bus.listen kind delivery).1.Sound := by
  have fresh : bus.nextId ∉ bus.listeners.map (·.id) := by
    intro member
    obtain ⟨listener, present, same⟩ := List.mem_map.mp member
    exact Nat.ne_of_lt (sound.bounded listener present) same
  refine ⟨?_, ?_⟩
  · simp only [Bus.listen, List.map_append]
    exact List.perm_append_comm.nodup_iff.mp (List.nodup_cons.mpr ⟨fresh, sound.distinct⟩)
  · intro listener member
    rcases List.mem_append.mp member with old | new
    · exact Nat.lt_succ_of_lt (sound.bounded listener old)
    · rw [List.mem_singleton.mp new]
      exact Nat.lt_succ_self _

theorem listen_lines (bus : Bus Delivery) (kind : EventKind) (delivery : Delivery) :
    (bus.listen kind delivery).1.listeners.map Listener.line =
      bus.listeners.map Listener.line ++
        [{ id := bus.nextId, kind, gate := delivery.gate, generation := delivery.generation }] := by
  rw [Bus.listen, List.map_append]
  rfl

theorem feed_pushed (wiring : Wiring) (manager : Manager) (kind : EventKind)
    (schema : EventSchema) :
    (wiring.feed manager kind schema).1.listener?.isSome = kind.isPushed := by
  cases kind <;> rfl

/-- A new feed adds the line of its subscription to the platform, and nothing else. -/
theorem feed_spec (wiring : Wiring) (listening : wiring.bus.Sound) (manager : Manager) (id : Nat)
    (kind : EventKind) (schema : EventSchema) :
    ∃ bus : Bus Delivery, (wiring.feed manager kind schema).2 = { wiring with bus } ∧ bus.Sound ∧
      bus.listeners.map Listener.line = wiring.bus.listeners.map Listener.line ++
        (manager.line? { id, kind, feed := (wiring.feed manager kind schema).1 }).toList := by
  cases kind with
  | interval period => exact ⟨wiring.bus, rfl, listening, (List.append_nil _).symm⟩
  | stateChanged entity => exact ⟨_, rfl, listen_sound listening _ _, listen_lines _ _ _⟩
  | bus name => exact ⟨_, rfl, listen_sound listening _ _, listen_lines _ _ _⟩

theorem Sound.subscribe {wiring : Wiring} (sound : wiring.Sound) (current : Generation)
    (managerKind : ManagerKind) (kind : EventKind) (schema : EventSchema) :
    (wiring.subscribe current managerKind kind schema).2.Sound := by
  unfold Wiring.subscribe
  cases found : wiring.registry.manager? managerKind with
  | none => exact sound
  | some manager =>
      have managed := sound.managers manager (List.mem_of_find?_eq_some found)
      have named := (sound.split found).1
      dsimp only
      split
      · exact sound
      case isFalse right =>
      have right : kind.manager = managerKind := Decidable.not_not.mp right
      split
      · exact sound
      obtain ⟨bus, fed, listening, heard⟩ :=
        feed_spec wiring sound.bus manager manager.nextId kind schema
      have more := managed.append (right.trans named.symm) (feed_pushed wiring manager kind schema)
      simp only [fed]
      refine sound.replace found more named rfl rfl listening (fun others old => ?_) rfl
      rw [heard, Manager.lines_append, List.append_assoc]
      refine (old.append_right _).trans ?_
      rw [List.append_assoc]
      exact List.perm_append_comm.append_left _

theorem Sound.add {wiring : Wiring} (sound : wiring.Sound) {kind : ManagerKind}
    {generation : Generation} (absent : wiring.registry.manager? kind = none)
    (current : wiring.registry.generation = generation) : (wiring.add kind generation).Sound := by
  have members := Registry.insertManager_perm { kind, generation, gate := wiring.gates.length }
    wiring.registry.managers
  have all {fact : Manager → Prop} (old : ∀ manager ∈ wiring.registry.managers, fact manager)
      (new : fact { kind, generation, gate := wiring.gates.length }) :
      ∀ manager ∈ (wiring.add kind generation).registry.managers, fact manager := by
    intro manager member
    rcases List.mem_cons.mp (members.mem_iff.mp member) with rfl | member
    · exact new
    · exact old manager member
  have longer : wiring.gates.length < (wiring.add kind generation).gates.length := by
    simp [Wiring.add]
  refine ⟨sound.bus, all sound.managers (.empty _ rfl), ?_,
    all sound.uniform current.symm, all (fun manager member => ?_) longer, ?_, ?_⟩
  · refine ((members.map (·.kind)).nodup_iff).mpr (List.nodup_cons.mpr ⟨?_, sound.distinct⟩)
    intro member
    obtain ⟨manager, present, same⟩ := List.mem_map.mp member
    have other := List.find?_eq_none.mp absent manager present
    simp [same] at other
  · exact Nat.lt_trans (sound.gated manager member) longer
  · refine ((members.map (·.gate)).nodup_iff).mpr (List.nodup_cons.mpr ⟨?_, sound.apart⟩)
    intro member
    obtain ⟨manager, present, same⟩ := List.mem_map.mp member
    exact Nat.ne_of_lt (sound.gated manager present) same
  · exact sound.heard.trans (members.flatMap_right Manager.lines).symm

theorem Sound.create {wiring : Wiring} (sound : wiring.Sound) {kind : ManagerKind}
    {generation : Generation} (absent : wiring.registry.manager? kind = none)
    (current : wiring.registry.generation = generation) :
    (wiring.create kind generation).Sound := by
  have added := sound.add absent current
  unfold Wiring.create
  dsimp only
  split
  · exact added.resume kind
  · exact added

/-- Neither what was registered nor whether managers deliver is part of being sound. -/
theorem Sound.keepRecords {wiring : Wiring} (sound : wiring.Sound)
    (registrations : List Registration) (resumed : Bool) :
    Sound { wiring with registry := { wiring.registry with registrations, resumed } } :=
  ⟨sound.bus, sound.managers, sound.distinct, sound.uniform, sound.gated, sound.apart, sound.heard⟩

/-- A registry that names no manager may be replaced by an empty one. -/
theorem Sound.renew {wiring : Wiring} (sound : wiring.Sound)
    (empty : wiring.lines = []) (generation : Generation) :
    Sound { wiring with registry := { generation } } := by
  refine ⟨sound.bus, by simp, by simp, by simp, by simp, by simp, ?_⟩
  have silent := sound.heard
  rw [empty] at silent
  exact silent

/-- All managers are of one generation: a source that has none of it has none at all. -/
theorem Sound.manager?_eq_none {wiring : Wiring} (sound : wiring.Sound) {kind : ManagerKind}
    {generation : Generation} (same : wiring.registry.generation = generation)
    (absent : ¬(wiring.registry.manager? kind).any (·.generation = generation)) :
    wiring.registry.manager? kind = none := by
  cases found : wiring.registry.manager? kind with
  | none => rfl
  | some manager =>
      have aged := sound.uniform manager (List.mem_of_find?_eq_some found)
      simp [found, aged, same] at absent

/-- Nothing changes where a source needs a manager, or one is added to those of the generation,
or to none. -/
theorem Sound.need_eq {wiring : Wiring} (sound : wiring.Sound) (current : Generation)
    (kind : ManagerKind) (generation : Generation) :
    (wiring.need current kind generation).2 = wiring ∨
      ∃ registry, (registry = wiring.registry ∨ registry = { generation }) ∧
        Sound { wiring with registry } ∧ registry.manager? kind = none ∧
        registry.generation = generation ∧
        (wiring.need current kind generation).2 =
          Wiring.create { wiring with registry } kind generation := by
  unfold Wiring.need
  split
  · exact .inl rfl
  split
  · exact .inl rfl
  case isFalse absent =>
  split
  · exact .inl rfl
  case isFalse cleared =>
  split
  case isTrue moved =>
    have empty : wiring.registry.managers = [] := by simpa [moved] using cleared
    exact .inr ⟨_, .inr rfl, sound.renew (by simp [lines, empty]) generation, rfl, rfl, rfl⟩
  case isFalse same =>
    have same : wiring.registry.generation = generation := Decidable.not_not.mp same
    exact .inr ⟨_, .inl rfl, sound, sound.manager?_eq_none same absent, same, rfl⟩

theorem Sound.need {wiring : Wiring} (sound : wiring.Sound) (current : Generation)
    (kind : ManagerKind) (generation : Generation) :
    (wiring.need current kind generation).2.Sound := by
  rcases sound.need_eq current kind generation with
    same | ⟨registry, -, sound, absent, aged, created⟩
  · rwa [same]
  · rw [created]
    exact sound.create absent aged

/-! ## Rewirings -/

/-- What one change of a host does to its wiring. `cycling` allows what only a load
cycle does. -/
inductive Rewiring (cycling : Bool) (wiring : Wiring) : Wiring → Prop where
  | same : Rewiring cycling wiring wiring
  | gate (id : GateId) (change : Gate → Gate) :
      Rewiring cycling wiring (wiring.changeGate id change)
  | resume (kind : ManagerKind) : Rewiring cycling wiring (wiring.resume kind)
  | need (current : Generation) (kind : ManagerKind) (generation : Generation) :
      Rewiring cycling wiring (wiring.need current kind generation).2
  | unsubscribe (kind : ManagerKind) (id : Nat) :
      Rewiring cycling wiring (wiring.unsubscribe kind id)
  | stop (kind : ManagerKind) : Rewiring cycling wiring (wiring.stop kind)
  | keepRecords (registrations : List Registration) (resumed : Bool) :
      Rewiring cycling wiring
        { wiring with registry := { wiring.registry with registrations, resumed } }
  | clear (inside : cycling = true) (unsubscribed : wiring.Unsubscribed)
      (generation : Generation) :
      Rewiring cycling wiring { wiring with registry := { generation } }
  | subscribe (inside : cycling = true) (current : Generation) (manager : ManagerKind)
      (kind : EventKind) (schema : EventSchema) :
      Rewiring cycling wiring (wiring.subscribe current manager kind schema).2

theorem Unsubscribed.lines_eq {wiring : Wiring} (unsubscribed : wiring.Unsubscribed) :
    wiring.lines = [] := by
  refine List.flatMap_eq_nil_iff.mpr fun manager member => ?_
  rw [Manager.lines, unsubscribed manager member, List.filterMap_nil]

theorem Rewiring.sound {cycling : Bool} {wiring next : Wiring}
    (change : Rewiring cycling wiring next) (sound : wiring.Sound) : next.Sound := by
  cases change with
  | same => exact sound
  | gate id change => exact sound.changeGate id change
  | resume kind => exact sound.resume kind
  | need current kind generation => exact sound.need current kind generation
  | unsubscribe kind id => exact sound.unsubscribe kind id
  | stop kind => exact sound.stop kind
  | keepRecords registrations resumed =>
      exact sound.keepRecords registrations resumed
  | clear inside unsubscribed generation => exact sound.renew unsubscribed.lines_eq generation
  | subscribe inside current manager kind schema =>
      exact sound.subscribe current manager kind schema

theorem Rewiring.unsubscribed {wiring next : Wiring} (change : Rewiring false wiring next)
    (unsubscribed : wiring.Unsubscribed) : next.Unsubscribed := by
  cases change with
  | same => exact unsubscribed
  | gate id change => exact unsubscribed
  | resume kind => exact unsubscribed.resume kind
  | need current kind generation => exact unsubscribed.need current kind generation
  | unsubscribe kind id => exact unsubscribed.unsubscribe kind id
  | stop kind => exact unsubscribed.stop kind
  | keepRecords registrations resumed => exact unsubscribed
  | clear inside => cases inside
  | subscribe inside => cases inside

end Host.Wiring

namespace Host

theorem distinct_kinds {host : Host} (sound : host.wiring.Sound) :
    (host.registry.managers.map (·.kind)).Nodup := by
  have distinct := sound.distinct
  simp only [wiring, Registry.bare, List.map_map] at distinct
  exact distinct

theorem manager?_eq {host : Host} (sound : host.wiring.Sound) {manager : Manager}
    (present : manager ∈ host.registry.managers) :
    host.registry.manager? manager.kind = some manager :=
  Registry.manager?_eq (distinct_kinds sound) present

/-- The subscriptions of a source are told apart by their numbers. -/
theorem distinct_subscriptions {host : Host} (sound : host.wiring.Sound) {kind : ManagerKind}
    {manager : Manager} (found : host.registry.manager? kind = some manager) :
    (manager.subscriptions.map (·.id)).Nodup := by
  have member := List.mem_of_find?_eq_some found
  have distinct := (sound.managers manager.bare (List.mem_map_of_mem member)).distinct
  rwa [Manager.bare, List.map_map] at distinct

/-- A source of a host that has no manager of the one generation has none at all. -/
theorem manager?_eq_none {host : Host} (sound : host.wiring.Sound) {kind : ManagerKind}
    {generation : Generation} (same : host.registry.generation = generation)
    (absent : ¬(host.registry.manager? kind).any (·.generation = generation)) :
    host.registry.manager? kind = none := by
  have bare : host.wiring.registry.manager? kind = none := by
    refine sound.manager?_eq_none same ?_
    rw [wiring_manager?, Option.any_map]
    exact absent
  rw [wiring_manager?] at bare
  exact Option.map_eq_none_iff.mp bare

/-- A quiet change leaves the wiring alone. -/
theorem wiring_of_parts {host next : Host} (same : next.parts = host.parts) :
    next.wiring = host.wiring := by
  have shared := congrArg (fun parts : Parts => (parts.bus, parts.gates, parts.registry)) same
  simp only [parts, Prod.mk.injEq] at shared
  simp only [wiring, shared]

theorem Change.rewiring {cycling : Bool} {host next : Host} (change : Change cycling host next) :
    Wiring.Rewiring cycling host.wiring next.wiring := by
  cases change with
  | quiet same =>
      rw [wiring_of_parts same]
      exact .same
  | start deed current => exact .same
  | resume task tracked => exact .same
  | spawn name generation owner work =>
      rw [spawn_wiring]
      exact .same
  | progress id point => exact .same
  | cancelTask id => exact .same
  | cancelOwner owner => exact .same
  | dropTasks => exact .same
  | gate id change => exact .gate id change
  | resumeManager kind =>
      rw [resumeManager_wiring]
      exact .resume kind
  | needManager kind generation =>
      rw [show (after (Host.needManager kind generation) host).wiring = _ from
        congrArg Prod.snd (needManager_wiring kind generation host)]
      exact .need _ _ _
  | unsubscribe kind id =>
      rw [unsubscribe_wiring]
      exact .unsubscribe kind id
  | stopManager kind =>
      rw [stopManager_wiring]
      exact .stop kind
  | keepRecords registrations resumed => exact .keepRecords registrations resumed
  | advance inside => exact .same
  | halt inside stopped => exact .same
  | clear inside unsubscribed => exact .clear inside unsubscribed host.generation
  | subscribe inside manager kind schema =>
      rw [show (after (Host.subscribe manager kind schema) host).wiring = _ from
        congrArg Prod.snd (subscribe_wiring manager kind schema host)]
      exact .subscribe inside _ _ _ _

/-- No path of changes leaves a sound wiring unsound. -/
theorem Reaches.sound {cycling : Bool} {host next : Host} (path : Reaches cycling host next)
    (sound : host.wiring.Sound) : next.wiring.Sound :=
  path.keeps (·.wiring.Sound) (fun _ _ change => change.rewiring.sound) sound

theorem Reaches.unsubscribed {host next : Host} (path : Reaches false host next)
    (unsubscribed : host.wiring.Unsubscribed) : next.wiring.Unsubscribed :=
  path.keeps (·.wiring.Unsubscribed) (fun _ _ change => change.rewiring.unsubscribed)
    unsubscribed

end Host

end HomeRules
