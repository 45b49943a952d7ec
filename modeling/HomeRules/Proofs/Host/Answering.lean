import HomeRules.Proofs.Host.Gates
import HomeRules.Proofs.Host.Installing
import HomeRules.Proofs.Host.Upholding

/-!
# Managers that answer

Once the managers of a registry were let deliver, each of them delivers until it is stopped, also
those that are added later; a manager that was stopped has no subscriptions. A live subscription
is therefore one that is served. Its listener is told about events of its kind, for which its
schema has an entry.
-/

set_option autoImplicit false

namespace HomeRules

/-- A listener is told about events of the kind it listens to, for which its schema has an
entry. -/
def Listener.Bound (listener : Listener Delivery) : Prop :=
  listener.target.kind = listener.kind ∧ listener.kind ∈ listener.target.schema.kinds

namespace Host

namespace Wiring

structure Answering (wiring : Wiring) : Prop where
  sound : wiring.Sound
  /-- A manager that was stopped has no subscriptions. -/
  vacant : ∀ gate, (wiring.gate gate).isClosed → wiring.Vacant gate
  /-- In a registry that was let deliver, no manager waits. -/
  started : wiring.registry.resumed = true → ∀ manager ∈ wiring.registry.managers,
    (wiring.gate manager.gate).phase ≠ .pending
  bound : ∀ listener ∈ wiring.bus.listeners, listener.Bound

private theorem Sound.create_spec {wiring : Wiring} (sound : wiring.Sound) {kind : ManagerKind}
    {generation : Generation} (absent : wiring.registry.manager? kind = none)
    (current : wiring.registry.generation = generation) :
    (wiring.create kind generation).bus = wiring.bus ∧
      (wiring.create kind generation).registry.resumed = wiring.registry.resumed := by
  obtain ⟨bus, registry, -⟩ := (sound.add absent current).resume_spec kind
  unfold Wiring.create
  dsimp only
  split
  · rw [bus, registry]
    exact ⟨rfl, rfl⟩
  · exact ⟨rfl, rfl⟩

/-- A manager that is added to those that deliver does so, too. -/
private theorem Sound.create_started {wiring : Wiring} (sound : wiring.Sound) {kind : ManagerKind}
    {generation : Generation} (absent : wiring.registry.manager? kind = none)
    (current : wiring.registry.generation = generation) (resumed : wiring.registry.resumed = true) :
    ∀ manager ∈ (wiring.create kind generation).registry.managers,
      manager ∈ wiring.registry.managers ∨
        ((wiring.create kind generation).gate manager.gate).phase ≠ .pending := by
  have added := sound.add absent current
  obtain ⟨-, registry, stands⟩ := added.resume_spec kind
  have delivers : (wiring.add kind generation).registry.resumed = true := resumed
  have created : wiring.create kind generation = (wiring.add kind generation).resume kind := by
    simp only [Wiring.create, delivers, if_true]
  rw [created, registry]
  intro manager member
  rcases List.mem_cons.mp ((Registry.insertManager_perm _ _).mem_iff.mp member) with rfl | old
  · refine .inr fun pending => ?_
    have found := (added.resume kind).manager?_eq (registry ▸ member)
    have stands := congrFun stands kind
    rw [standing, found, Option.map_some, pending, Standings.change, if_pos rfl] at stands
    cases before : (wiring.add kind generation).standing kind with
    | none => simp [before] at stands
    | some phase => cases phase <;> simp [before, Gate.opening] at stands
  · exact .inl old

namespace Answering

variable {wiring next : Wiring} {inside others : List GateId}

/-- A gate that is closed now was closed before, or its manager is the one that was stopped. -/
private theorem passage_vacant (inside : List GateId) (passage : Passage inside wiring others next)
    (sound : wiring.Sound) (vacant : ∀ gate, (wiring.gate gate).isClosed → wiring.Vacant gate)
    (gate : GateId) (closed : (next.gate gate).isClosed) : next.Vacant gate := by
  by_cases before : (wiring.gate gate).isClosed
  · exact (passage.shut ⟨before, vacant gate before⟩).1.vacant
  · obtain ⟨kind, manager, found, rfl, rfl⟩ := passage.closing before closed
    exact (sound.shut_stop found).vacant

/-- What a passage keeps, if it adds no manager that waits and no listener that is not bound. -/
private theorem pass (answering : wiring.Answering) (passage : Passage inside wiring others next)
    (managers : next.registry.resumed = true → wiring.registry.resumed = true ∧
      ∀ manager ∈ next.registry.managers,
        (∃ old ∈ wiring.registry.managers, old.gate = manager.gate) ∨
          (next.gate manager.gate).phase ≠ .pending)
    (listeners : ∀ listener ∈ next.bus.listeners,
      listener ∈ wiring.bus.listeners ∨ listener.Bound) : next.Answering where
  sound := passage.sound answering.sound
  vacant := passage_vacant inside passage answering.sound answering.vacant
  started resumed manager member := by
    obtain ⟨before, gates⟩ := managers resumed
    rcases gates manager member with ⟨old, present, same⟩ | started
    · rw [← same]
      exact (passage.gate old.gate).unpending (answering.started before old present)
    · exact started
  bound listener member := (listeners listener member).elim (answering.bound listener) id

/-- A passage that leaves the managers alone and adds no listener. -/
private theorem still (answering : wiring.Answering) (inside : List GateId)
    (passage : Passage inside wiring others next)
    (managers : next.registry.managers = wiring.registry.managers)
    (resumed : next.registry.resumed = wiring.registry.resumed)
    (listeners : next.bus = wiring.bus) : next.Answering :=
  answering.pass passage
    (fun now => ⟨resumed ▸ now, fun manager member => .inl ⟨manager, managers ▸ member, rfl⟩⟩)
    fun _ member => .inl (listeners ▸ member)

/-- A manager takes the place of one with the same gate. -/
private theorem replace (answering : wiring.Answering) {kind : ManagerKind} {manager : Manager}
    (found : wiring.registry.manager? kind = some manager)
    (passage : Passage inside wiring others next) (replacing : Manager)
    (registry : next.registry = wiring.registry.update replacing)
    (placed : replacing.gate = manager.gate)
    (listeners : ∀ listener ∈ next.bus.listeners,
      listener ∈ wiring.bus.listeners ∨ listener.Bound) : next.Answering := by
  refine answering.pass passage (fun resumed => ?_) listeners
  rw [registry] at resumed ⊢
  refine ⟨resumed, fun other member => .inl ?_⟩
  rcases mem_update member with rfl | ⟨old, -⟩
  · exact ⟨manager, List.mem_of_find?_eq_some found, placed.symm⟩
  · exact ⟨other, old, rfl⟩

theorem enter (answering : wiring.Answering) {gate : GateId} {entered : Gate}
    (admitted : (wiring.gate gate).enter? = some entered) :
    (wiring.changeGate gate fun _ => entered).Answering :=
  answering.still [] (.enter admitted) rfl rfl rfl

theorem leave (answering : wiring.Answering) (gate : GateId) :
    (wiring.changeGate gate Gate.leave).Answering :=
  answering.still [gate] (.leave rfl) rfl rfl rfl

theorem resume (answering : wiring.Answering) (kind : ManagerKind) :
    (wiring.resume kind).Answering := by
  obtain ⟨bus, registry, -⟩ := answering.sound.resume_spec kind
  exact answering.still [] (.resume kind) (congrArg (·.managers) registry)
    (congrArg (·.resumed) registry) bus

theorem keepRecords (answering : wiring.Answering) (registrations : List Registration) :
    Answering { wiring with registry := { wiring.registry with registrations } } :=
  answering.still [] (.keepRecords registrations wiring.registry.resumed) rfl rfl rfl

/-- A registry without managers was let deliver nothing. -/
theorem clear (answering : wiring.Answering) (unsubscribed : wiring.Unsubscribed)
    (generation : Generation) : Answering { wiring with registry := { generation } } := by
  have passage : Passage [] wiring [] { wiring with registry := { generation } } :=
    .clear unsubscribed generation
  exact answering.pass passage nofun fun _ => .inl

theorem need (answering : wiring.Answering) (current : Generation) (kind : ManagerKind)
    (generation : Generation) : (wiring.need current kind generation).2.Answering := by
  have passage : Passage [] wiring [] (wiring.need current kind generation).2 :=
    .need current kind generation
  rcases answering.sound.need_eq current kind generation with
    same | ⟨registry, origin, sound, absent, aged, created⟩
  · rwa [same]
  obtain ⟨bus, resumed⟩ := sound.create_spec absent aged
  rw [created] at passage ⊢
  refine answering.pass passage (fun now => ?_) fun _ member => .inl (bus ▸ member)
  have before := resumed.symm.trans now
  rcases origin with rfl | rfl
  · refine ⟨before, fun manager member => ?_⟩
    exact (sound.create_started absent aged before manager member).imp_left
      fun old => ⟨manager, old, rfl⟩
  · cases before

/-- Events of a kind are listened to for schemas that have an entry for them. -/
theorem subscribe (answering : wiring.Answering) (current : Generation) (source : ManagerKind)
    {kind : EventKind} {schema : EventSchema} (known : kind ∈ schema.kinds) :
    (wiring.subscribe current source kind schema).2.Answering := by
  have passage : Passage [] wiring [] (wiring.subscribe current source kind schema).2 :=
    .subscribe current source kind schema
  unfold Wiring.subscribe at passage ⊢
  cases found : wiring.registry.manager? source with
  | none => exact answering
  | some manager =>
      simp only [found] at passage ⊢
      split
      · exact answering
      split
      · exact answering
      case isFalse right admits =>
      simp only [if_neg right, if_neg admits] at passage
      have fed : (wiring.feed manager kind schema).2.registry = wiring.registry := by
        cases kind <;> rfl
      let feed := (wiring.feed manager kind schema).1
      let fuller : Manager := { manager with
        nextId := manager.nextId + 1
        subscriptions := manager.subscriptions ++ [{ id := manager.nextId, kind, feed }] }
      refine answering.replace found passage fuller (congrArg (·.update fuller) fed) rfl
        fun listener member => ?_
      have heard : listener ∈ (wiring.feed manager kind schema).2.bus.listeners := member
      cases kind with
      | interval period => exact .inl heard
      | _ =>
          rcases List.mem_append.mp heard with old | fresh
          · exact .inl old
          · exact .inr (List.mem_singleton.mp fresh ▸ ⟨rfl, known⟩)

theorem unsubscribe (answering : wiring.Answering) (source : ManagerKind) (id : Nat) :
    (wiring.unsubscribe source id).Answering := by
  have passage : Passage [] wiring [] (wiring.unsubscribe source id) := .unsubscribe source id
  unfold Wiring.unsubscribe at passage ⊢
  cases found : wiring.registry.manager? source with
  | none => exact answering
  | some manager =>
      simp only [found] at passage ⊢
      cases present : manager.subscriptions.find? (·.id = id) with
      | none => exact answering
      | some subscription =>
          simp only [present, close_eq] at passage ⊢
          exact answering.replace found passage _ rfl rfl
            fun listener member => .inl (List.mem_of_mem_filter member)

theorem stop (answering : wiring.Answering) (source : ManagerKind) :
    (wiring.stop source).Answering := by
  have passage : Passage [] wiring [] (wiring.stop source) := .stop source
  unfold Wiring.stop at passage ⊢
  cases found : wiring.registry.manager? source with
  | none => exact answering
  | some manager =>
      simp only [found, closeAll_eq] at passage ⊢
      exact answering.replace found passage _ rfl rfl
        fun listener member => .inl (List.mem_of_mem_filter member)

/-- When all managers are let deliver, none is left that waits. -/
theorem resumeAll (answering : wiring.Answering) :
    ((wiring.registry.managers.map (·.kind)).foldl Wiring.resume
      { wiring with registry := { wiring.registry with resumed := true } }).Answering := by
  let told : Wiring := { wiring with registry := { wiring.registry with resumed := true } }
  have sound : told.Sound := answering.sound.keepRecords wiring.registry.registrations true
  obtain ⟨bus, registry, resumed, stands⟩ := sound.resumeAll
  have vacant (kinds : List ManagerKind) {told : Wiring} (sound : told.Sound)
      (vacant : ∀ gate, (told.gate gate).isClosed → told.Vacant gate) :
      ∀ gate, ((kinds.foldl Wiring.resume told).gate gate).isClosed →
        (kinds.foldl Wiring.resume told).Vacant gate := by
    induction kinds generalizing told with
    | nil => exact vacant
    | cons kind rest previous =>
        exact previous (sound.resume kind)
          (passage_vacant [] (.resume kind) sound vacant)
  refine ⟨resumed, vacant _ sound answering.vacant, fun _ manager member pending => ?_, ?_⟩
  · have here := congrFun stands manager.kind
    rw [standing, resumed.manager?_eq member, Option.map_some, pending, Standings.resume] at here
    cases before : told.standing manager.kind with
    | none => simp [before] at here
    | some phase => cases phase <;> simp [before, Gate.opening] at here
  · intro listener member
    exact answering.bound listener (bus ▸ member)

end Answering
end Wiring
end Host
end HomeRules

namespace HomeRules.Host

/-! ## Every run -/

private theorem Wiring.Answering.of_eq {host : Host} {wiring : Wiring}
    (answering : wiring.Answering) (same : host.wiring = wiring) : host.wiring.Answering :=
  same ▸ answering

theorem answering_tending : Tending fun host => host.wiring.Answering where
  unsubscribe kind id host answering :=
    (answering.unsubscribe kind id).of_eq (unsubscribe_wiring kind id host)
  records host registrations answering := answering.keepRecords registrations
  beside _ _ _ _ answering := answering
  mark _ _ _ answering := answering
  request host answering := answering.of_eq (wiring_of_parts (changeLoops_parts _ host))
  spawn name generation owner work host answering :=
    answering.of_eq (spawn_wiring name generation owner work host)
  cancel _ _ answering := answering
  cancelOwner _ _ answering := answering
  dropTasks _ answering := answering
  enter _ _ _ admitted answering := answering.enter admitted
  leave gate _ answering := answering.leave gate
  needManager kind generation host answering :=
    (answering.need _ _ _).of_eq (congrArg Prod.snd (needManager_wiring kind generation host))
  subscribe manager kind schema known host answering :=
    (answering.subscribe _ _ known).of_eq
      (congrArg Prod.snd (subscribe_wiring manager kind schema host))
  resumeManager kind host answering :=
    (answering.resume kind).of_eq (resumeManager_wiring kind host)
  resumeRegistry generation host answering := by
    by_cases current : host.registry.generation = generation
    · exact answering.resumeAll.of_eq (resumeRegistry_wiring current)
    · have refused : after (resumeRegistry generation) host = host := by
        rw [resumeRegistry, after_get_bind, if_neg current, after_pure]
      exact refused.symm ▸ answering
  stopManager kind host answering := (answering.stop kind).of_eq (stopManager_wiring kind host)
  clear host unsubscribed answering := answering.clear unsubscribed host.generation
  agenda _ _ answering := answering
  resume _ _ _ answering := answering
  progress _ _ _ answering := answering

theorem answering_unfailing : Unfailing fun host => host.wiring.Answering where
  toUpholding := answering_tending.toUpholding
  looping := ⟨fun _ _ same _ _ _ answering => answering.of_eq (wiring_of_parts same)⟩
  runTask := answering_tending.runTask
  advanceGeneration _ answering := answering
  pass _ _ _ answering := answering
  written _ _ answering := answering

/-- Whatever is done to a host, its managers answer. -/
theorem run_answering {operations : List Operation}
    (scripted : ∀ operation ∈ operations, operation.Scripted) (config : ScriptingConfig)
    (dataDirectory : String) (tree : FileTree) (vocabulary : Vocabulary) (shelf : ScriptShelf) :
    (after (run operations)
      (create config dataDirectory tree vocabulary shelf)).wiring.Answering :=
  answering_unfailing.run scripted _
    ⟨.empty, fun _ _ _ member => absurd member List.not_mem_nil, nofun,
      fun _ member => absurd member List.not_mem_nil⟩

end HomeRules.Host
