import HomeRules.Proofs.Host.Acts

/-!
# Gates

An act opens or closes a gate, or takes one dispatch in or out of it. A gate therefore counts
exactly the dispatches that are inside, and one that is closed stays closed, takes nobody in,
and its manager never has a subscription again.
-/

set_option autoImplicit false

namespace HomeRules

/-! ## One gate -/

namespace Gate

/-- What may happen to a gate with so many dispatches inside. -/
inductive Moves (gate : Gate) (inside : Nat) : Gate → Nat → Prop where
  | rest : Moves gate inside gate inside
  | opening : Moves gate inside gate.opening inside
  | closing : Moves gate inside gate.closing inside
  | enter {entered : Gate} (admitted : gate.enter? = some entered) :
      Moves gate inside entered (inside + 1)
  | leave {others : Nat} (counted : inside = others + 1) : Moves gate inside gate.leave others

variable {gate next : Gate} {inside others : Nat}

theorem opening_inFlight (gate : Gate) : gate.opening.inFlight = gate.inFlight := by
  unfold opening
  split <;> rfl

/-- Opening a gate neither closes it nor lifts a closure. -/
theorem isClosed_opening (gate : Gate) : gate.opening.isClosed = gate.isClosed := by
  unfold opening isClosed
  split
  · case h_1 pending => simp [pending]
  · rfl

theorem opening_of_isClosed (closed : gate.isClosed) : gate.opening = gate := by
  rw [isClosed, decide_eq_true_eq] at closed
  rw [opening, closed]

theorem enter?_eq_some {entered : Gate} (admitted : gate.enter? = some entered) :
    gate.phase = .opened ∧ entered = { gate with inFlight := gate.inFlight + 1 } := by
  unfold enter? at admitted
  split at admitted
  · case h_1 opened => exact ⟨opened, (Option.some.inj admitted).symm⟩
  · cases admitted

theorem enter?_of_isClosed (closed : gate.isClosed) : gate.enter? = none := by
  rw [isClosed, decide_eq_true_eq] at closed
  rw [enter?, closed]

theorem Moves.inFlight_eq (moves : gate.Moves inside next others)
    (counted : gate.inFlight = inside) : next.inFlight = others := by
  cases moves with
  | rest => exact counted
  | opening => exact (opening_inFlight gate).trans counted
  | closing => exact counted
  | enter admitted =>
      rw [(enter?_eq_some admitted).2]
      exact congrArg (· + 1) counted
  | leave one =>
      change gate.inFlight - 1 = others
      omega

/-- No gate goes back to waiting. -/
theorem Moves.unpending (moves : gate.Moves inside next others)
    (started : gate.phase ≠ .pending) : next.phase ≠ .pending := by
  cases moves with
  | rest => exact started
  | opening =>
      unfold Gate.opening
      split
      · exact nofun
      · exact started
  | closing => exact nofun
  | enter admitted =>
      rw [(enter?_eq_some admitted).2]
      exact started
  | leave => exact started

theorem Moves.closed (moves : gate.Moves inside next others) (closed : gate.isClosed) :
    next.isClosed ∧ others ≤ inside := by
  cases moves with
  | rest => exact ⟨closed, Nat.le_refl _⟩
  | opening => exact ⟨(opening_of_isClosed closed).symm ▸ closed, Nat.le_refl _⟩
  | closing => exact ⟨rfl, Nat.le_refl _⟩
  | enter admitted =>
      rw [enter?_of_isClosed closed] at admitted
      cases admitted
  | leave counted => exact ⟨closed, by omega⟩

end Gate

namespace Host

/-! ## Passages -/

namespace Wiring

/-- What an act does to the dispatches under way and to a wiring. -/
inductive Passage (inside : List GateId) (wiring : Wiring) : List GateId → Wiring → Prop where
  | same : Passage inside wiring inside wiring
  | enter {gate : GateId} {entered : Gate} (admitted : (wiring.gate gate).enter? = some entered) :
      Passage inside wiring (gate :: inside) (wiring.changeGate gate fun _ => entered)
  | leave {gate : GateId} {others : List GateId} (under : inside = gate :: others) :
      Passage inside wiring others (wiring.changeGate gate Gate.leave)
  | resume (kind : ManagerKind) : Passage inside wiring inside (wiring.resume kind)
  | need (current : Generation) (kind : ManagerKind) (generation : Generation) :
      Passage inside wiring inside (wiring.need current kind generation).2
  | subscribe (current : Generation) (manager : ManagerKind) (kind : EventKind)
      (schema : EventSchema) :
      Passage inside wiring inside (wiring.subscribe current manager kind schema).2
  | unsubscribe (kind : ManagerKind) (id : Nat) :
      Passage inside wiring inside (wiring.unsubscribe kind id)
  | stop (kind : ManagerKind) : Passage inside wiring inside (wiring.stop kind)
  | keepRecords (registrations : List Registration) (resumed : Bool) :
      Passage inside wiring inside
        { wiring with registry := { wiring.registry with registrations, resumed } }
  | clear (unsubscribed : wiring.Unsubscribed) (generation : Generation) :
      Passage inside wiring inside { wiring with registry := { generation } }

variable {wiring next : Wiring} {inside others : List GateId}

theorem Passage.sound (passage : Passage inside wiring others next) (sound : wiring.Sound) :
    next.Sound := by
  have rewiring : Rewiring true wiring next := by
    cases passage with
    | same => exact .same
    | enter admitted => exact .gate _ _
    | leave under => exact .gate _ _
    | resume kind => exact .resume kind
    | need current kind generation => exact .need current kind generation
    | subscribe current manager kind schema => exact .subscribe rfl current manager kind schema
    | unsubscribe kind id => exact .unsubscribe kind id
    | stop kind => exact .stop kind
    | keepRecords registrations resumed => exact .keepRecords registrations resumed
    | clear unsubscribed generation => exact .clear rfl unsubscribed generation
  exact rewiring.sound sound

/-! ### Gates -/

theorem gate_changeGate (wiring : Wiring) (id gate : GateId) (change : Gate → Gate) :
    (wiring.changeGate id change).gate gate =
      if id = gate ∧ gate < wiring.gates.length then change (wiring.gate gate)
      else wiring.gate gate := by
  simp only [Wiring.gate, changeGate, List.getD_eq_getElem?_getD, List.getElem?_modify]
  by_cases placed : gate < wiring.gates.length
  · by_cases same : id = gate
    · simp [same, placed]
    · simp [same]
  · simp [placed]

/-- A gate that nobody made is a pending one. -/
theorem gate_of_not_lt {gate : GateId} (absent : ¬gate < wiring.gates.length) :
    wiring.gate gate = {} := by
  rw [Wiring.gate, List.getD_eq_getElem?_getD, List.getElem?_eq_none (Nat.le_of_not_lt absent)]
  rfl

private theorem resume_gate (wiring : Wiring) (kind : ManagerKind) (gate : GateId) :
    (wiring.resume kind).gate gate = wiring.gate gate ∨
      (wiring.resume kind).gate gate = (wiring.gate gate).opening := by
  cases found : wiring.registry.manager? kind with
  | none => simp [resume, found]
  | some manager =>
      have resumed : (wiring.resume kind).gate gate =
          (wiring.changeGate manager.gate Gate.opening).gate gate := by
        simp only [resume, found]
        split <;> rfl
      rw [resumed, gate_changeGate]
      split
      · exact .inr rfl
      · exact .inl rfl

private theorem stop_gate (wiring : Wiring) (kind : ManagerKind) (gate : GateId) :
    (wiring.stop kind).gate gate = wiring.gate gate ∨
      (wiring.stop kind).gate gate = (wiring.gate gate).closing := by
  cases found : wiring.registry.manager? kind with
  | none => simp [stop, found]
  | some manager =>
      have stopped : (wiring.stop kind).gate gate =
          (wiring.changeGate manager.gate Gate.closing).gate gate := by
        simp only [stop, found, closeAll_eq]
        rfl
      rw [stopped, gate_changeGate]
      split
      · exact .inr rfl
      · exact .inl rfl

/-- A new gate is one that nobody had heard of before. -/
theorem add_gate (wiring : Wiring) (kind : ManagerKind) (generation : Generation)
    (gate : GateId) : (wiring.add kind generation).gate gate = wiring.gate gate := by
  simp only [Wiring.gate, add, List.getD_eq_getElem?_getD, List.getElem?_append]
  split
  · rfl
  · case isFalse absent =>
      rw [List.getElem?_eq_none (Nat.le_of_not_lt absent)]
      cases gate - wiring.gates.length <;> rfl

private theorem create_gate (wiring : Wiring) (kind : ManagerKind) (generation : Generation)
    (gate : GateId) :
    (wiring.create kind generation).gate gate = wiring.gate gate ∨
      (wiring.create kind generation).gate gate = (wiring.gate gate).opening := by
  unfold create
  dsimp only
  split
  · rw [← add_gate wiring kind generation gate]
    exact resume_gate _ kind gate
  · exact .inl (add_gate wiring kind generation gate)

private theorem need_gate (wiring : Wiring) (current : Generation) (kind : ManagerKind)
    (generation : Generation) (gate : GateId) :
    (wiring.need current kind generation).2.gate gate = wiring.gate gate ∨
      (wiring.need current kind generation).2.gate gate = (wiring.gate gate).opening := by
  unfold need
  split
  · exact .inl rfl
  split
  · exact .inl rfl
  split
  · exact .inl rfl
  split
  · exact create_gate { wiring with registry := { generation } } kind generation gate
  · exact create_gate wiring kind generation gate

private theorem subscribe_gates (wiring : Wiring) (current : Generation) (manager : ManagerKind)
    (kind : EventKind) (schema : EventSchema) :
    (wiring.subscribe current manager kind schema).2.gates = wiring.gates := by
  unfold subscribe
  cases wiring.registry.manager? manager with
  | none => rfl
  | some manager =>
      dsimp only
      split
      · rfl
      split
      · rfl
      · cases kind <;> rfl

private theorem unsubscribe_gates (wiring : Wiring) (kind : ManagerKind) (id : Nat) :
    (wiring.unsubscribe kind id).gates = wiring.gates := by
  unfold unsubscribe
  cases wiring.registry.manager? kind with
  | none => rfl
  | some manager =>
      dsimp only
      split
      · rfl
      · rw [close_eq]
        rfl

/-- What a passage does to a gate and to the number of dispatches inside. -/
theorem Passage.gate (passage : Passage inside wiring others next) (gate : GateId) :
    (wiring.gate gate).Moves (inside.count gate) (next.gate gate) (others.count gate) := by
  have opened {later : Wiring} (moved : later.gate gate = wiring.gate gate ∨
      later.gate gate = (wiring.gate gate).opening) :
      (wiring.gate gate).Moves (inside.count gate) (later.gate gate) (inside.count gate) := by
    rcases moved with same | opened
    · exact same ▸ .rest
    · exact opened ▸ .opening
  cases passage with
  | same => exact .rest
  | @enter entering entered admitted =>
      rw [gate_changeGate, List.count_cons]
      by_cases same : entering = gate
      · subst same
        have placed : entering < wiring.gates.length := by
          by_contra absent
          rw [gate_of_not_lt absent] at admitted
          cases admitted
        simp only [placed, and_self, if_true, beq_self_eq_true]
        exact .enter admitted
      · simp only [same, false_and, if_false, beq_iff_eq, Nat.add_zero]
        exact .rest
  | @leave leaving _ under =>
      rw [gate_changeGate, under, List.count_cons]
      by_cases same : leaving = gate
      · subst same
        simp only [true_and, beq_self_eq_true, if_true]
        split
        · exact .leave rfl
        · case isFalse absent =>
            rw [gate_of_not_lt absent]
            have left : Gate.Moves {} (others.count leaving + 1) (Gate.leave {})
                (others.count leaving) := .leave rfl
            exact left
      · simp only [same, false_and, if_false, beq_iff_eq, Nat.add_zero]
        exact .rest
  | resume kind => exact opened (resume_gate wiring kind gate)
  | need current kind generation => exact opened (need_gate wiring current kind generation gate)
  | subscribe current manager kind schema =>
      apply opened
      simp only [Wiring.gate, subscribe_gates, true_or]
  | unsubscribe kind id =>
      apply opened
      simp only [Wiring.gate, unsubscribe_gates, true_or]
  | stop kind =>
      rcases stop_gate wiring kind gate with same | closed
      · exact same ▸ .rest
      · exact closed ▸ .closing
  | keepRecords registrations resumed => exact .rest
  | clear unsubscribed generation => exact .rest

/-! ### Shut gates -/

/-- The manager of a gate, if there is one, has no subscriptions. -/
def Vacant (wiring : Wiring) (gate : GateId) : Prop :=
  ∀ manager ∈ wiring.registry.managers, manager.gate = gate → manager.subscriptions = []

/-- A gate that is closed for good. -/
structure Shut (wiring : Wiring) (gate : GateId) : Prop where
  closed : (wiring.gate gate).isClosed
  vacant : wiring.Vacant gate

variable {gate : GateId}

theorem Shut.lt (shut : wiring.Shut gate) : gate < wiring.gates.length := by
  by_contra absent
  have closed := shut.closed
  rw [gate_of_not_lt absent] at closed
  cases closed

private theorem Vacant.update (vacant : wiring.Vacant gate) {manager : Manager}
    (own : manager.gate = gate → manager.subscriptions = []) :
    (wiring.update manager).Vacant gate := by
  intro other member
  obtain ⟨old, present, rfl⟩ := List.mem_map.mp member
  split
  · exact own
  · exact vacant old present

private theorem Vacant.resume (vacant : wiring.Vacant gate) (kind : ManagerKind) :
    (wiring.resume kind).Vacant gate := by
  cases found : wiring.registry.manager? kind with
  | none => simpa only [Wiring.resume, found] using vacant
  | some manager =>
      have opened : (wiring.changeGate manager.gate Gate.opening).Vacant gate := vacant
      simp only [Wiring.resume, found]
      split
      · exact opened.update (vacant manager (List.mem_of_find?_eq_some found))
      · exact opened

/-- A manager that is added has a gate of its own. -/
private theorem Vacant.create (vacant : wiring.Vacant gate) (placed : gate < wiring.gates.length)
    (kind : ManagerKind) (generation : Generation) :
    (wiring.create kind generation).Vacant gate := by
  have added : (wiring.add kind generation).Vacant gate := by
    intro manager member same
    rcases List.mem_cons.mp ((Registry.insertManager_perm _ _).mem_iff.mp member) with rfl | old
    · exact absurd same (Nat.ne_of_gt placed)
    · exact vacant manager old same
  unfold Wiring.create
  dsimp only
  split
  · exact added.resume kind
  · exact added

private theorem Vacant.need (vacant : wiring.Vacant gate) (placed : gate < wiring.gates.length)
    (current : Generation) (kind : ManagerKind) (generation : Generation) :
    (wiring.need current kind generation).2.Vacant gate := by
  unfold Wiring.need
  split
  · exact vacant
  split
  · exact vacant
  split
  · exact vacant
  split
  · have renewed : Vacant { wiring with registry := { generation } } gate :=
      fun _ member => absurd member List.not_mem_nil
    exact renewed.create placed kind generation
  · exact vacant.create placed kind generation

/-- A manager whose gate is closed refuses subscriptions. -/
private theorem Shut.subscribe (shut : wiring.Shut gate) (current : Generation)
    (managerKind : ManagerKind) (kind : EventKind) (schema : EventSchema) :
    (wiring.subscribe current managerKind kind schema).2.Vacant gate := by
  unfold Wiring.subscribe
  cases wiring.registry.manager? managerKind with
  | none => exact shut.vacant
  | some manager =>
      dsimp only
      split
      · exact shut.vacant
      split
      · exact shut.vacant
      case isFalse admits =>
      have other : manager.gate ≠ gate := fun same => admits (same ▸ shut.closed)
      have fed : (wiring.feed manager kind schema).2.Vacant gate := by
        cases kind <;> exact shut.vacant
      exact fed.update fun same => absurd same other

private theorem Vacant.unsubscribe (vacant : wiring.Vacant gate) (kind : ManagerKind) (id : Nat) :
    (wiring.unsubscribe kind id).Vacant gate := by
  cases found : wiring.registry.manager? kind with
  | none => simpa only [Wiring.unsubscribe, found] using vacant
  | some manager =>
      simp only [Wiring.unsubscribe, found]
      cases manager.subscriptions.find? (·.id = id) with
      | none => exact vacant
      | some subscription =>
          dsimp only
          rw [close_eq]
          have fewer : manager.gate = gate →
              manager.subscriptions.filter (·.id ≠ id) = [] := by
            intro same
            simp [vacant manager (List.mem_of_find?_eq_some found) same]
          exact vacant.update fewer

private theorem Vacant.stop (vacant : wiring.Vacant gate) (kind : ManagerKind) :
    (wiring.stop kind).Vacant gate := by
  cases found : wiring.registry.manager? kind with
  | none => simpa only [Wiring.stop, found] using vacant
  | some manager =>
      simp only [Wiring.stop, found, closeAll_eq]
      have closed : (wiring.changeGate manager.gate Gate.closing).Vacant gate := vacant
      exact closed.update fun _ => rfl

/-- A gate that is shut stays shut, and dispatches only leave it. -/
theorem Passage.shut (passage : Passage inside wiring others next) (shut : wiring.Shut gate) :
    next.Shut gate ∧ others.count gate ≤ inside.count gate := by
  obtain ⟨closed, fewer⟩ := (passage.gate gate).closed shut.closed
  refine ⟨⟨closed, ?_⟩, fewer⟩
  cases passage with
  | same => exact shut.vacant
  | enter admitted => exact shut.vacant
  | leave under => exact shut.vacant
  | resume kind => exact shut.vacant.resume kind
  | need current kind generation => exact shut.vacant.need shut.lt current kind generation
  | subscribe current manager kind schema => exact shut.subscribe current manager kind schema
  | unsubscribe kind id => exact shut.vacant.unsubscribe kind id
  | stop kind => exact shut.vacant.stop kind
  | keepRecords registrations resumed => exact shut.vacant
  | clear unsubscribed generation => exact fun _ member => absurd member List.not_mem_nil

/-- Stopping a manager shuts its gate. -/
theorem Sound.shut_stop (sound : wiring.Sound) {kind : ManagerKind} {manager : Manager}
    (found : wiring.registry.manager? kind = some manager) :
    (wiring.stop kind).Shut manager.gate := by
  obtain ⟨named, before, rest, placed, replaced⟩ := sound.split found
  have member := List.mem_of_find?_eq_some found
  constructor
  · have closing : (wiring.stop kind).gate manager.gate =
        (wiring.changeGate manager.gate Gate.closing).gate manager.gate := by
      simp only [Wiring.stop, found, closeAll_eq]
      rfl
    rw [closing, gate_changeGate, if_pos ⟨rfl, sound.gated manager member⟩]
    rfl
  · have apart := sound.apart
    rw [placed, List.map_append, List.map_cons, List.nodup_append, List.nodup_cons] at apart
    intro other present same
    simp only [Wiring.stop, found, closeAll_eq] at present
    rw [show ((wiring.changeGate manager.gate Gate.closing).update
      { manager with subscriptions := [] }).registry.managers = before ++
        { manager with subscriptions := [] } :: rest from
      replaced { manager with subscriptions := [] } named] at present
    rcases List.mem_append.mp present with earlier | later
    · exact absurd same (apart.2.2 _ (List.mem_map_of_mem earlier) _ List.mem_cons_self)
    rcases List.mem_cons.mp later with rfl | later
    · rfl
    · exact absurd (same ▸ List.mem_map_of_mem later) apart.2.1.1

/-- Only stopping its manager closes a gate. -/
theorem Passage.closing (passage : Passage inside wiring others next)
    (unclosed : ¬(wiring.gate gate).isClosed) (closed : (next.gate gate).isClosed) :
    ∃ kind manager, wiring.registry.manager? kind = some manager ∧ manager.gate = gate ∧
      next = wiring.stop kind := by
  have opened {later : Wiring} (moved : later.gate gate = wiring.gate gate ∨
      later.gate gate = (wiring.gate gate).opening) : ¬(later.gate gate).isClosed := by
    rcases moved with same | opened
    · rwa [same]
    · rwa [opened, Gate.isClosed_opening]
  cases passage with
  | same => exact absurd closed unclosed
  | @enter entering entered admitted =>
      rw [gate_changeGate] at closed
      split at closed
      · rw [Gate.isClosed, (Gate.enter?_eq_some admitted).2,
          (Gate.enter?_eq_some admitted).1] at closed
        cases closed
      · exact absurd closed unclosed
  | leave under =>
      rw [gate_changeGate] at closed
      split at closed <;> exact absurd closed unclosed
  | resume kind => exact absurd closed (opened (resume_gate wiring kind gate))
  | need current kind generation =>
      exact absurd closed (opened (need_gate wiring current kind generation gate))
  | subscribe current manager kind schema =>
      refine absurd closed (opened (.inl ?_))
      simp only [Wiring.gate, subscribe_gates]
  | unsubscribe kind id =>
      refine absurd closed (opened (.inl ?_))
      simp only [Wiring.gate, unsubscribe_gates]
  | stop kind =>
      cases found : wiring.registry.manager? kind with
      | none =>
          simp only [Wiring.stop, found] at closed
          exact absurd closed unclosed
      | some manager =>
          refine ⟨kind, manager, found, ?_, rfl⟩
          by_contra apart
          have same : (wiring.stop kind).gate gate =
              (wiring.changeGate manager.gate Gate.closing).gate gate := by
            simp only [Wiring.stop, found, closeAll_eq]
            rfl
          rw [same, gate_changeGate, if_neg fun placed => apart placed.1] at closed
          exact unclosed closed
  | keepRecords registrations resumed => exact absurd closed unclosed
  | clear unsubscribed generation => exact absurd closed unclosed

/-- No listener of the platform dispatches through a gate that is shut. -/
theorem Shut.unheard (shut : wiring.Shut gate) (sound : wiring.Sound) :
    ∀ listener ∈ wiring.bus.listeners, listener.target.gate ≠ gate := by
  intro listener member same
  have line := sound.heard.mem_iff.mp (List.mem_map_of_mem (f := Listener.line) member)
  obtain ⟨manager, present, fed⟩ := List.mem_flatMap.mp line
  obtain ⟨subscription, subscribed, described⟩ := List.mem_filterMap.mp fed
  have gated : manager.gate = listener.target.gate := by
    obtain ⟨id, -, equal⟩ := Option.map_eq_some_iff.mp described
    exact congrArg Line.gate equal
  rw [shut.vacant manager present (gated.trans same)] at subscribed
  cases subscribed

end Wiring

/-! ## Acts -/

section Acts

variable {licence : Licence} {moment next : Moment}

/-- The wiring of a host is part of what acts are about. -/
theorem wiring_of_services {host next : Host} (same : next.services = host.services) :
    next.wiring = host.wiring := by
  have shared := congrArg
    (fun services : Services => (services.bus, services.gates, services.registry)) same
  simp only [services, Prod.mk.injEq] at shared
  simp only [wiring, shared]

theorem Act.passage (act : Act licence moment next) :
    Wiring.Passage moment.inside moment.host.wiring next.inside next.host.wiring := by
  have still {later : Host} (same : later.wiring = moment.host.wiring) :
      Wiring.Passage moment.inside moment.host.wiring moment.inside later.wiring :=
    same ▸ .same
  cases act with
  | beside same => exact still (wiring_of_services (congrArg Works.services same))
  | request => exact still (wiring_of_parts (changeLoops_parts _ _))
  | spawn name generation owner work => exact still (spawn_wiring _ _ _ _ _)
  | enter admitted => exact .enter admitted
  | leave inside => exact .leave inside
  | resumeManager kind => exact resumeManager_wiring kind moment.host ▸ .resume kind
  | needManager kind generation =>
      have needed : (after (Host.needManager kind generation) moment.host).wiring = _ :=
        congrArg Prod.snd (needManager_wiring kind generation moment.host)
      exact needed ▸ .need _ _ _
  | subscribe manager kind schema =>
      have subscribed : (after (Host.subscribe manager kind schema) moment.host).wiring = _ :=
        congrArg Prod.snd (subscribe_wiring manager kind schema moment.host)
      exact subscribed ▸ .subscribe _ _ _ _
  | unsubscribe kind id => exact unsubscribe_wiring kind id moment.host ▸ .unsubscribe kind id
  | stopManager kind => exact stopManager_wiring kind moment.host ▸ .stop kind
  | keepRecords registrations resumed => exact .keepRecords registrations resumed
  | clear unsubscribed => exact .clear unsubscribed moment.host.generation
  | loops licensed same => exact still (wiring_of_services same)
  | schedule licensed same => exact still (wiring_of_services same)
  | _ => exact .same

/-- The gates of a moment count the dispatches that are inside. -/
def Moment.Counted (moment : Moment) : Prop :=
  ∀ gate, (moment.host.gate gate).inFlight = moment.inside.count gate

theorem Act.counted (act : Act licence moment next) (counted : moment.Counted) : next.Counted :=
  fun gate => (act.passage.gate gate).inFlight_eq (counted gate)

end Acts

end Host

end HomeRules
