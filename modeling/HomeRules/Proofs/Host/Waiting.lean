import HomeRules.Proofs.Host.Wired
import Mathlib.Data.List.Nodup

/-!
# Waiting managers

While scripts load, the managers of the new generation exist but none delivers: the
gate of each waits to be opened, or was closed for good. In this state the outcome of
every operation is known. A waiting manager accepts every subscription, a closed one
none, and dropping a subscription that is held removes exactly that one.
-/

set_option autoImplicit false

namespace HomeRules

/-- The phase of the gate of each manager that there is. -/
abbrev Standings := ManagerKind → Option GatePhase

namespace Standings

def need (standings : Standings) (kind : ManagerKind) : Standings :=
  fun other => if other = kind then some ((standings kind).getD .pending) else standings other

/-- Subscribes to kinds of events until a stopped manager refuses one, and says whether
none did. -/
def subscribeAll (standings : Standings) : List EventKind → Standings × Bool
  | [] => (standings, true)
  | kind :: rest =>
    let needed := standings.need kind.manager
    if needed kind.manager = some .closed then (needed, false) else subscribeAll needed rest

def change (change : GatePhase → GatePhase) (standings : Standings) (kind : ManagerKind) :
    Standings :=
  fun other => if other = kind then (standings other).map change else standings other

def stop (standings : Standings) : Standings :=
  fun kind => (standings kind).map fun _ => .closed

/-- All managers that wait begin to deliver. -/
def resume (standings : Standings) : Standings :=
  fun kind => (standings kind).map fun phase => (Gate.opening { phase }).phase

theorem need_self (standings : Standings) {kind : ManagerKind} {phase : GatePhase}
    (present : standings kind = some phase) : standings.need kind = standings := by
  funext other
  unfold need
  split
  case isTrue same => rw [same, present, Option.getD_some]
  case isFalse => rfl

/-- A source that has a manager does not notice when another one asks for its own. -/
theorem need_of_ne_none {standings : Standings} {other : ManagerKind}
    (present : standings other ≠ none) (kind : ManagerKind) :
    standings.need kind other = standings other := by
  cases found : standings other with
  | none => exact absurd found present
  | some phase =>
      unfold need
      split
      case isTrue same => rw [← same, found, Option.getD_some]
      case isFalse => exact found

theorem need_self_ne_none (standings : Standings) (kind : ManagerKind) :
    standings.need kind kind ≠ none := by
  unfold need
  rw [if_pos rfl]
  exact Option.some_ne_none _

/-- A manager that is asked for is in no phase, but the first, that none was in before. -/
theorem need_ne_some {standings : Standings} {phase : GatePhase} (moved : phase ≠ .pending)
    (avoided : ∀ kind, standings kind ≠ some phase) (kind other : ManagerKind) :
    standings.need kind other ≠ some phase := by
  unfold need
  split
  · cases found : standings kind with
    | none => simpa using moved.symm
    | some before => exact found ▸ avoided kind
  · exact avoided other

/-- No manager was stopped. -/
def Unstopped (standings : Standings) : Prop :=
  ∀ kind, standings kind ≠ some .closed

theorem Unstopped.need {standings : Standings} (unstopped : standings.Unstopped)
    (kind : ManagerKind) : (standings.need kind).Unstopped :=
  need_ne_some (by decide) unstopped kind

theorem Unstopped.subscribeAll {standings : Standings} (unstopped : standings.Unstopped)
    (kinds : List EventKind) : (standings.subscribeAll kinds).1.Unstopped := by
  induction kinds generalizing standings with
  | nil => exact unstopped
  | cons kind rest previous =>
      have needed := unstopped.need kind.manager
      unfold Standings.subscribeAll
      rw [if_neg (needed kind.manager)]
      exact previous needed

/-- A change that lasts reaches every manager when it is made for every source. -/
theorem changeAll {turn : GatePhase → GatePhase} (lasting : ∀ phase, turn (turn phase) = turn phase)
    (kinds : List ManagerKind) (standings : Standings) :
    kinds.foldl (change turn) standings = fun kind =>
      if kind ∈ kinds then (standings kind).map turn else standings kind := by
  induction kinds generalizing standings with
  | nil => simp
  | cons first rest previous =>
      rw [List.foldl_cons, previous]
      funext kind
      by_cases here : kind = first
      · by_cases again : kind ∈ rest
        · simp [change, here, Function.comp_def, lasting]
        · have last : first ∉ rest := here ▸ again
          simp [change, here, last]
      · simp [change, here]

end Standings

theorem Registry.manager?_update {registry : Registry} {kind : ManagerKind} {manager : Manager}
    (found : registry.manager? kind = some manager) {next : Manager} (same : next.kind = kind)
    (other : ManagerKind) :
    (registry.update next).manager? other =
      if other = kind then some next else registry.manager? other := by
  have kinds : (fun old : Manager => decide ((if old.kind = next.kind then next else old).kind =
      other)) = fun old => decide (old.kind = other) := by
    funext old
    split <;> simp_all
  have mapped : (registry.update next).manager? other =
      (registry.manager? other).map fun old => if old.kind = next.kind then next else old := by
    simp only [update, manager?, List.find?_map, Function.comp_def, kinds]
  rw [mapped]
  split
  case isTrue here =>
    have named : manager.kind = kind := (Registry.of_manager? found).2
    rw [here, found, Option.map_some, if_pos (named.trans same.symm)]
  case isFalse apart =>
    cases present : registry.manager? other with
    | none => rfl
    | some old =>
        have named : old.kind = other := (Registry.of_manager? present).2
        rw [Option.map_some, if_neg (by rw [named, same]; exact apart)]

theorem Registry.manager?_add {registry : Registry} {manager : Manager}
    (absent : registry.manager? manager.kind = none) (kind : ManagerKind) :
    (registry.add manager).manager? kind =
      if kind = manager.kind then some manager else registry.manager? kind := by
  have inserted (managers : List Manager)
      (absent : managers.find? (·.kind = manager.kind) = none) :
      (insertManager manager managers).find? (·.kind = kind) =
        if kind = manager.kind then some manager else managers.find? (·.kind = kind) := by
    induction managers with
    | nil => by_cases same : kind = manager.kind <;> simp [insertManager, same, eq_comm]
    | cons first rest previous =>
        have apart : first.kind ≠ manager.kind := by
          simpa using List.find?_eq_none.mp absent first List.mem_cons_self
        have later := previous (List.find?_eq_none.mpr fun other member =>
          List.find?_eq_none.mp absent other (List.mem_cons_of_mem _ member))
        unfold insertManager
        by_cases same : kind = manager.kind <;> split <;>
          simp_all [List.find?_cons, eq_comm]
  exact inserted registry.managers absent

namespace Host.Wiring

/-! ## Standings -/

def standing (wiring : Wiring) : Standings :=
  fun kind => (wiring.registry.manager? kind).map fun manager => (wiring.gate manager.gate).phase

/-- The handles of those held whose managers were not stopped. -/
def liveOf (standings : Standings) (held : List Handle) : List Handle :=
  held.filter fun handle => standings handle.manager ≠ some .closed

/-- All managers belong to a generation and none delivers. The live subscriptions
are those held, except where their managers were stopped. -/
structure Waiting (generation : Generation) (held : List Handle) (wiring : Wiring) : Prop where
  sound : wiring.Sound
  current : wiring.registry.generation = generation
  unresumed : wiring.registry.resumed = false
  unopened : ∀ kind, wiring.standing kind ≠ some .opened
  emptied : ∀ manager ∈ wiring.registry.managers,
    wiring.standing manager.kind = some .closed → manager.subscriptions = []
  sourced : ∀ handle ∈ held, handle.manager = handle.kind.manager
  known : ∀ handle ∈ held, wiring.standing handle.manager ≠ none
  live : wiring.handles.Perm (liveOf wiring.standing held)

/-- Replacing a manager by one with the same gate changes no standing. -/
theorem standing_update {wiring : Wiring} {kind : ManagerKind} {manager : Manager}
    (found : wiring.registry.manager? kind = some manager) (next : Manager)
    (same : next.kind = kind) (placed : next.gate = manager.gate) (bus : Bus Delivery) :
    standing { wiring with bus, registry := wiring.registry.update next } = wiring.standing := by
  funext other
  simp only [standing, Registry.manager?_update found same]
  split
  case isTrue here =>
    rw [here, found]
    simp only [Option.map_some, placed]
    rfl
  case isFalse => rfl

/-- The managers are told apart by their sources. -/
theorem Sound.manager?_eq {wiring : Wiring} (sound : wiring.Sound) {manager : Manager}
    (member : manager ∈ wiring.registry.managers) :
    wiring.registry.manager? manager.kind = some manager :=
  Registry.manager?_eq sound.distinct member

/-- A source without a manager has no gate to turn. -/
theorem change_of_absent {wiring : Wiring} {kind : ManagerKind}
    (absent : wiring.registry.manager? kind = none)
    (turn : GatePhase → GatePhase) : wiring.standing.change turn kind = wiring.standing := by
  funext other
  unfold Standings.change
  split
  case isTrue same => simp [standing, same, absent]
  case isFalse => rfl

/-- Turning the gate of one manager leaves the others as they stand. -/
theorem Sound.standing_changeGate {wiring : Wiring} (sound : wiring.Sound) {kind : ManagerKind}
    {manager : Manager} (found : wiring.registry.manager? kind = some manager)
    (turn : GatePhase → GatePhase) (act : Gate → Gate)
    (turned : ∀ gate, (act gate).phase = turn gate.phase) :
    (wiring.changeGate manager.gate act).standing = wiring.standing.change turn kind := by
  obtain ⟨member, named⟩ := Registry.of_manager? found
  have placed := sound.gated manager member
  have here : ((wiring.changeGate manager.gate act).gate manager.gate) =
      act (wiring.gate manager.gate) := by
    simp [gate, Wiring.changeGate, placed]
  funext other
  unfold Standings.change
  split
  case isTrue same =>
    subst same
    rw [standing, standing, show (wiring.changeGate manager.gate act).registry.manager? other =
      some manager from found, found]
    simp only [Option.map_some, here, turned]
  case isFalse apart =>
    cases present : wiring.registry.manager? other with
    | none => simp [standing, Wiring.changeGate, present]
    | some neighbour =>
        obtain ⟨listed, called⟩ := Registry.of_manager? present
        have distant : manager.gate ≠ neighbour.gate := by
          intro shared
          have one := List.inj_on_of_nodup_map sound.apart member listed shared
          exact apart (by rw [← called, ← one, named])
        have unturned : (wiring.changeGate manager.gate act).gate neighbour.gate =
            wiring.gate neighbour.gate := by
          simp [gate, Wiring.changeGate, distant]
        simp only [standing, show (wiring.changeGate manager.gate act).registry.manager? other =
          some neighbour from present, present, Option.map_some, unturned]

/-- The handles of one manager and those of the others, whatever takes its place. -/
theorem Sound.handles_split {wiring : Wiring} (sound : wiring.Sound) {kind : ManagerKind}
    {manager : Manager} (found : wiring.registry.manager? kind = some manager) :
    wiring.handles.Perm (manager.handles ++ wiring.handles.filter (·.manager ≠ kind)) ∧
      ∀ next : Manager, next.kind = kind →
        ((wiring.registry.update next).managers.flatMap Manager.handles).Perm
          (next.handles ++ wiring.handles.filter (·.manager ≠ kind)) := by
  obtain ⟨named, before, rest, split, replaced⟩ := sound.split found
  have distinct := sound.distinct
  rw [split, List.map_append, List.map_cons, List.nodup_append, List.nodup_cons] at distinct
  have own : manager.handles.filter (·.manager ≠ kind) = [] := by
    rw [List.filter_eq_nil_iff]
    intro handle member
    obtain ⟨subscription, -, rfl⟩ := List.mem_map.mp member
    simp [Manager.handle, named]
  have foreign (managers : List Manager) (apart : ∀ other ∈ managers, other.kind ≠ kind) :
      (managers.flatMap Manager.handles).filter (·.manager ≠ kind) =
        managers.flatMap Manager.handles := by
    rw [List.filter_eq_self]
    intro handle member
    obtain ⟨other, present, inside⟩ := List.mem_flatMap.mp member
    obtain ⟨subscription, -, rfl⟩ := List.mem_map.mp inside
    simp [Manager.handle, apart other present]
  have others : wiring.handles.filter (·.manager ≠ kind) =
      before.flatMap Manager.handles ++ rest.flatMap Manager.handles := by
    rw [handles, split, List.flatMap_append, List.flatMap_cons, List.filter_append,
      List.filter_append, own, List.nil_append, foreign, foreign]
    · intro other member same
      exact distinct.2.1.1 (named.trans same.symm ▸ List.mem_map_of_mem member)
    · intro other member same
      exact distinct.2.2 _ (List.mem_map_of_mem member) _ List.mem_cons_self
        (same.trans named.symm)
  have front (here : Manager) :
      ((before ++ here :: rest).flatMap Manager.handles).Perm
        (here.handles ++ (before.flatMap Manager.handles ++ rest.flatMap Manager.handles)) := by
    rw [List.flatMap_append, List.flatMap_cons, ← List.append_assoc, ← List.append_assoc]
    exact List.perm_append_comm.append_right _
  rw [others]
  refine ⟨?_, fun next same => ?_⟩
  · rw [handles, split]
    exact front manager
  · rw [replaced next same]
    exact front next

theorem mem_update {wiring : Wiring} {next manager : Manager}
    (member : manager ∈ (wiring.registry.update next).managers) :
    manager = next ∨ manager ∈ wiring.registry.managers ∧ manager.kind ≠ next.kind := by
  obtain ⟨old, present, rfl⟩ := List.mem_map.mp member
  split
  case isTrue => exact .inl rfl
  case isFalse apart => exact .inr ⟨present, apart⟩

section Waiting

variable {generation : Generation} {held : List Handle} {wiring : Wiring}

theorem Waiting.generation_eq (waiting : wiring.Waiting generation held) {kind : ManagerKind}
    {manager : Manager} (found : wiring.registry.manager? kind = some manager) :
    manager.generation = generation :=
  (waiting.sound.uniform manager (List.mem_of_find?_eq_some found)).trans waiting.current

/-- A manager that was not stopped waits. -/
theorem Waiting.standing_eq (waiting : wiring.Waiting generation held) {kind : ManagerKind}
    (present : wiring.standing kind ≠ none) (unstopped : wiring.standing kind ≠ some .closed) :
    wiring.standing kind = some .pending := by
  have unopened := waiting.unopened kind
  cases found : wiring.standing kind with
  | none => exact absurd found present
  | some phase =>
      cases phase with
      | pending => rfl
      | opened => exact absurd found unopened
      | closed => exact absurd found unstopped

/-- It does not matter in which order the handles are held. -/
theorem Waiting.perm (waiting : wiring.Waiting generation held) {others : List Handle}
    (same : held.Perm others) : wiring.Waiting generation others :=
  { waiting with
    sourced := fun handle member => waiting.sourced handle (same.mem_iff.mpr member)
    known := fun handle member => waiting.known handle (same.mem_iff.mpr member)
    live := waiting.live.trans (same.filter _) }

/-- A cleared registry waits for its first manager. -/
theorem Waiting.cleared (sound : wiring.Sound) (generation : Generation)
    (cleared : wiring.registry = { generation }) :
    wiring.Waiting generation [] ∧ wiring.standing = fun _ => none := by
  obtain ⟨bus, gates, registry⟩ := wiring
  subst cleared
  have none (kind : ManagerKind) :
      standing { bus, gates, registry := { generation } } kind = none := rfl
  refine ⟨⟨sound, rfl, rfl, fun kind => ?_, ?_, ?_, ?_, .refl _⟩, funext none⟩
  · simp [none]
  · simp
  · simp
  · simp

/-- A manager that keeps its gate, and was not stopped, may be replaced. -/
theorem Waiting.replace (waiting : wiring.Waiting generation held) {kind : ManagerKind}
    {manager : Manager} (found : wiring.registry.manager? kind = some manager) (next : Manager)
    (same : next.kind = kind) (placed : next.gate = manager.gate)
    (unstopped : wiring.standing kind ≠ some .closed) {bus : Bus Delivery}
    (sound : Sound { wiring with bus, registry := wiring.registry.update next })
    {others : List Handle} (sourced : ∀ handle ∈ others, handle.manager = handle.kind.manager)
    (known : ∀ handle ∈ others, wiring.standing handle.manager ≠ none)
    (live : ((wiring.registry.update next).managers.flatMap Manager.handles).Perm
      (liveOf wiring.standing others)) :
    Waiting generation others { wiring with bus, registry := wiring.registry.update next } := by
  have standing := standing_update found next same placed bus
  refine ⟨sound, waiting.current, waiting.unresumed, fun other => ?_,
    fun other member closed => ?_, sourced, ?_, ?_⟩
  · rw [standing]
    exact waiting.unopened other
  · rw [standing] at closed
    rcases mem_update member with rfl | ⟨old, -⟩
    · rw [same] at closed
      exact absurd closed unstopped
    · exact waiting.emptied other old closed
  · rw [standing]
    exact known
  · rw [standing]
    exact live

/-! ## Acquiring -/

theorem Waiting.keepRecords (waiting : wiring.Waiting generation held)
    (registrations : List Registration) :
    Waiting generation held
      { wiring with registry := { wiring.registry with registrations } } :=
  ⟨waiting.sound.keepRecords registrations wiring.registry.resumed, waiting.current,
    waiting.unresumed, waiting.unopened, waiting.emptied, waiting.sourced, waiting.known,
    waiting.live⟩

private theorem standing_add (sound : wiring.Sound) {kind : ManagerKind}
    (absent : wiring.registry.manager? kind = none) (generation : Generation) :
    (wiring.add kind generation).standing = wiring.standing.need kind := by
  let fresh : Manager := { kind, generation, gate := wiring.gates.length }
  have vacant : wiring.registry.manager? fresh.kind = none := absent
  funext other
  simp only [standing, Wiring.add, Registry.manager?_add vacant, Standings.need, fresh]
  split
  · simp [absent, gate]
  · cases found : wiring.registry.manager? other with
    | none => rfl
    | some manager =>
        have placed := sound.gated manager (List.mem_of_find?_eq_some found)
        simp only [Option.map_some, gate, List.getD_eq_getElem?_getD,
          List.getElem?_append_left placed]

/-- Every source that asks for a manager gets one. -/
theorem Waiting.need (waiting : wiring.Waiting generation held) (kind : ManagerKind) :
    (wiring.need generation kind generation).1 = .ok () ∧
      (wiring.need generation kind generation).2.Waiting generation held ∧
      (wiring.need generation kind generation).2.standing = wiring.standing.need kind := by
  have sound := waiting.sound.need generation kind generation
  unfold Wiring.need at sound ⊢
  rw [if_neg (not_not.mpr rfl)] at sound ⊢
  cases found : wiring.registry.manager? kind with
  | some manager =>
      have present : (some manager).any (·.generation = generation) := by
        simp [waiting.generation_eq found]
      have stands : wiring.standing kind = some (wiring.gate manager.gate).phase := by
        rw [standing, found, Option.map_some]
      rw [if_pos present, Standings.need_self _ stands]
      exact ⟨rfl, waiting, rfl⟩
  | none =>
      have unresumed : (wiring.add kind generation).registry.resumed = false := waiting.unresumed
      have created : wiring.create kind generation = wiring.add kind generation := by
        simp [Wiring.create, unresumed]
      have same : ¬(wiring.registry.generation ≠ generation) := not_not.mpr waiting.current
      have kept : ¬((decide (wiring.registry.generation ≠ generation) &&
          !wiring.registry.managers.isEmpty) = true) := by
        simp [waiting.current]
      rw [found, if_neg (by simp), if_neg kept, if_neg same, created] at sound
      rw [if_neg (by simp), if_neg kept, if_neg same, created]
      have stands := standing_add waiting.sound found generation
      have members := Registry.insertManager_perm { kind, generation, gate := wiring.gates.length }
        wiring.registry.managers
      refine ⟨rfl, ⟨sound, waiting.current, waiting.unresumed, ?_, ?_, waiting.sourced, ?_, ?_⟩,
        stands⟩
      · rw [stands]
        exact Standings.need_ne_some (by decide) waiting.unopened kind
      · intro manager member closed
        rcases List.mem_cons.mp (members.mem_iff.mp member) with rfl | present
        · rfl
        · have known : wiring.standing manager.kind ≠ none := by
            simp [standing, waiting.sound.manager?_eq present]
          rw [stands, Standings.need_of_ne_none known] at closed
          exact waiting.emptied manager present closed
      · intro handle member
        rw [stands, Standings.need_of_ne_none (waiting.known handle member)]
        exact waiting.known handle member
      · rw [stands, liveOf, List.filter_congr (fun handle member => by
          rw [Standings.need_of_ne_none (waiting.known handle member)])]
        exact (members.flatMap_right Manager.handles).trans waiting.live

/-- A stopped manager refuses every subscription. -/
theorem Waiting.refuse (waiting : wiring.Waiting generation held) {kind : EventKind}
    (closed : wiring.standing kind.manager = some .closed) (schema : EventSchema) :
    wiring.subscribe generation kind.manager kind schema =
      (.error (.staleGeneration generation), wiring) := by
  cases found : wiring.registry.manager? kind.manager with
  | none => simp [standing, found] at closed
  | some manager =>
      simp only [standing, found, Option.map_some, Option.some.injEq] at closed
      simp [Wiring.subscribe, found, Gate.isClosed, closed, waiting.generation_eq found]

/-- A manager that waits accepts every subscription. -/
theorem Waiting.accept (waiting : wiring.Waiting generation held) {kind : EventKind}
    (pending : wiring.standing kind.manager = some .pending) (schema : EventSchema) :
    ∃ handle : Handle, (wiring.subscribe generation kind.manager kind schema).1 = .ok handle ∧
      handle.kind = kind ∧
      (wiring.subscribe generation kind.manager kind schema).2.Waiting generation
        (handle :: held) ∧
      (wiring.subscribe generation kind.manager kind schema).2.standing = wiring.standing := by
  cases found : wiring.registry.manager? kind.manager with
  | none => simp [standing, found] at pending
  | some manager =>
      have sound := waiting.sound.subscribe generation kind.manager kind schema
      have waits : (wiring.gate manager.gate).phase = .pending := by
        simpa [standing, found] using pending
      have unstopped : wiring.standing kind.manager ≠ some .closed := by simp [pending]
      have admits : ¬((wiring.gate manager.gate).isClosed = true) := by
        simp [Gate.isClosed, waits]
      obtain ⟨bus, fed, -, -⟩ :=
        feed_spec wiring waiting.sound.bus manager manager.nextId kind schema
      obtain ⟨split, replaced⟩ := waiting.sound.handles_split found
      have named := (waiting.sound.split found).1
      simp only [Wiring.subscribe, found, fed, ne_eq, not_true_eq_false, if_false,
        if_neg admits] at sound ⊢
      generalize (wiring.feed manager kind schema).1 = feed at sound ⊢
      let next : Manager := { manager with
        nextId := manager.nextId + 1
        subscriptions := manager.subscriptions ++ [{ id := manager.nextId, kind, feed }] }
      let handle : Handle := manager.handle { id := manager.nextId, kind, feed }
      have given : handle = {
          id := manager.nextId, manager := kind.manager, kind
          generation := manager.generation } := by
        simp only [handle, Manager.handle, named]
      have lists : next.handles = manager.handles ++ [handle] := Manager.handles_append _ _ _
      have placed : handle.manager = kind.manager := by rw [given]
      refine ⟨handle, by rw [given], rfl, ?_, standing_update found next named rfl bus⟩
      refine waiting.replace found next named rfl unstopped sound ?_ ?_ ?_
      · intro other member
        rcases List.mem_cons.mp member with rfl | old
        · exact placed
        · exact waiting.sourced other old
      · intro other member
        rcases List.mem_cons.mp member with rfl | old
        · rw [placed, pending]
          exact Option.some_ne_none _
        · exact waiting.known other old
      · have kept : liveOf wiring.standing (handle :: held) =
            handle :: liveOf wiring.standing held := by
          refine List.filter_cons_of_pos ?_
          rw [placed, pending]
          rfl
        rw [kept]
        refine (replaced next named).trans ?_
        rw [lists, List.append_assoc]
        refine List.perm_middle.trans (.cons _ ?_)
        exact split.symm.trans waiting.live

/-! ## Giving up -/

/-- A live handle belongs to a subscription of its manager. -/
theorem Sound.mem_handles (sound : wiring.Sound) {handle : Handle} {manager : Manager}
    (found : wiring.registry.manager? handle.manager = some manager)
    (live : handle ∈ wiring.handles) :
    ∃ subscription, manager.subscriptions.find? (·.id = handle.id) = some subscription ∧
      manager.handle subscription = handle := by
  obtain ⟨other, present, inside⟩ := List.mem_flatMap.mp live
  obtain ⟨subscription, member, rfl⟩ := List.mem_map.mp inside
  obtain rfl : other = manager :=
    Option.some.inj ((sound.manager?_eq present).symm.trans found)
  exact ⟨subscription, find?_key (sound.managers other present).distinct member, rfl⟩

/-- Dropping what is held removes exactly that. -/
theorem Waiting.release {handle : Handle} (waiting : wiring.Waiting generation (handle :: held)) :
    (wiring.release handle).Waiting generation held ∧
      (wiring.release handle).standing = wiring.standing := by
  have known := waiting.known handle List.mem_cons_self
  have rest : ∀ other ∈ held, wiring.standing other.manager ≠ none :=
    fun other member => waiting.known other (List.mem_cons_of_mem _ member)
  have sourced : ∀ other ∈ held, other.manager = other.kind.manager :=
    fun other member => waiting.sourced other (List.mem_cons_of_mem _ member)
  cases found : wiring.registry.manager? handle.manager with
  | none => simp [standing, found] at known
  | some manager =>
      have member := List.mem_of_find?_eq_some found
      have named := (waiting.sound.split found).1
      by_cases closed : wiring.standing handle.manager = some .closed
      · have empty := waiting.emptied manager member (named.symm ▸ closed)
        have untouched : wiring.release handle = wiring := by
          simp [Wiring.release, Wiring.unsubscribe, found, empty]
        have dropped : liveOf wiring.standing (handle :: held) = liveOf wiring.standing held :=
          List.filter_cons_of_neg (by simp [closed])
        rw [untouched]
        exact ⟨{ waiting with sourced, known := rest, live := dropped ▸ waiting.live }, rfl⟩
      · have kept : liveOf wiring.standing (handle :: held) =
            handle :: liveOf wiring.standing held :=
          List.filter_cons_of_pos (by simp [closed])
        have live : wiring.handles.Perm (handle :: liveOf wiring.standing held) :=
          kept ▸ waiting.live
        obtain ⟨subscription, present, named'⟩ :=
          waiting.sound.mem_handles found (live.mem_iff.mpr List.mem_cons_self)
        have aged : manager.generation = handle.generation := by rw [← named']; rfl
        have sound := waiting.sound.unsubscribe handle.manager handle.id
        have parted := (waiting.sound.managers manager member).perm_filter present
        obtain ⟨split, replaced⟩ := waiting.sound.handles_split found
        simp only [Wiring.unsubscribe, found, present, close_eq] at sound
        simp only [Wiring.release, Wiring.unsubscribe, found, present, close_eq, if_pos aged]
        let next : Manager := { manager with
          subscriptions := manager.subscriptions.filter (·.id ≠ handle.id) }
        have fewer : manager.handles.Perm (handle :: next.handles) := by
          have mapped := parted.map manager.handle
          rwa [List.map_cons, named'] at mapped
        refine ⟨waiting.replace found next named rfl closed sound sourced rest ?_,
          standing_update found next named rfl _⟩
        refine (replaced next named).trans (List.Perm.cons_inv (a := handle) ?_)
        exact ((fewer.append_right _).symm.trans split.symm).trans live

/-- A stopped manager loses its subscriptions, and the others keep theirs. -/
theorem Waiting.stop (waiting : wiring.Waiting generation held) (kind : ManagerKind) :
    (wiring.stop kind).Waiting generation held ∧
      (wiring.stop kind).standing = wiring.standing.change (fun _ => .closed) kind := by
  have sound := waiting.sound.stop kind
  cases found : wiring.registry.manager? kind with
  | none =>
      have untouched : wiring.stop kind = wiring := by simp [Wiring.stop, found]
      rw [untouched, change_of_absent found]
      exact ⟨waiting, rfl⟩
  | some manager =>
      have member := List.mem_of_find?_eq_some found
      have named := (waiting.sound.split found).1
      obtain ⟨split, replaced⟩ := waiting.sound.handles_split found
      let next : Manager := { manager with subscriptions := [] }
      let closed := wiring.changeGate manager.gate Gate.closing
      have stands : (wiring.stop kind).standing =
          wiring.standing.change (fun _ => .closed) kind := by
        rw [← waiting.sound.standing_changeGate found (fun _ => .closed) Gate.closing fun _ => rfl]
        simp only [Wiring.stop, found, closeAll_eq]
        have kept : closed.registry.manager? kind = some manager := found
        exact standing_update kept next named rfl _
      refine ⟨⟨sound, ?_, ?_, fun other => ?_, fun other present gone => ?_, waiting.sourced,
        fun handle held => ?_, ?_⟩, stands⟩
      · simp only [Wiring.stop, found, closeAll_eq]
        exact waiting.current
      · simp only [Wiring.stop, found, closeAll_eq]
        exact waiting.unresumed
      · rw [stands]
        unfold Standings.change
        split
        · cases wiring.standing other <;> simp
        · exact waiting.unopened other
      · simp only [Wiring.stop, found, closeAll_eq] at present
        rcases mem_update present with rfl | ⟨old, apart⟩
        · rfl
        · rw [stands] at gone
          unfold Standings.change at gone
          rw [if_neg (named ▸ apart)] at gone
          exact waiting.emptied other old gone
      · rw [stands]
        unfold Standings.change
        split
        · simpa using waiting.known handle held
        · exact waiting.known handle held
      · have left : liveOf (wiring.standing.change (fun _ => .closed) kind) held =
            (liveOf wiring.standing held).filter (·.manager ≠ kind) := by
          rw [liveOf, liveOf, List.filter_filter]
          refine List.filter_congr fun handle member => ?_
          unfold Standings.change
          by_cases same : handle.manager = kind
          · have present := waiting.known handle member
            rw [same] at present ⊢
            cases here : wiring.standing kind with
            | none => exact absurd here present
            | some phase => simp
          · simp [same]
        rw [stands, left]
        simp only [Wiring.stop, found, closeAll_eq]
        exact (replaced next named).trans (waiting.live.filter _)

/-- What is done to the manager of every source is done to all managers. -/
theorem changeAll_standing {turn : GatePhase → GatePhase}
    (lasting : ∀ phase, turn (turn phase) = turn phase) :
    (wiring.registry.managers.map (·.kind)).foldl (Standings.change turn) wiring.standing =
      fun kind => (wiring.standing kind).map turn := by
  rw [Standings.changeAll lasting]
  funext kind
  split
  case isTrue => rfl
  case isFalse absent =>
    cases found : wiring.registry.manager? kind with
    | none => simp [standing, found]
    | some manager =>
        obtain ⟨member, named⟩ := Registry.of_manager? found
        exact absurd (named ▸ List.mem_map_of_mem member) absent

/-- Stopping all managers leaves none that waits. -/
theorem Waiting.stopAll (waiting : wiring.Waiting generation held) :
    ((wiring.registry.managers.map (·.kind)).foldl Wiring.stop wiring).Waiting generation held ∧
      ((wiring.registry.managers.map (·.kind)).foldl Wiring.stop wiring).standing =
        wiring.standing.stop := by
  have each (kinds : List ManagerKind) {wiring : Wiring}
      (waiting : wiring.Waiting generation held) :
      (kinds.foldl Wiring.stop wiring).Waiting generation held ∧
        (kinds.foldl Wiring.stop wiring).standing =
          kinds.foldl (Standings.change fun _ => .closed) wiring.standing := by
    induction kinds generalizing wiring with
    | nil => exact ⟨waiting, rfl⟩
    | cons kind rest previous =>
        obtain ⟨stopped, stands⟩ := waiting.stop kind
        rw [List.foldl_cons, List.foldl_cons, ← stands]
        exact previous stopped
  obtain ⟨stopped, stands⟩ := each (wiring.registry.managers.map (·.kind)) waiting
  exact ⟨stopped, stands.trans (changeAll_standing fun _ => rfl)⟩

/-! ## Delivering -/

private theorem opening_phase (gate : Gate) :
    gate.opening.phase = (Gate.opening { phase := gate.phase }).phase := by
  obtain ⟨phase, inFlight⟩ := gate
  cases phase <;> rfl

/-- A manager that delivers has its gate turned, and nothing else. -/
theorem Sound.resume_spec (sound : wiring.Sound) (kind : ManagerKind) :
    (wiring.resume kind).bus = wiring.bus ∧ (wiring.resume kind).registry = wiring.registry ∧
      (wiring.resume kind).standing =
        wiring.standing.change (fun phase => (Gate.opening { phase }).phase) kind := by
  cases found : wiring.registry.manager? kind with
  | none =>
      rw [change_of_absent found]
      simp [Wiring.resume, found]
  | some manager =>
      have opened := sound.changeGate manager.gate Gate.opening
      have kept : (wiring.changeGate manager.gate Gate.opening).registry.manager? kind =
          some manager := found
      have turned : wiring.resume kind = wiring.changeGate manager.gate Gate.opening := by
        have same := opened.update_self kept
        simp only [Wiring.resume, found, same, ite_self]
      rw [turned]
      exact ⟨rfl, rfl, sound.standing_changeGate found _ Gate.opening opening_phase⟩

/-- When all managers are told to deliver, those that waited do so. -/
theorem Sound.resumeAll (sound : wiring.Sound) :
    let resumed := (wiring.registry.managers.map (·.kind)).foldl Wiring.resume wiring
    resumed.bus = wiring.bus ∧ resumed.registry = wiring.registry ∧ resumed.Sound ∧
      resumed.standing = wiring.standing.resume := by
  have each (kinds : List ManagerKind) {wiring : Wiring} (sound : wiring.Sound) :
      (kinds.foldl Wiring.resume wiring).bus = wiring.bus ∧
        (kinds.foldl Wiring.resume wiring).registry = wiring.registry ∧
        (kinds.foldl Wiring.resume wiring).Sound ∧
        (kinds.foldl Wiring.resume wiring).standing =
          kinds.foldl (Standings.change fun phase => (Gate.opening { phase }).phase)
            wiring.standing := by
    induction kinds generalizing wiring with
    | nil => exact ⟨rfl, rfl, sound, rfl⟩
    | cons kind rest previous =>
        obtain ⟨bus, registry, stands⟩ := sound.resume_spec kind
        rw [List.foldl_cons, List.foldl_cons, ← stands, ← bus, ← registry]
        exact previous (sound.resume kind)
  obtain ⟨bus, registry, resumed, stands⟩ := each (wiring.registry.managers.map (·.kind)) sound
  refine ⟨bus, registry, resumed, stands.trans (changeAll_standing fun phase => ?_)⟩
  cases phase <;> rfl

end Waiting

end Host.Wiring

end HomeRules
