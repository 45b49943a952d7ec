import HomeRules.Proofs.Host.Step

/-!
# What managers do to a host

Managers own the listeners of the platform, their gates and the registry, and they warn in the
journal. Beyond that they spawn the tasks of timers and cancel them again. A fact that does not
depend on what they own, and that spawning and cancelling keep, is kept by all they do.
-/

set_option autoImplicit false

namespace HomeRules.Host

/-- A manager that is stopped closes its gate and gives up its subscriptions, and then what feeds
them is closed, one by one. Whether the gate drained in time shows in the journal only. -/
theorem after_stopManager {host : Host} {kind : ManagerKind} {manager : Manager}
    (present : host.registry.manager? kind = some manager) :
    ∃ journal, after (stopManager kind) host =
      after
        (manager.subscriptions.forM fun subscription => do
          let _ ← closeFeed subscription.feed
          return ())
        { host with
          gates := host.gates.modify manager.gate Gate.closing
          registry := host.registry.update { manager with subscriptions := [] }
          journal } := by
  let closed := after (changeGate manager.gate Gate.closing) host
  have warned (timeouts : List StopTimeout) : Keeps (fun later => ∃ journal,
      later = { closed with journal }) (timeouts.forM fun timeout => warn timeout.message) := by
    refine .forM (fun timeout later => ?_) _
    rintro ⟨journal, rfl⟩
    exact ⟨_, rfl⟩
  rw [stopManager, after_get_bind, present]
  dsimp only
  rw [after_bind, after_get_bind, after_bind, after_bind, after_bind, after_pure, after_modify]
  generalize (if (closed.gate manager.gate).inFlight = 0 then _ else _ : List StopTimeout) =
    timeouts
  obtain ⟨journal, same⟩ := warned timeouts closed ⟨host.journal, rfl⟩
  exact ⟨journal, by rw [same]; rfl⟩

/-- A fact that managers keep when they release what feeds their subscriptions. -/
structure Releasing (fact : Host → Prop) : Prop where
  still : ∀ host bus gates registry journal,
    fact host → fact { host with bus, gates, registry, journal }
  cancel : ∀ id, Keeps fact (cancelTask id)

/-- A fact that managers keep, also when they start timers. -/
structure Managing (fact : Host → Prop) : Prop extends Releasing fact where
  spawn : ∀ name generation owner work, Keeps fact (spawn name generation owner work)

namespace Releasing

variable {fact : Host → Prop} (releasing : Releasing fact)
include releasing

theorem update (change : Host → Manager) :
    Keeps fact (modify fun host =>
      { host with registry := host.registry.update (change host) }) :=
  fun host holds => releasing.still host host.bus host.gates _ host.journal holds

theorem changeGate (id : GateId) (change : Gate → Gate) : Keeps fact (changeGate id change) :=
  fun host holds => releasing.still host host.bus _ host.registry host.journal holds

theorem closeFeed (feed : Feed) : Keeps fact (closeFeed feed) := by
  unfold Host.closeFeed
  split
  · exact fun host holds => releasing.still host _ host.gates host.registry host.journal holds
  · exact .pure _
  · exact .bind (releasing.cancel _) fun _ => .pure _

theorem unsubscribe (kind : ManagerKind) (id : Nat) : Keeps fact (unsubscribe kind id) := by
  refine .read fun host => ?_
  split
  · exact .pure _
  split
  · exact .pure _
  · exact .bind (releasing.update _) fun _ => releasing.closeFeed _

theorem stopManager (kind : ManagerKind) : Keeps fact (stopManager kind) := by
  have warned (text : String) : Keeps fact (warn text) :=
    fun host holds => releasing.still host host.bus host.gates host.registry _ holds
  refine .read fun host => ?_
  split
  · exact .pure _
  · exact .bind (releasing.changeGate _ _) fun _ => .read fun host =>
      .bind (.forM (fun _ => warned _) _) fun _ => .bind (releasing.update _) fun _ =>
      .bind (.forM (fun (subscription : Subscription) =>
        .bind (releasing.closeFeed subscription.feed) fun _ => .pure _) _) fun _ => .pure _

end Releasing

namespace Managing

variable {fact : Host → Prop} (managing : Managing fact)
include managing

theorem startTimer (manager : Manager) (subscription : Subscription) :
    Keeps fact (startTimer manager subscription) := by
  unfold Host.startTimer
  split
  · exact .bind (managing.spawn _ _ _ _) fun _ => .pure _
  · exact .pure _

theorem resumeManager (kind : ManagerKind) : Keeps fact (resumeManager kind) := by
  refine .read fun host => ?_
  split
  · exact .pure _
  · refine .bind (managing.changeGate _ _) fun _ => .read fun opened => ?_
    split
    · exact .bind (.mapM (managing.startTimer _) _) fun _ => managing.update _
    · exact .pure _

theorem needManager (kind : ManagerKind) (generation : Generation) :
    Keeps fact (needManager kind generation) := by
  have created : Keeps fact (createManager kind generation) := by
    refine .bind (fun host holds => managing.still host host.bus _ host.registry host.journal
      holds) fun gate => .bind (fun host holds => managing.still host host.bus host.gates _
      host.journal holds) fun _ => .read fun host => ?_
    split
    · exact managing.resumeManager kind
    · exact .pure _
  refine .get fun host holds => ?_
  split
  · exact holds
  split
  · exact holds
  split
  · exact holds
  split
  · have renewed : fact { host with registry := { generation } } :=
      managing.still host host.bus host.gates _ host.journal holds
    exact Keeps.bind created (fun _ => .pure _) _ renewed
  · exact Keeps.bind created (fun _ => .pure _) host holds

theorem subscribe (manager : ManagerKind) (kind : EventKind) (schema : EventSchema) :
    Keeps fact (subscribe manager kind schema) := by
  have opened (manager : Manager) : Keeps fact (openFeed manager kind schema) := by
    unfold openFeed
    split
    · exact .pure _
    · refine .bind (fun host holds => ?_) fun _ => .pure _
      exact managing.still host _ host.gates host.registry host.journal holds
  refine .read fun host => ?_
  split
  · exact .pure _
  split
  · exact .pure _
  split
  · exact .pure _
  refine .bind (opened _) fun feed => ?_
  dsimp only
  split
  · exact .bind (managing.startTimer _ _) fun _ => .bind (managing.update _) fun _ => .pure _
  · exact .bind (.pure _) fun _ => .bind (managing.update _) fun _ => .pure _

end Managing

/-! ## Registering

The registry is kept by what it is made of: managers that are needed, subscriptions that come and
go, and the records of who holds what.
-/

/-- A fact that is kept when handles are given back. -/
structure Striking (fact : Host → Prop) : Prop where
  unsubscribe : ∀ kind id, Keeps fact (unsubscribe kind id)
  records : ∀ host registrations,
    fact host → fact { host with registry := { host.registry with registrations } }

/-- A fact that is kept when schemas are registered. -/
structure Booking (fact : Host → Prop) : Prop extends Striking fact where
  needManager : ∀ kind generation, Keeps fact (needManager kind generation)
  subscribe : ∀ manager kind schema, Keeps fact (subscribe manager kind schema)

namespace Striking

variable {fact : Host → Prop} (striking : Striking fact)
include striking

theorem release (handle : Handle) : Keeps fact (release handle) := by
  refine .read fun host => ?_
  cases host.registry.manager? handle.manager with
  | none => exact .pure _
  | some manager =>
      dsimp only
      split
      · exact striking.unsubscribe _ _
      · exact .pure _

theorem releaseAll (handles : List Handle) : Keeps fact (releaseAll handles) :=
  .bind (.mapM striking.release handles) fun _ => .pure _

theorem unregister (script : String) (handles : List Handle) :
    Keeps fact (unregister script handles) :=
  .bind (striking.releaseAll handles) fun _ =>
    .bind (fun host holds => striking.records host _ holds) fun _ => .pure _

theorem retract (cancelled : ∀ id, Keeps fact (cancelTask id)) (context : LoadContext) :
    Keeps fact (retract context) :=
  .bind (striking.unregister _ _) fun _ =>
    .forM (fun (task : TaskHandle) => .bind (cancelled task.id) fun _ => .pure _) _

end Striking

namespace Booking

variable {fact : Host → Prop} (booking : Booking fact)
include booking

theorem subscribeWith (generation : Generation) (schema : EventSchema) (manager : ManagerKind)
    (kind : EventKind) : Keeps fact (subscribeWith generation schema manager kind) := by
  refine .bind (booking.needManager manager generation) fun needed => ?_
  cases needed with
  | error error => exact .pure _
  | ok _ => exact booking.subscribe manager kind schema

theorem subscribeAll (generation : Generation) (schema : EventSchema) (held : List Handle)
    (kinds : List EventKind) : Keeps fact (subscribeAll generation schema held kinds) := by
  induction kinds generalizing held with
  | nil => exact .pure _
  | cons kind rest previous =>
      refine .bind (booking.subscribeWith generation schema _ kind) fun result => ?_
      cases result with
      | ok handle => exact previous _
      | error error => exact .bind (booking.releaseAll held) fun _ => .pure _

theorem register (script : String) (generation : Generation) (schema : EventSchema) :
    Keeps fact (register script generation schema) := by
  refine .bind (booking.subscribeAll generation _ [] _) fun result => ?_
  cases result with
  | error error => exact .pure _
  | ok handles =>
      refine .bind (fun host holds => ?_) fun _ => .pure _
      change fact { host with registry := host.registry.record script generation handles }
      unfold Registry.record
      split
      · exact booking.records host _ holds
      · exact holds

end Booking

theorem Managing.booking {fact : Host → Prop} (managing : Managing fact) : Booking fact where
  unsubscribe := managing.unsubscribe
  records host _ holds := managing.still host host.bus host.gates _ host.journal holds
  needManager := managing.needManager
  subscribe := managing.subscribe

end HomeRules.Host
