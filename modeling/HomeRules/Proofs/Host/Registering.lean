import HomeRules.Proofs.Host.Holdings
import HomeRules.Proofs.Host.Installing

/-!
# Registering

A schema is registered for all its entries or for none. Where one entry is refused, after
managers were added, listeners opened and timers started for the entries before it, all that is
undone. This holds for every registry that registrations, stops and generations may have left.
-/

set_option autoImplicit false

namespace HomeRules.Host

namespace Wiring

/-! ## Live handles -/

section Sound

variable {wiring : Wiring} (sound : wiring.Sound)
include sound

theorem Sound.handles_nodup : wiring.handles.Nodup := by
  rw [handles, List.nodup_flatMap]
  constructor
  · intro manager member
    refine List.Nodup.of_map Handle.id ?_
    rw [Manager.handles, List.map_map]
    exact (sound.managers manager member).distinct
  · refine (List.pairwise_map.mp sound.distinct).imp fun apart handle one other => apart ?_
    obtain ⟨subscription, -, rfl⟩ := List.mem_map.mp one
    obtain ⟨second, -, same⟩ := List.mem_map.mp other
    exact (congrArg Handle.manager same).symm

private theorem Sound.create_registry {kind : ManagerKind} {generation : Generation}
    (absent : wiring.registry.manager? kind = none)
    (current : wiring.registry.generation = generation) :
    (wiring.create kind generation).registry = (wiring.add kind generation).registry := by
  have added := sound.add absent current
  unfold Wiring.create
  dsimp only
  split
  · exact (added.resume_spec kind).2.1
  · rfl

/-- Nothing is to do or to be done, or a manager is added, where there is none left of another
generation. -/
theorem Sound.need_cases (current : Generation) (kind : ManagerKind) (generation : Generation) :
    ((wiring.need current kind generation).2 = wiring ∧
        ((wiring.need current kind generation).1 = .ok () →
          wiring.registry.generation = generation)) ∨
      ∃ registry, (registry = wiring.registry ∨
          wiring.registry.managers = [] ∧ registry = { generation }) ∧
        registry.generation = generation ∧
        (wiring.need current kind generation).2.registry =
          registry.add { kind, generation, gate := wiring.gates.length } := by
  unfold Wiring.need
  split
  case isTrue => exact .inl ⟨rfl, nofun⟩
  split
  case isTrue present =>
    obtain ⟨manager, found, aged⟩ := (Option.any_eq_true _ _).mp present
    refine .inl ⟨rfl, fun _ => ?_⟩
    rw [← sound.uniform manager (List.mem_of_find?_eq_some found)]
    exact of_decide_eq_true aged
  case isFalse absent =>
  split
  case isTrue => exact .inl ⟨rfl, nofun⟩
  case isFalse cleared =>
  right
  split
  case isTrue moved =>
    have empty : wiring.registry.managers = [] := by simpa [moved] using cleared
    have renewed := sound.renew (by simp [lines, empty]) generation
    exact ⟨_, .inr ⟨empty, rfl⟩, rfl, renewed.create_registry rfl rfl⟩
  case isFalse same =>
    have same : wiring.registry.generation = generation := Decidable.not_not.mp same
    exact ⟨_, .inl rfl, same, sound.create_registry (sound.manager?_eq_none same absent) same⟩

theorem Sound.need_handles (current : Generation) (kind : ManagerKind) (generation : Generation) :
    (wiring.need current kind generation).2.handles.Perm wiring.handles := by
  rcases sound.need_cases current kind generation with ⟨same, -⟩ | ⟨registry, from?, -, added⟩
  · rw [same]
  · have members := Registry.insertManager_perm { kind, generation, gate := wiring.gates.length }
      registry.managers
    have old : registry.managers.flatMap Manager.handles = wiring.handles := by
      rcases from? with rfl | ⟨empty, rfl⟩
      · rfl
      · rw [handles, empty]
    rw [handles, added, ← old]
    exact members.flatMap_right Manager.handles

theorem Sound.need_generation (current : Generation) (kind : ManagerKind) (generation : Generation)
    (given : (wiring.need current kind generation).1 = .ok ()) :
    (wiring.need current kind generation).2.registry.generation = generation := by
  rcases sound.need_cases current kind generation with ⟨same, present⟩ | ⟨registry, -, aged, added⟩
  · rw [same]
    exact present given
  · rw [added]
    exact aged

/-- A subscription that is not refused is live, and nothing else changes. -/
theorem Sound.subscribe_handles {current : Generation} {source : ManagerKind} {kind : EventKind}
    {schema : EventSchema} {handle : Handle}
    (given : (wiring.subscribe current source kind schema).1 = .ok handle) :
    handle.kind = kind ∧ handle.manager = kind.manager ∧
      handle.generation = wiring.registry.generation ∧
      (wiring.subscribe current source kind schema).2.registry.generation =
        wiring.registry.generation ∧
      (wiring.subscribe current source kind schema).2.handles.Perm
        (wiring.handles ++ [handle]) := by
  unfold Wiring.subscribe at given ⊢
  cases found : wiring.registry.manager? source with
  | none => simp [found] at given
  | some manager =>
      simp only [found] at given ⊢
      split at given
      case isTrue => cases given
      case isFalse right =>
      rw [if_neg right]
      have right : kind.manager = source := Decidable.not_not.mp right
      split at given
      case isTrue => cases given
      case isFalse opened =>
      rw [if_neg opened]
      obtain ⟨bus, fed, -, -⟩ := feed_spec wiring sound.bus manager manager.nextId kind schema
      obtain ⟨split, replaced⟩ := sound.handles_split found
      have named := (sound.split found).1
      let next : Manager := { manager with
        nextId := manager.nextId + 1
        subscriptions := manager.subscriptions ++
          [{ id := manager.nextId, kind, feed := (wiring.feed manager kind schema).1 }] }
      have lists : next.handles = manager.handles ++ [{
          id := manager.nextId, manager := source, kind, generation := manager.generation }] := by
        rw [Manager.handles_append, Manager.handle, named]
      cases given
      rw [fed]
      refine ⟨rfl, right.symm, sound.uniform manager (List.mem_of_find?_eq_some found), rfl, ?_⟩
      refine (replaced next named).trans ?_
      rw [lists, List.append_assoc]
      refine (List.perm_append_comm.append_left _).trans ?_
      rw [← List.append_assoc]
      exact split.symm.append_right _

end Sound

/-! ## Records -/

/-- Nothing but these registrations is recorded, and none where there is no manager. -/
structure Enrolled (records : List Registration) (wiring : Wiring) : Prop where
  recorded : wiring.registry.registrations = records
  staffed : wiring.registry.managers = [] → records = []

section Enrolled

variable {records : List Registration} {wiring : Wiring} (enrolled : wiring.Enrolled records)
include enrolled

private theorem Enrolled.update (manager : Manager) : (wiring.update manager).Enrolled records :=
  ⟨enrolled.recorded, fun empty => enrolled.staffed (List.map_eq_nil_iff.mp empty)⟩

private theorem Enrolled.closeAll (feeds : List Feed) :
    (feeds.foldl close wiring).Enrolled records := by
  have same := closeAll_registry wiring feeds
  exact ⟨same ▸ enrolled.recorded, same ▸ enrolled.staffed⟩

theorem Enrolled.resume (kind : ManagerKind) : (wiring.resume kind).Enrolled records := by
  unfold Wiring.resume
  cases wiring.registry.manager? kind with
  | none => exact enrolled
  | some manager =>
      have opened : (wiring.changeGate manager.gate Gate.opening).Enrolled records :=
        ⟨enrolled.recorded, enrolled.staffed⟩
      dsimp only
      split
      · exact opened.update manager
      · exact opened

theorem Enrolled.stop (kind : ManagerKind) : (wiring.stop kind).Enrolled records := by
  unfold Wiring.stop
  cases wiring.registry.manager? kind with
  | none => exact enrolled
  | some manager =>
      have closed : (wiring.changeGate manager.gate Gate.closing).Enrolled records :=
        ⟨enrolled.recorded, enrolled.staffed⟩
      exact (closed.update _).closeAll _

theorem Enrolled.release (handle : Handle) : (wiring.release handle).Enrolled records := by
  unfold Wiring.release Wiring.unsubscribe
  cases wiring.registry.manager? handle.manager with
  | none => exact enrolled
  | some manager =>
      dsimp only
      split
      case isFalse => exact enrolled
      cases manager.subscriptions.find? (·.id = handle.id) with
      | none => exact enrolled
      | some subscription => exact (enrolled.update _).closeAll [subscription.feed]

/-- What is done to one source after the other, in the way of one, keeps the records. -/
theorem Enrolled.each {act : Wiring → ManagerKind → Wiring}
    (kept : ∀ wiring kind, Enrolled records wiring → Enrolled records (act wiring kind))
    (kinds : List ManagerKind) : (kinds.foldl act wiring).Enrolled records := by
  induction kinds generalizing wiring with
  | nil => exact enrolled
  | cons kind rest previous => exact previous (kept wiring kind enrolled)

theorem Enrolled.need (sound : wiring.Sound) (current : Generation) (kind : ManagerKind)
    (generation : Generation) : (wiring.need current kind generation).2.Enrolled records := by
  rcases sound.need_cases current kind generation with ⟨same, -⟩ | ⟨registry, origin, -, added⟩
  · rw [same]
    exact enrolled
  · constructor
    · rw [added]
      rcases origin with rfl | ⟨empty, rfl⟩
      · exact enrolled.recorded
      · exact (enrolled.staffed empty).symm
    · intro empty
      rw [added] at empty
      have members := Registry.insertManager_perm { kind, generation, gate := wiring.gates.length }
        registry.managers
      rw [show Registry.insertManager _ registry.managers = [] from empty] at members
      cases members.nil_eq

theorem Enrolled.subscribe (sound : wiring.Sound) (current : Generation) (source : ManagerKind)
    (kind : EventKind) (schema : EventSchema) :
    (wiring.subscribe current source kind schema).2.Enrolled records := by
  unfold Wiring.subscribe
  cases wiring.registry.manager? source with
  | none => exact enrolled
  | some manager =>
      dsimp only
      split
      · exact enrolled
      split
      · exact enrolled
      obtain ⟨bus, fed, -, -⟩ := feed_spec wiring sound.bus manager manager.nextId kind schema
      have listening : ({ wiring with bus } : Wiring).Enrolled records :=
        ⟨enrolled.recorded, enrolled.staffed⟩
      rw [fed]
      exact listening.update _

end Enrolled

end Wiring

/-! ## One entry after the other -/

section SubscribeAll

variable {base : Host} {held : List Handle} {tasks : List TaskId} (generation : Generation)

/-- What a registration that was accepted adds. -/
structure Entered (host : Host) (generation : Generation) (kinds : List EventKind)
    (handles : List Handle) (next : Host) : Prop where
  kinds : handles.map (·.kind) = kinds
  tagged : ∀ handle ∈ handles, handle.manager = handle.kind.manager ∧ handle.generation = generation
  live : next.wiring.handles.Perm (host.wiring.handles ++ handles)

theorem Entered.cons {host middle next : Host} {kind : EventKind} {kinds : List EventKind}
    {handle : Handle} {handles : List Handle} {generation : Generation}
    (first : Entered host generation [kind] [handle] middle)
    (rest : Entered middle generation kinds handles next) :
    Entered host generation (kind :: kinds) (handle :: handles) next := by
  constructor
  · rw [List.map_cons, rest.kinds]
    exact congrArg (· ++ kinds) first.kinds
  · intro other member
    rcases List.mem_cons.mp member with rfl | later
    · exact first.tagged other List.mem_cons_self
    · exact rest.tagged other later
  · rw [List.append_cons]
    exact rest.live.trans (first.live.append_right handles)

private theorem subscribeWith_accounts (schema : EventSchema) (kind : EventKind) {host : Host}
    (sound : host.wiring.Sound) (accounted : Accounted base held tasks host) :
    (∃ handle, answer (subscribeWith generation schema kind.manager kind) host = .ok handle ∧
        Entered host generation [kind] [handle]
          (after (subscribeWith generation schema kind.manager kind) host) ∧
        Accounted base (held ++ [handle]) tasks
          (after (subscribeWith generation schema kind.manager kind) host)) ∨
      (∃ error, answer (subscribeWith generation schema kind.manager kind) host = .error error) ∧
        Accounted base held tasks
          (after (subscribeWith generation schema kind.manager kind) host) := by
  have needed := accounted.widened (needManager_widened sound kind.manager generation)
  have ready := sound.need host.generation kind.manager generation
  have before := sound.need_handles host.generation kind.manager generation
  have aged := sound.need_generation host.generation kind.manager generation
  rw [← needManager_wiring] at ready before aged
  rw [subscribeWith, answer_bind, after_bind]
  generalize answer (needManager kind.manager generation) host = given at *
  generalize after (needManager kind.manager generation) host = middle at *
  cases given with
  | error error => exact .inr ⟨⟨error, rfl⟩, needed⟩
  | ok =>
      dsimp only at ready before aged ⊢
      rcases subscribe_spec kind.manager kind schema middle with ⟨refused, untouched⟩ |
        ⟨manager, feed, opened, found, opens, -, given, reached⟩
      · rw [untouched]
        exact .inr ⟨refused, needed⟩
      · have wired := subscribe_wiring kind.manager kind schema middle
        obtain ⟨kinds, placed, tagged, -, live⟩ := ready.subscribe_handles
          ((congrArg Prod.fst wired).symm.trans given)
        rw [← congrArg Prod.snd wired] at live
        refine .inl ⟨_, given, ⟨?_, ?_, ?_⟩, ?_⟩
        · rfl
        · intro handle member
          rw [List.mem_singleton.mp member]
          exact ⟨placed, tagged.trans (aged rfl)⟩
        · exact live.trans (before.append_right _)
        · rw [reached]
          exact needed.subscribe found opens

theorem subscribeAll_accounts (schema : EventSchema) (kinds : List EventKind)
    {sofar : List Handle} {host : Host} (sound : host.wiring.Sound)
    (accounted : Accounted base (sofar ++ held) tasks host) :
    (∃ handles, answer (subscribeAll generation schema sofar kinds) host = .ok (sofar ++ handles) ∧
        Entered host generation kinds handles
          (after (subscribeAll generation schema sofar kinds) host) ∧
        Accounted base (sofar ++ handles ++ held) tasks
          (after (subscribeAll generation schema sofar kinds) host)) ∨
      (∃ error, answer (subscribeAll generation schema sofar kinds) host = .error error) ∧
        Accounted base held tasks (after (subscribeAll generation schema sofar kinds) host) := by
  induction kinds generalizing sofar host with
  | nil =>
      refine .inl ⟨[], ?_, ⟨rfl, nofun, ?_⟩, ?_⟩
      · rw [List.append_nil]
        rfl
      · rw [List.append_nil]
        exact .refl _
      · rw [List.append_nil]
        exact accounted
  | cons kind rest previous =>
      have path : Reaches true host
          (after (subscribeWith generation schema kind.manager kind) host) :=
        reaches_booking.subscribeWith generation schema kind.manager kind host .refl
      have outcome := subscribeWith_accounts generation schema kind sound accounted
      rw [subscribeAll, answer_bind, after_bind]
      generalize answer (subscribeWith generation schema kind.manager kind) host = given at *
      generalize after (subscribeWith generation schema kind.manager kind) host = next at *
      rcases outcome with ⟨handle, rfl, entered, kept⟩ | ⟨⟨error, rfl⟩, kept⟩
      · dsimp only
        have ordered : Accounted base (sofar ++ [handle] ++ held) tasks next := by
          refine kept.perm ?_
          rw [List.append_assoc, List.append_assoc]
          exact List.perm_append_comm.append_left sofar
        rcases previous (path.sound sound) ordered with ⟨handles, all, others, last⟩ | refused
        · refine .inl ⟨handle :: handles, ?_, ?_, ?_⟩
          · rw [all, List.append_assoc]
            rfl
          · exact entered.cons others
          · rw [List.append_cons]
            exact last
        · exact .inr refused
      · refine .inr ⟨⟨error, rfl⟩, ?_⟩
        exact kept.releaseAll (path.sound sound)

/-- What is registered is only recorded beside the managers. -/
private theorem record_managers (registry : Registry) (script : String) (handles : List Handle) :
    (registry.record script generation handles).managers = registry.managers := by
  unfold Registry.record
  split <;> rfl

theorem register_accounts (script : String) (schema : EventSchema) {host : Host}
    (sound : host.wiring.Sound) (accounted : Accounted base held tasks host) :
    (∃ handles, answer (register script generation schema) host = .ok handles ∧
        Entered host generation schema.kinds handles
          (after (register script generation schema) host) ∧
        Accounted base (held ++ handles) tasks
          (after (register script generation schema) host)) ∨
      (∃ error, answer (register script generation schema) host = .error error) ∧
        Accounted base held tasks (after (register script generation schema) host) := by
  have start : Accounted base ([] ++ held) tasks host := accounted
  have outcome :=
    subscribeAll_accounts generation (schema.withOwner script) schema.kinds sound start
  rw [register, answer_bind, after_bind]
  generalize answer (subscribeAll generation (schema.withOwner script) [] schema.kinds) host =
    given at *
  generalize after (subscribeAll generation (schema.withOwner script) [] schema.kinds) host =
    next at *
  rcases outcome with ⟨handles, rfl, entered, kept⟩ | ⟨⟨error, rfl⟩, kept⟩
  · rw [List.nil_append] at kept ⊢
    refine .inl ⟨handles, rfl, ⟨entered.kinds, entered.tagged, ?_⟩, ?_⟩
    · have same : ({ next with
          registry := next.registry.record script generation handles } : Host).wiring.handles =
          next.wiring.handles := by
        simp only [Wiring.handles, wiring, Registry.bare, record_managers]
      exact (List.Perm.of_eq same).trans entered.live
    · have widened : Widened next { next with
          registry := next.registry.record script generation handles } := by
        refine .of_same (fun kind => ?_) rfl rfl
        simp only [Registry.manager?, record_managers]
      exact (kept.widened widened).perm List.perm_append_comm
  · exact .inr ⟨⟨error, rfl⟩, kept⟩

end SubscribeAll

/-! ## Histories -/

/-- One thing that can happen to a registry. Managers are forgotten only where none has a
subscription, which is so once they were all stopped. -/
inductive Registering (host : Host) : Host → Prop where
  | register (script : String) (generation : Generation) (schema : EventSchema)
      (named : schema.kinds ≠ []) :
      Registering host (after (register script generation schema) host)
  | unregister (script : String) (handles : List Handle) :
      Registering host (after (unregister script handles) host)
  | resume (generation : Generation) : Registering host (after (resumeRegistry generation) host)
  | stop : Registering host (after stopRegistry host)
  | clear (stopped : host.wiring.Unsubscribed) : Registering host (after clearRegistry host)
  | advance : Registering host (after advanceGeneration host)
  | aside {next : Host} (path : Reaches true host next) (same : next.registry = host.registry) :
      Registering host next

theorem Registering.reaches {host next : Host} (step : Registering host next) :
    Reaches true host next := by
  cases step with
  | register script generation schema => exact register_reaches script generation schema host .refl
  | unregister script handles => exact reaches_striking.unregister script handles host .refl
  | resume generation => exact resumeRegistry_reaches generation host .refl
  | stop => exact stopRegistry_reaches host .refl
  | clear stopped => exact .single (.clear rfl stopped)
  | advance => exact advanceGeneration_reaches host .refl
  | aside path => exact path

/-! ## What is recorded -/

section Enrolled

variable {records : List Registration} {host : Host} (sound : host.wiring.Sound)
  (enrolled : host.wiring.Enrolled records)
include sound enrolled

private theorem releaseAll_enrolled (handles : List Handle) :
    (after (releaseAll handles) host).wiring.Enrolled records := by
  change (after (handles.mapM release) host).wiring.Enrolled records
  induction handles generalizing host with
  | nil => exact enrolled
  | cons handle rest previous =>
      have path : Reaches true host (after (release handle) host) :=
        reaches_striking.release handle host .refl
      have released : (after (release handle) host).wiring.Enrolled records := by
        rw [release_wiring]
        exact enrolled.release handle
      rw [List.mapM_cons]
      exact previous (path.sound sound) released

private theorem subscribeWith_enrolled (generation : Generation) (schema : EventSchema)
    (kind : EventKind) :
    (after (subscribeWith generation schema kind.manager kind) host).wiring.Enrolled records := by
  have ready := sound.need host.generation kind.manager generation
  have needed := enrolled.need sound host.generation kind.manager generation
  rw [← needManager_wiring] at ready needed
  rw [subscribeWith, after_bind]
  cases answer (needManager kind.manager generation) host with
  | error error => exact needed
  | ok =>
      have subscribed := needed.subscribe ready
        (after (needManager kind.manager generation) host).generation kind.manager kind schema
      rw [← subscribe_wiring] at subscribed
      exact subscribed

private theorem subscribeAll_enrolled (generation : Generation) (schema : EventSchema)
    (sofar : List Handle) (kinds : List EventKind) :
    (after (subscribeAll generation schema sofar kinds) host).wiring.Enrolled records := by
  induction kinds generalizing sofar host with
  | nil => exact enrolled
  | cons kind rest previous =>
      have path : Reaches true host
          (after (subscribeWith generation schema kind.manager kind) host) :=
        reaches_booking.subscribeWith generation schema kind.manager kind host .refl
      have subscribed := subscribeWith_enrolled sound enrolled generation schema kind
      rw [subscribeAll, after_bind]
      cases answer (subscribeWith generation schema kind.manager kind) host with
      | ok handle => exact previous (path.sound sound) subscribed (sofar ++ [handle])
      | error error => exact releaseAll_enrolled (path.sound sound) subscribed sofar

end Enrolled

/-- What every history of registrations leaves. -/
structure Registered (host : Host) : Prop where
  sound : host.wiring.Sound
  tidy : host.Tidy
  enrolled : host.wiring.Enrolled host.registry.registrations

section Registered

variable {host : Host} (registered : Registered host)
include registered

theorem Registered.accounted : Accounted host [] [] host :=
  (Bounded.of_sound registered.sound registered.tidy.numbered).accounted

/-- A registration is recorded once, if it is accepted. -/
theorem Registered.recorded (script : String) (generation : Generation) {schema : EventSchema}
    (named : schema.kinds ≠ []) :
    (after (register script generation schema) host).registry.registrations =
        (match answer (Host.register script generation schema) host with
          | .ok handles => host.registry.registrations ++ [⟨script, handles⟩]
          | .error _ => host.registry.registrations) ∧
      ((after (Host.register script generation schema) host).registry.managers = [] →
        (after (Host.register script generation schema) host).registry.registrations = []) := by
  have start : Accounted host ([] ++ []) [] host := registered.accounted
  have enrolled := subscribeAll_enrolled registered.sound registered.enrolled generation
    (schema.withOwner script) [] schema.kinds
  have sound : (after (subscribeAll generation (schema.withOwner script) [] schema.kinds)
      host).wiring.Sound := by
    have path : Reaches true host
        (after (subscribeAll generation (schema.withOwner script) [] schema.kinds) host) :=
      reaches_booking.subscribeAll generation _ [] schema.kinds host .refl
    exact path.sound registered.sound
  have outcome := subscribeAll_accounts generation (schema.withOwner script) schema.kinds
    registered.sound start
  rw [Host.register, answer_bind, after_bind]
  generalize answer (subscribeAll generation (schema.withOwner script) [] schema.kinds) host =
    given at *
  generalize after (subscribeAll generation (schema.withOwner script) [] schema.kinds) host =
    next at *
  have records : next.registry.registrations = host.registry.registrations := enrolled.recorded
  rcases outcome with ⟨handles, rfl, entered, kept⟩ | ⟨⟨error, rfl⟩, kept⟩
  · -- `record` writes only under its own generation; the manager of any entry tells that it is
    -- still the current one.
    obtain ⟨handle, member⟩ : ∃ handle, handle ∈ handles := by
      refine List.exists_mem_of_ne_nil _ fun empty => named ?_
      rw [← entered.kinds, empty, List.map_nil]
    obtain ⟨-, manager, found, aged⟩ := kept.known handle
      (List.mem_append_left _ (List.mem_append_right _ member))
    have present := List.mem_of_find?_eq_some found
    have current : next.registry.generation = generation := by
      have uniform := sound.uniform manager.bare (List.mem_map_of_mem present)
      exact uniform.symm.trans (aged.trans (entered.tagged handle member).2)
    have recorded : next.registry.record script generation handles = { next.registry with
        registrations := host.registry.registrations ++ [⟨script, handles⟩] } := by
      rw [Registry.record, if_pos current, records]
    rw [List.nil_append, after_bind, after_modify, after_pure, recorded]
    exact ⟨rfl, fun empty => absurd present (empty ▸ List.not_mem_nil)⟩
  · refine ⟨records, fun empty => records.trans (enrolled.staffed ?_)⟩
    exact List.map_eq_nil_iff.mpr empty

end Registered

/-! ## All or nothing -/

theorem Registering.registered {host next : Host} (step : Registering host next)
    (registered : Registered host) : Registered next := by
  have path := step.reaches
  refine ⟨path.sound registered.sound, Evolves.tidy path.evolves registered.tidy, rfl, ?_⟩
  have old := registered.enrolled
  have kept (same : next.wiring.Enrolled host.registry.registrations)
      (empty : next.wiring.registry.managers = []) : next.registry.registrations = [] :=
    same.recorded.trans (same.staffed empty)
  cases step with
  | register script generation schema named =>
      intro empty
      exact (registered.recorded script generation named).2 (List.map_eq_nil_iff.mp empty)
  | unregister script handles =>
      intro empty
      have released := releaseAll_enrolled registered.sound old handles
      have none : (after (releaseAll handles) host).registry.registrations = [] :=
        released.recorded.trans (released.staffed empty)
      rw [Host.unregister, after_bind, after_bind, after_modify, after_pure, Registry.strike, none]
      rfl
  | resume generation =>
      refine kept ?_
      by_cases current : host.registry.generation = generation
      · rw [resumeRegistry_wiring current]
        have marked : Wiring.Enrolled host.registry.registrations { host.wiring with
            registry := { host.wiring.registry with resumed := true } } := ⟨rfl, old.staffed⟩
        exact marked.each (fun _ kind enrolled => enrolled.resume kind) _
      · rw [resumeRegistry, after_get_bind, if_neg current]
        exact old
  | stop =>
      refine kept ?_
      rw [stopRegistry_wiring]
      exact old.each (fun _ kind enrolled => enrolled.stop kind) _
  | clear stopped => exact fun _ => rfl
  | advance => exact old.staffed
  | aside path same =>
      have shared : next.wiring.registry = host.wiring.registry := congrArg Registry.bare same
      have records : next.wiring.registry.registrations = host.registry.registrations := by
        rw [shared]
        rfl
      exact kept ⟨records, shared ▸ old.staffed⟩

theorem create_registered (config : ScriptingConfig) (dataDirectory : String) (tree : FileTree)
    (vocabulary : Vocabulary) (shelf : ScriptShelf) :
    Registered (create config dataDirectory tree vocabulary shelf) :=
  ⟨.empty, create_tidy config dataDirectory tree vocabulary shelf, rfl, fun _ => rfl⟩

/-- What is known after a registration: the handles of all entries in order, which are live,
told apart and recorded, or an error, and nothing that was there has changed. -/
inductive AllOrNothing (host : Host) (script : String) (generation : Generation)
    (kinds : List EventKind) (next : Host) : Except HostError (List Handle) → Prop where
  | all {handles : List Handle} (ordered : handles.map (·.kind) = kinds)
      (tagged : ∀ handle ∈ handles,
        handle.manager = handle.kind.manager ∧ handle.generation = generation)
      (live : next.wiring.handles.Perm (host.wiring.handles ++ handles))
      (distinct : next.wiring.handles.Nodup)
      (recorded : next.registry.registrations =
        host.registry.registrations ++ [⟨script, handles⟩]) :
      AllOrNothing host script generation kinds next (.ok handles)
  | nothing {error : HostError} (subscriptions : next.subscriptions = host.subscriptions)
      (listeners : next.bus.listeners = host.bus.listeners)
      (running : next.running = host.running)
      (recorded : next.registry.registrations = host.registry.registrations) :
      AllOrNothing host script generation kinds next (.error error)

/-- Whatever was registered, dropped, resumed, stopped and cleared before, and whatever else
happened in between, a schema is registered entirely or not at all. -/
theorem register_all_or_nothing (config : ScriptingConfig) (dataDirectory : String)
    (tree : FileTree) (vocabulary : Vocabulary) (shelf : ScriptShelf) {host : Host}
    (history : Relation.ReflTransGen Registering
      (create config dataDirectory tree vocabulary shelf) host)
    (script : String) (generation : Generation) {schema : EventSchema}
    (named : schema.kinds ≠ []) :
    AllOrNothing host script generation schema.kinds
      (after (register script generation schema) host)
      (answer (register script generation schema) host) := by
  have registered : Registered host := by
    induction history with
    | refl => exact create_registered config dataDirectory tree vocabulary shelf
    | tail _ step previous => exact step.registered previous
  have path : Reaches true host (after (register script generation schema) host) :=
    register_reaches script generation schema host .refl
  obtain ⟨recorded, -⟩ := registered.recorded script generation named
  have outcome := register_accounts generation script schema registered.sound registered.accounted
  generalize after (register script generation schema) host = next at *
  generalize answer (register script generation schema) host = given at *
  rcases outcome with ⟨handles, rfl, entered, -⟩ | ⟨⟨error, rfl⟩, kept⟩
  · exact .all entered.kinds entered.tagged entered.live (path.sound registered.sound).handles_nodup
      recorded
  · obtain ⟨subscriptions, listeners, running, -⟩ := kept.restored
    exact .nothing subscriptions listeners running recorded

/-- The entries of a schema without actions. -/
private def quietSchema (kinds : List EventKind) : EventSchema where
  entries := kinds.map fun kind => { kind, body := .unconditional [], mode := .parallel }

private def motionSchema : EventSchema := quietSchema [.bus "motion"]

private def tickSchema : EventSchema :=
  quietSchema [.interval (.ofMilliseconds 5000), .bus "motion"]

/-- The manager of the bus was stopped after all managers had begun to deliver. -/
def halted : Host :=
  after stopRegistry (after (resumeRegistry 1) (after (register "lamp" 1 motionSchema)
    (after advanceGeneration (create {} "" {} {} []))))

/-- A timer that has started is given up again when the bus refuses the next entry. -/
theorem register_all_or_nothing_halted :
    answer (register "clock" 1 tickSchema) halted = .error (.staleGeneration 1) ∧
      AllOrNothing halted "clock" 1 tickSchema.kinds
        (after (register "clock" 1 tickSchema) halted)
        (answer (register "clock" 1 tickSchema) halted) := by
  have named (kind : EventKind) (kinds : List EventKind) :
      (quietSchema (kind :: kinds)).kinds ≠ [] := by
    simp [quietSchema, EventSchema.kinds]
  have history : Relation.ReflTransGen Registering (create {} "" {} {} []) halted := by
    unfold halted
    refine .tail ?_ .stop
    refine .tail ?_ (.resume 1)
    refine .tail ?_ (.register "lamp" 1 motionSchema (named _ _))
    exact .single .advance
  refine ⟨by decide +kernel, ?_⟩
  exact register_all_or_nothing {} "" {} {} [] history "clock" 1 (named _ _)

end HomeRules.Host
