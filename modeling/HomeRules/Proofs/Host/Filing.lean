import HomeRules.Proofs.Host.Registering
import Mathlib.Data.List.Flatten

/-!
# Recorded handles

The registry records which script holds which handles, also that a script holds none. Whatever
was registered and given back before, no handle is recorded twice, and none of those that are
recorded will be given out again.
-/

set_option autoImplicit false

namespace HomeRules

/-! ## Records -/

namespace Registry

/-- The handles that are recorded, in the order in which they were given out. -/
def recorded (registry : Registry) : List Handle :=
  registry.registrations.flatMap (·.handles)

/-- The handles that are recorded for a script. -/
def handlesOf (registry : Registry) (script : String) : List Handle :=
  (registry.registrations.filter (·.script = script)).flatMap (·.handles)

/-- What is left of a registration when a script gives handles back. -/
def struck (script : String) (handles : List Handle) (record : Registration) : Registration :=
  if record.script = script then
    { record with handles := record.handles.filter (!handles.contains ·) }
  else record

variable {registry : Registry} {script : String} {handles : List Handle}

theorem strike_registrations :
    (registry.strike script handles).registrations =
      (registry.registrations.map (struck script handles)).filter (!·.handles.isEmpty) :=
  rfl

@[simp] theorem struck_script (record : Registration) :
    (struck script handles record).script = record.script := by
  unfold struck
  split <;> rfl

/-- Registrations without handles do not count. -/
private theorem flatMap_filter_isEmpty (records : List Registration) :
    (records.filter (!·.handles.isEmpty)).flatMap (·.handles) = records.flatMap (·.handles) := by
  induction records with
  | nil => rfl
  | cons record rest previous => cases given : record.handles <;> simp [given, previous]

theorem recorded_strike :
    (registry.strike script handles).recorded =
      registry.registrations.flatMap fun record => (struck script handles record).handles := by
  rw [recorded, strike_registrations, flatMap_filter_isEmpty, List.flatMap_map]

/-- Nothing is recorded that was not recorded before. -/
theorem recorded_strike_sublist :
    (registry.strike script handles).recorded.Sublist registry.recorded := by
  rw [recorded_strike, recorded]
  refine List.Sublist.flatMap_right _ fun record _ => ?_
  by_cases own : record.script = script <;> simp [struck, own]

private theorem handlesOf_strike_filter (other : String) :
    (registry.strike script handles).handlesOf other =
      (registry.registrations.filter (·.script = other)).flatMap fun record =>
        (struck script handles record).handles := by
  rw [handlesOf, strike_registrations, List.filter_comm, flatMap_filter_isEmpty, List.filter_map,
    List.flatMap_map]
  simp [Function.comp_def]

/-- A script has no longer what it gave back. -/
theorem handlesOf_strike :
    (registry.strike script handles).handlesOf script =
      (registry.handlesOf script).filter (· ∉ handles) := by
  rw [handlesOf_strike_filter, handlesOf, List.filter_flatMap]
  refine List.flatMap_congr fun record member => ?_
  have own : record.script = script := by simpa using List.of_mem_filter member
  simp [struck, own]

/-- The other scripts have what they had. -/
theorem handlesOf_strike_of_ne {other : String} (apart : other ≠ script) :
    (registry.strike script handles).handlesOf other = registry.handlesOf other := by
  rw [handlesOf_strike_filter, handlesOf]
  refine List.flatMap_congr fun record member => ?_
  have named : record.script = other := by simpa using List.of_mem_filter member
  simp [struck, named, apart]

/-- Of the other scripts those registrations are left that have handles. -/
theorem strike_others :
    (registry.strike script handles).registrations.filter (·.script ≠ script) =
      registry.registrations.filter fun record =>
        record.script ≠ script ∧ record.handles ≠ [] := by
  have same : (registry.registrations.map (struck script handles)).filter (·.script ≠ script) =
      registry.registrations.filter (·.script ≠ script) := by
    simp only [List.filter_map, Function.comp_def, struck_script]
    refine (List.map_congr_left fun record member => ?_).trans (List.map_id _)
    have foreign : record.script ≠ script := by simpa using List.of_mem_filter member
    simp [struck, foreign]
  rw [strike_registrations, List.filter_comm, same, List.filter_filter]
  refine List.filter_congr fun record _ => ?_
  cases record.handles <;> simp

theorem handlesOf_subset (script : String) : registry.handlesOf script ⊆ registry.recorded :=
  (List.filter_sublist.flatMap _).subset

/-- No handle is recorded for two scripts. -/
theorem handlesOf_disjoint (distinct : registry.recorded.Nodup) {other : String}
    (apart : other ≠ script) {handle : Handle} (own : handle ∈ registry.handlesOf script) :
    handle ∉ registry.handlesOf other := by
  have parted := List.filter_append_perm (·.script = script) registry.registrations
  have distinct := (parted.flatMap_right Registration.handles).nodup_iff.mpr distinct
  rw [List.flatMap_append, List.nodup_append] at distinct
  intro foreign
  refine distinct.2.2 handle own handle ?_ rfl
  obtain ⟨record, member, given⟩ := List.mem_flatMap.mp foreign
  obtain ⟨present, named⟩ := List.mem_filter.mp member
  have named : record.script = other := of_decide_eq_true named
  exact List.mem_flatMap.mpr ⟨record, List.mem_filter.mpr ⟨present, by simp [named, apart]⟩, given⟩

/-! ## Handles that were given out -/

/-- The number of a handle is used up, and a live subscription that has it is that of the
handle. -/
def Issued (registry : Registry) (handle : Handle) : Prop :=
  ∃ manager, registry.manager? handle.manager = some manager ∧ handle.id < manager.nextId ∧
    ∀ subscription ∈ manager.subscriptions, subscription.id = handle.id →
      subscription.kind = handle.kind

theorem Issued.update {handle : Handle} (issued : registry.Issued handle) {kind : ManagerKind}
    {manager next : Manager} (found : registry.manager? kind = some manager)
    (same : next.kind = kind) (numbers : manager.nextId ≤ next.nextId)
    (made : ∀ subscription ∈ next.subscriptions,
      subscription ∈ manager.subscriptions ∨ manager.nextId ≤ subscription.id) :
    (registry.update next).Issued handle := by
  obtain ⟨owner, placed, below, only⟩ := issued
  unfold Issued
  rw [manager?_update found same]
  split
  case isFalse => exact ⟨owner, placed, below, only⟩
  case isTrue here =>
    rw [here, found] at placed
    cases placed
    refine ⟨next, rfl, Nat.lt_of_lt_of_le below numbers, fun subscription member numbered => ?_⟩
    rcases made subscription member with old | new
    · exact only subscription old numbered
    · exact absurd (numbered ▸ below) (Nat.not_lt_of_le new)

theorem Issued.drop {handle : Handle} (issued : registry.Issued handle) {kind : ManagerKind}
    {manager : Manager} (found : registry.manager? kind = some manager)
    {subscriptions : List Subscription} (fewer : subscriptions ⊆ manager.subscriptions) :
    (registry.update { manager with subscriptions }).Issued handle :=
  issued.update found (Registry.of_manager? found).2 (Nat.le_refl _)
    fun _ member => .inl (fewer member)

end Registry

namespace Host.Wiring

/-- No handle is recorded or held twice, and all of these were given out. -/
structure Filed (held : List Handle) (wiring : Wiring) : Prop where
  sound : wiring.Sound
  distinct : (wiring.registry.recorded ++ held).Nodup
  issued : ∀ handle ∈ wiring.registry.recorded ++ held, wiring.registry.Issued handle

section Filed

variable {held : List Handle} {wiring : Wiring} (filed : wiring.Filed held)
include filed

theorem Filed.keepRecords {others : List Handle} {registrations : List Registration}
    (resumed : Bool)
    (fewer : (registrations.flatMap (·.handles) ++ others).Sublist
      (wiring.registry.recorded ++ held)) :
    Filed others { wiring with
      registry := { wiring.registry with registrations, resumed } } where
  sound := filed.sound.keepRecords registrations resumed
  distinct := filed.distinct.sublist fewer
  issued handle member := filed.issued handle (fewer.subset member)

/-- Managers may change in a way that keeps the handles. -/
theorem Filed.still {next : Wiring} (sound : next.Sound)
    (records : next.registry.registrations = wiring.registry.registrations)
    (kept : ∀ handle, wiring.registry.Issued handle → next.registry.Issued handle) :
    next.Filed held := by
  have same : next.registry.recorded = wiring.registry.recorded := by
    rw [Registry.recorded, records]
    rfl
  refine ⟨sound, same ▸ filed.distinct, fun handle member => ?_⟩
  exact kept handle (filed.issued handle (same ▸ member))

theorem Filed.resume (kind : ManagerKind) : (wiring.resume kind).Filed held := by
  have same := (filed.sound.resume_spec kind).2.1
  exact filed.still (filed.sound.resume kind) (by rw [same]) fun _ => same ▸ id

theorem Filed.stop (kind : ManagerKind) : (wiring.stop kind).Filed held := by
  have sound := filed.sound.stop kind
  unfold Wiring.stop at sound ⊢
  cases found : wiring.registry.manager? kind with
  | none => exact filed
  | some manager =>
      simp only [found] at sound
      refine filed.still sound ?_ fun handle issued => ?_
      · simp only [closeAll_registry]
        rfl
      · simp only [closeAll_registry]
        exact issued.drop found (List.nil_subset _)

theorem Filed.unsubscribe (kind : ManagerKind) (id : Nat) :
    (wiring.unsubscribe kind id).Filed held := by
  have sound := filed.sound.unsubscribe kind id
  unfold Wiring.unsubscribe at sound ⊢
  cases found : wiring.registry.manager? kind with
  | none => exact filed
  | some manager =>
      cases present : manager.subscriptions.find? (·.id = id) with
      | none => simpa only [present] using filed
      | some subscription =>
          simp only [found, present, close_eq] at sound ⊢
          refine filed.still sound rfl fun handle issued => ?_
          exact issued.drop found List.filter_sublist.subset

theorem Filed.release (handle : Handle) : (wiring.release handle).Filed held := by
  unfold Wiring.release
  split
  · exact filed
  split
  · exact filed.unsubscribe _ _
  · exact filed

/-- A manager that is added changes no other one. -/
theorem Filed.need (current : Generation) (kind : ManagerKind) (generation : Generation) :
    (wiring.need current kind generation).2.Filed held := by
  have ready := filed.sound.need current kind generation
  rcases filed.sound.need_cases current kind generation with
    ⟨same, -⟩ | ⟨registry, origin, -, added⟩
  · rw [same]
    exact filed
  rcases origin with rfl | ⟨empty, rfl⟩
  · refine filed.still ready (by rw [added]; rfl) fun handle issued => ?_
    obtain ⟨manager, found, below, only⟩ := issued
    have named : manager.kind = handle.manager := (Registry.of_manager? found).2
    refine ⟨manager, ?_, below, only⟩
    rw [← named]
    refine ready.manager?_eq ?_
    rw [added]
    refine (Registry.insertManager_perm _ _).mem_iff.mpr (List.mem_cons_of_mem _ ?_)
    exact List.mem_of_find?_eq_some found
  · -- No handle was given out by managers that there are not.
    have vacant : wiring.registry.recorded ++ held = [] := by
      refine List.eq_nil_iff_forall_not_mem.mpr fun handle member => ?_
      obtain ⟨manager, found, -⟩ := filed.issued handle member
      simp [Registry.manager?, empty] at found
    have none : (wiring.need current kind generation).2.registry.recorded ++ held = [] := by
      rw [added, (List.append_eq_nil_iff.mp vacant).2]
      rfl
    refine ⟨ready, none ▸ List.nodup_nil, fun handle member => ?_⟩
    rw [none] at member
    cases member

/-- A manager with one more subscription has given out one more handle. -/
private theorem Filed.accept {source : ManagerKind} {manager : Manager}
    (found : wiring.registry.manager? source = some manager) {kind : EventKind} {feed : Feed}
    {next : Wiring} (sound : next.Sound)
    (registry : next.registry = wiring.registry.update { manager with
      nextId := manager.nextId + 1
      subscriptions := manager.subscriptions ++ [{ id := manager.nextId, kind, feed }] }) :
    next.Filed (held ++ [{
      id := manager.nextId, manager := source, kind, generation := manager.generation }]) := by
  obtain ⟨member, named⟩ := Registry.of_manager? found
  have managed := filed.sound.managers manager member
  let grown : Manager := { manager with
    nextId := manager.nextId + 1
    subscriptions := manager.subscriptions ++ [{ id := manager.nextId, kind, feed }] }
  have kept : grown.kind = source := named
  have placed : (wiring.registry.update grown).manager? source = some grown :=
    (Registry.manager?_update found kept source).trans (if_pos rfl)
  have same : next.registry.recorded = wiring.registry.recorded := by
    rw [registry]
    rfl
  refine ⟨sound, ?_, fun handle member => ?_⟩
  · rw [same, ← List.append_assoc]
    refine List.nodup_append.mpr ⟨filed.distinct, List.nodup_singleton _, ?_⟩
    rintro handle member other new rfl
    obtain rfl := List.mem_singleton.mp new
    obtain ⟨owner, placed, below, -⟩ := filed.issued _ member
    cases found.symm.trans placed
    exact Nat.lt_irrefl _ below
  · rw [same, ← List.append_assoc] at member
    rw [registry]
    rcases List.mem_append.mp member with old | new
    · refine (filed.issued handle old).update found kept (Nat.le_succ _) fun other live => ?_
      refine (List.mem_append.mp live).imp id fun last => ?_
      exact Nat.le_of_eq (congrArg Subscription.id (List.mem_singleton.mp last)).symm
    · obtain rfl := List.mem_singleton.mp new
      refine ⟨grown, placed, Nat.lt_succ_self _, fun other live numbered => ?_⟩
      rcases List.mem_append.mp live with old | last
      · exact absurd numbered (Nat.ne_of_lt (managed.bounded other old))
      · rw [List.mem_singleton.mp last]

/-- A subscription is accepted under a new handle, or nothing happens. -/
theorem Filed.subscribe (current : Generation) (source : ManagerKind) (kind : EventKind)
    (schema : EventSchema) :
    match (wiring.subscribe current source kind schema).1 with
    | .ok handle => (wiring.subscribe current source kind schema).2.Filed (held ++ [handle])
    | .error _ => (wiring.subscribe current source kind schema).2.Filed held := by
  have sound := filed.sound.subscribe current source kind schema
  unfold Wiring.subscribe at sound ⊢
  cases found : wiring.registry.manager? source with
  | none => exact filed
  | some manager =>
      simp only [found] at sound ⊢
      by_cases wrong : kind.manager ≠ source
      · simpa only [if_pos wrong] using filed
      by_cases closed : (wiring.gate manager.gate).isClosed
      · simpa only [if_neg wrong, if_pos closed] using filed
      obtain ⟨bus, fed, -, -⟩ := feed_spec wiring filed.sound.bus manager manager.nextId kind schema
      simp only [if_neg wrong, if_neg closed, fed] at sound ⊢
      exact filed.accept found sound rfl

end Filed

end Host.Wiring

namespace Host

/-! ## Operations of a registry -/

section Filed

variable {held : List Handle}

theorem release_filed (handle : Handle) : Keeps (·.wiring.Filed held) (release handle) := by
  intro host filed
  rw [release_wiring]
  exact filed.release handle

theorem releaseAll_filed (handles : List Handle) :
    Keeps (·.wiring.Filed held) (releaseAll handles) :=
  .bind (.mapM release_filed handles) fun _ => .pure _

theorem unregister_filed (script : String) (handles : List Handle) :
    Keeps (·.wiring.Filed held) (unregister script handles) := by
  refine .bind (releaseAll_filed handles) fun _ => .bind (fun host filed => ?_) fun _ => .pure _
  have fewer : (host.registry.strike script handles).recorded.Sublist host.registry.recorded :=
    Registry.recorded_strike_sublist
  exact filed.keepRecords host.registry.resumed (fewer.append_right held)

theorem resumeRegistry_filed (generation : Generation) :
    Keeps (·.wiring.Filed held) (resumeRegistry generation) := by
  have each (kind : ManagerKind) : Keeps (·.wiring.Filed held) (resumeManager kind) := by
    intro host filed
    rw [resumeManager_wiring]
    exact filed.resume kind
  refine .get fun host filed => ?_
  split
  · have marked : Wiring.Filed held { host.wiring with
        registry := { host.wiring.registry with resumed := true } } :=
      filed.keepRecords true (List.Sublist.refl _)
    exact Keeps.forM each _ { host with registry := { host.registry with resumed := true } } marked
  · exact filed

theorem stopRegistry_filed : Keeps (·.wiring.Filed held) stopRegistry := by
  have each (kind : ManagerKind) : Keeps (·.wiring.Filed held) (stopManager kind) := by
    intro host filed
    rw [stopManager_wiring]
    exact filed.stop kind
  exact .read fun host => .bind (.mapM each _) fun _ => .pure _

/-- Where one entry is accepted, one more handle is held. -/
theorem subscribeWith_filed (generation : Generation) (schema : EventSchema) (source : ManagerKind)
    (kind : EventKind) :
    Leads (·.wiring.Filed held) (subscribeWith generation schema source kind)
      fun result host => match result with
        | .ok handle => host.wiring.Filed (held ++ [handle])
        | .error _ => host.wiring.Filed held := by
  have needed : Keeps (·.wiring.Filed held) (needManager source generation) := by
    intro host filed
    have filed := filed.need host.generation source generation
    rwa [← needManager_wiring] at filed
  refine needed.leads.bind fun result => ?_
  cases result with
  | error error => exact fun _ filed => filed
  | ok _ =>
      intro host filed
      have accepted := filed.subscribe host.generation source kind schema
      rwa [← subscribe_wiring] at accepted

/-- A handle that is neither held nor recorded need not be told apart any more. -/
theorem Wiring.Filed.forget {wiring : Wiring} (filed : wiring.Filed held) : wiring.Filed [] := by
  have fewer := (List.nil_sublist held).append_left wiring.registry.recorded
  exact ⟨filed.sound, filed.distinct.sublist fewer,
    fun handle member => filed.issued handle (fewer.subset member)⟩

theorem subscribeAll_filed (generation : Generation) (schema : EventSchema) (sofar : List Handle)
    (kinds : List EventKind) :
    Leads (·.wiring.Filed sofar) (subscribeAll generation schema sofar kinds)
      fun result host => match result with
        | .ok handles => host.wiring.Filed handles
        | .error _ => host.wiring.Filed [] := by
  induction kinds generalizing sofar with
  | nil => exact fun _ filed => filed
  | cons kind rest previous =>
      refine (subscribeWith_filed generation schema kind.manager kind).bind fun result => ?_
      cases result with
      | ok handle => exact previous (sofar ++ [handle])
      | error error =>
          have released : Keeps (·.wiring.Filed sofar) (releaseAll sofar) := releaseAll_filed sofar
          exact released.leads.bind fun _ _ filed => filed.forget

/-- What is recorded was held before by nobody else. -/
theorem register_filed (script : String) (generation : Generation) (schema : EventSchema) :
    Keeps (·.wiring.Filed []) (register script generation schema) := by
  refine .ofLeads ((subscribeAll_filed generation _ [] _).bind fun result => ?_)
  cases result with
  | error error => exact fun _ filed => filed
  | ok handles =>
      intro host filed
      rw [after_bind, after_modify, after_pure, Registry.record]
      split
      · let record : Registration := ⟨script, handles⟩
        have recorded : (host.registry.registrations ++ [record]).flatMap Registration.handles =
            host.wiring.registry.recorded ++ handles := by
          simp [Registry.recorded, wiring, Registry.bare, record]
        refine filed.keepRecords host.registry.resumed ?_
        rw [recorded, List.append_nil]
      · exact filed.forget

end Filed

end Host

end HomeRules
