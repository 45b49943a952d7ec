import HomeRules.Proofs.Host.Clockwork
import HomeRules.Proofs.Host.Filing
import HomeRules.Proofs.Host.Withdrawing

/-!
# Unregistering

A script gives handles back that are recorded for it, by itself or when its load is withdrawn.
Its handles take their subscriptions along. The subscriptions of the other scripts stay as they
are, and so do those of their registrations that have handles.
-/

set_option autoImplicit false

namespace HomeRules

namespace Registry

/-- The live subscriptions of a script. -/
def liveOf (registry : Registry) (script : String) : List (Handle × Feed) :=
  registry.live.filter (·.1 ∈ registry.handlesOf script)

/-- The timers are the tasks that feed subscriptions. -/
theorem timers_eq (registry : Registry) :
    registry.timers = registry.live.filterMap (·.2.task?) := by
  simp only [timers, live, Manager.timers, Manager.live, List.filterMap_flatMap, List.filterMap_map,
    Function.comp_def]

end Registry

namespace Host

/-! ## Histories -/

/-- One thing that can happen to a registry, where schemas without entries are registered, too. -/
inductive Enrolling (host : Host) : Host → Prop where
  | register (script : String) (generation : Generation) (schema : EventSchema) :
      Enrolling host (after (register script generation schema) host)
  | registering {next : Host} (step : Registering host next) : Enrolling host next

theorem Enrolling.reaches {host next : Host} (step : Enrolling host next) :
    Reaches true host next := by
  cases step with
  | register script generation schema => exact register_reaches script generation schema host .refl
  | registering step => exact step.reaches

theorem Enrolling.filed {host next : Host} (step : Enrolling host next)
    (filed : host.wiring.Filed []) : next.wiring.Filed [] := by
  cases step with
  | register script generation schema => exact register_filed script generation schema host filed
  | registering step =>
      cases step with
      | register script generation schema named =>
          exact register_filed script generation schema host filed
      | unregister script handles => exact unregister_filed script handles host filed
      | resume generation => exact resumeRegistry_filed generation host filed
      | stop => exact stopRegistry_filed host filed
      | clear stopped =>
          have sound : (after clearRegistry host).wiring.Sound :=
            filed.sound.renew stopped.lines_eq host.generation
          exact ⟨sound, List.nodup_nil, nofun⟩
      | advance => exact filed
      | aside path same =>
          have registry : next.wiring.registry = host.wiring.registry := congrArg Registry.bare same
          exact filed.still (path.sound filed.sound) (by rw [registry]) fun _ => registry ▸ id

/-! ## Timers -/

/-- The timers of the manager of intervals have different tasks. -/
def Timed (host : Host) : Prop :=
  ∀ manager, host.registry.manager? .time = some manager → manager.timers.Nodup

theorem Tended.timed {host next : Host} (tended : Tended host next) (tidy : host.Tidy)
    (timed : host.Timed) : next.Timed := by
  intro manager found
  cases tended with
  | still same gated => exact timed manager (same.symm.trans found)
  | gone none => cases none.symm.trans found
  | created made placed current empty =>
      cases made.symm.trans found
      simp [Manager.timers, empty]
  | changed present replaced gate aged numbers made delivers distinct =>
      cases replaced.symm.trans found
      refine distinct (timed _ present) fun id running => ?_
      exact (tidy.timed id (Registry.mem_timers_of_manager? present running)).below

theorem Change.timed {cycling : Bool} {host next : Host} (change : Change cycling host next)
    (sound : host.wiring.Sound) (tidy : host.Tidy) (timed : host.Timed) : next.Timed := by
  cases change with
  | quiet same =>
      have registry : next.registry = host.registry := congrArg Parts.registry same
      exact fun manager found => timed manager (registry ▸ found)
  | spawn name generation owner work =>
      have same := (spawn_tasked name generation owner work host (.refl host)).registry
      exact fun manager found => timed manager (same ▸ found)
  | resumeManager kind => exact (resumeManager_tended sound kind).1.timed tidy timed
  | needManager kind generation => exact (needManager_tended sound kind generation).1.timed tidy timed
  | unsubscribe kind id => exact (unsubscribe_tended sound kind id).1.timed tidy timed
  | stopManager kind => exact (stopManager_tended sound kind).1.timed tidy timed
  | subscribe inside manager kind schema =>
      exact (subscribe_tended sound manager kind schema).1.timed tidy timed
  | clear inside unsubscribed => exact nofun
  | _ => exact timed

theorem Reaches.timed {host next : Host} (path : Reaches true host next)
    (sound : host.wiring.Sound) (tidy : host.Tidy) (timed : host.Timed) : next.Timed := by
  induction path with
  | refl => exact timed
  | tail before change previous =>
      exact change.timed (Reaches.sound before sound)
        ((Reaches.evolves before).tidy tidy) previous

/-- What every history of a registry leaves. -/
structure Orderly (host : Host) : Prop where
  filed : host.wiring.Filed []
  tidy : host.Tidy
  timed : host.Timed

theorem Enrolling.orderly {host next : Host} (step : Enrolling host next)
    (orderly : host.Orderly) : next.Orderly where
  filed := step.filed orderly.filed
  tidy := (Reaches.evolves step.reaches).tidy orderly.tidy
  timed := Reaches.timed step.reaches orderly.filed.sound orderly.tidy orderly.timed

theorem create_orderly (config : ScriptingConfig) (dataDirectory : String) (tree : FileTree)
    (vocabulary : Vocabulary) (shelf : ScriptShelf) :
    (create config dataDirectory tree vocabulary shelf).Orderly where
  filed := ⟨.empty, List.nodup_nil, nofun⟩
  tidy := create_tidy config dataDirectory tree vocabulary shelf
  timed := nofun

/-! ## Feeds -/

section Sound

variable {host : Host} (sound : host.wiring.Sound)
include sound

/-- No two subscriptions have the same listener. -/
theorem listeners_distinct : (host.registry.live.filterMap (·.2.listener?)).Nodup := by
  have lines : host.wiring.lines.map (·.id) = host.registry.live.filterMap (·.2.listener?) := by
    have bare (feed : Feed) : feed.bare.listener? = feed.listener? := by cases feed <;> rfl
    simp only [Wiring.lines, List.map_flatMap, Wiring.lines_numbers, wiring, Registry.bare,
      List.flatMap_map, Registry.live, List.filterMap_flatMap, Manager.live, Manager.bare,
      List.filterMap_map, List.map_map, Function.comp_def, Subscription.bare, bare]
  have numbers := sound.heard.map (·.id)
  rw [List.map_map, lines] at numbers
  exact numbers.nodup_iff.mp sound.bus.distinct

/-- No two subscriptions have the same task. -/
theorem tasks_distinct (timed : host.Timed) :
    (host.registry.live.filterMap (·.2.task?)).Nodup := by
  have others (manager : Manager) (present : manager ∈ host.registry.managers)
      (apart : manager.kind ≠ .time) : manager.timers = [] := by
    refine List.filterMap_eq_nil_iff.mpr fun subscription live => ?_
    exact untimed sound apart (manager?_eq sound present) live
  rw [← Registry.timers_eq, Registry.timers, List.nodup_flatMap]
  constructor
  · intro manager present
    by_cases time : manager.kind = .time
    · exact timed manager (time ▸ manager?_eq sound present)
    · rw [others manager present time]
      exact List.nodup_nil
  · refine (List.pairwise_map.mp (distinct_kinds sound)).imp_of_mem
      fun {manager other} present beside apart => ?_
    by_cases time : manager.kind = .time
    · have foreign : other.timers = [] :=
        others other beside fun same => apart (time.trans same.symm)
      simp [Function.onFun, foreign]
    · simp [Function.onFun, others manager present time]

end Sound

/-! ## Giving back what is one's own -/

/-- A recorded handle still means what it was given for. -/
theorem Wiring.Filed.genuine {host : Host} {held : List Handle} (filed : host.wiring.Filed held)
    {handle : Handle} (recorded : handle ∈ host.registry.recorded) : host.Genuine handle := by
  intro live member placed aged numbered
  obtain ⟨manager, present, subscription, inside, rfl⟩ := Registry.mem_handles.mp member
  obtain ⟨owner, found, -, only⟩ := filed.issued handle (List.mem_append_left held recorded)
  have placed : manager.kind = handle.manager := placed
  have own : host.wiring.registry.manager? handle.manager = some manager.bare := by
    rw [← placed, wiring_manager?, manager?_eq filed.sound present]
    rfl
  obtain rfl : owner = manager.bare := Option.some.inj (found.symm.trans own)
  have kind : subscription.kind = handle.kind :=
    only subscription.bare (List.mem_map_of_mem inside) numbered
  obtain ⟨id, source, event, generation⟩ := handle
  cases placed
  cases aged
  cases numbered
  cases kind
  rfl

/-- What becomes of a host when a script gives handles back, and tasks with some numbers are
ended. The managers lose the subscriptions of these handles, with what feeds them. Of the other
scripts, all subscriptions stay, each with its listener or its task, and all registrations that
have handles. -/
structure Unregistered (script : String) (handles : List Handle) (ended : List TaskId)
    (host next : Host) : Prop where
  managers : next.registry.managers = host.registry.managers.map (·.without handles)
  bus : next.bus = Wiring.without host.bus (host.registry.feeds handles)
  tasks : next.supervisor.tasks = host.supervisor.tasks.filter fun task =>
    task.id ∉ (host.registry.feeds handles).filterMap Feed.task? ∧ task.id ∉ ended
  own : next.registry.handlesOf script =
    (host.registry.handlesOf script).filter (· ∉ handles)
  records : next.registry.registrations.filter (·.script ≠ script) =
    host.registry.registrations.filter fun record => record.script ≠ script ∧ record.handles ≠ []
  others : ∀ other ≠ script, next.registry.liveOf other = host.registry.liveOf other
  heard : ∀ other ≠ script, ∀ entry ∈ host.registry.liveOf other,
    ∀ listener ∈ host.bus.listeners, entry.2.listener? = some listener.id →
      listener ∈ next.bus.listeners
  timed : ∀ other ≠ script, ∀ entry ∈ host.registry.liveOf other,
    ∀ task ∈ host.supervisor.tasks, entry.2.task? = some task.id → task.id ∉ ended →
      task ∈ next.supervisor.tasks

section Unregistered

variable {host : Host} (orderly : host.Orderly) {script : String} {handles : List Handle}
  (belongs : ∀ handle ∈ handles, handle ∈ host.registry.handlesOf script)
include orderly belongs

theorem Orderly.unregistered (ended : List TaskId) :
    Unregistered script handles ended host
      (Host.dismiss { host.without handles with
        registry := (host.registry.without handles).strike script handles } ended) := by
  have distinct : host.registry.recorded.Nodup := by
    have distinct := orderly.filed.distinct
    rwa [List.append_nil] at distinct
  have apart {other : String} (foreign : other ≠ script) {handle : Handle}
      (own : handle ∈ host.registry.handlesOf other) : handle ∉ handles := fun given =>
    Registry.handlesOf_disjoint distinct foreign (belongs handle given) own
  have stays {other : String} (foreign : other ≠ script) {entry : Handle × Feed}
      (live : entry ∈ host.registry.liveOf other) :
      entry ∈ host.registry.live ∧ entry.1 ∉ handles := by
    obtain ⟨live, own⟩ := List.mem_filter.mp live
    exact ⟨live, apart foreign (of_decide_eq_true own)⟩
  constructor
  case managers => rfl
  case bus => rfl
  case tasks =>
    refine (List.filter_filter ..).trans (List.filter_congr fun task _ => ?_)
    simp [Bool.and_comm]
  case own => exact Registry.handlesOf_strike
  case records => exact Registry.strike_others
  case others =>
    intro other foreign
    have same : ((host.registry.without handles).strike script handles).handlesOf other =
        host.registry.handlesOf other := Registry.handlesOf_strike_of_ne foreign
    change (host.registry.without handles).live.filter (·.1 ∈ ((host.registry.without
      handles).strike script handles).handlesOf other) = host.registry.liveOf other
    rw [same, Registry.live_without, List.filter_filter, Registry.liveOf]
    refine List.filter_congr fun entry _ => ?_
    by_cases own : entry.1 ∈ host.registry.handlesOf other
    · simp [own, apart foreign own]
    · simp [own]
  case heard =>
    intro other foreign entry live listener listening fed
    obtain ⟨live, stays⟩ := stays foreign live
    refine List.mem_filter.mpr ⟨listening, decide_eq_true ?_⟩
    exact Registry.spares (listeners_distinct orderly.filed.sound) live stays fed
  case timed =>
    intro other foreign entry live task tracked running going
    obtain ⟨live, stays⟩ := stays foreign live
    refine List.mem_filter.mpr ⟨List.mem_filter.mpr ⟨tracked, decide_eq_true ?_⟩,
      decide_eq_true going⟩
    exact Registry.spares (tasks_distinct orderly.filed.sound orderly.timed) live stays running

end Unregistered

theorem dismiss_nil (host : Host) : host.dismiss [] = host := by
  simp [dismiss]

/-- Whatever was registered, given back, resumed, stopped and cleared before, a script that gives
handles back of those that are recorded for it drops their subscriptions, as many as is answered,
and no others. The same is dropped when its load is withdrawn. -/
theorem unregister_keeps_others (config : ScriptingConfig) (dataDirectory : String)
    (tree : FileTree) (vocabulary : Vocabulary) (shelf : ScriptShelf) {host : Host}
    (history : Relation.ReflTransGen Enrolling
      (create config dataDirectory tree vocabulary shelf) host)
    (script : String) {handles : List Handle}
    (belongs : ∀ handle ∈ handles, handle ∈ host.registry.handlesOf script) :
    Unregistered script handles [] host (after (unregister script handles) host) ∧
      answer (unregister script handles) host =
        (host.registry.handles.filter (· ∈ handles)).length ∧
      ∀ context : LoadContext, context.script = script → context.handles = handles →
        Unregistered script handles (context.tasks.map (·.id)) host
          (after (retract context) host) := by
  have orderly : host.Orderly := by
    clear belongs
    induction history with
    | refl => exact create_orderly config dataDirectory tree vocabulary shelf
    | tail _ step previous => exact step.orderly previous
  have genuine (handle : Handle) (given : handle ∈ handles) : host.Genuine handle :=
    orderly.filed.genuine (host.registry.handlesOf_subset script (belongs handle given))
  obtain ⟨reached, count⟩ := unregister_spec orderly.filed.sound script genuine
  refine ⟨?_, count, ?_⟩
  · have left := orderly.unregistered belongs []
    rwa [dismiss_nil, ← reached] at left
  · rintro context rfl rfl
    have left := orderly.unregistered belongs (context.tasks.map (·.id))
    rwa [← reached, ← after_retract] at left

/-- A schema that does nothing when the doorbell rings. -/
private def doorbellSchema : EventSchema where
  entries := [{ kind := .bus "doorbell", body := .unconditional [], mode := .parallel }]

/-- The handle of a subscription to the doorbell. -/
private def doorbell (id : Nat) : Handle where
  id
  manager := .bus
  kind := .bus "doorbell"
  generation := 0

/-- Two scripts listen to the doorbell. -/
def neighbours : Host :=
  after (register "lamp" 0 doorbellSchema) (after (register "porch" 0 doorbellSchema)
    (create {} "" {} {} []))

theorem unregister_keeps_others_neighbours :
    Unregistered "lamp" [doorbell 1] [] neighbours
        (after (unregister "lamp" [doorbell 1]) neighbours) ∧
      answer (unregister "lamp" [doorbell 1]) neighbours = 1 := by
  have history : Relation.ReflTransGen Enrolling (create {} "" {} {} []) neighbours :=
    .tail (.single (.register "porch" 0 doorbellSchema)) (.register "lamp" 0 doorbellSchema)
  have belongs : ∀ handle ∈ [doorbell 1], handle ∈ neighbours.registry.handlesOf "lamp" := by
    decide +kernel
  obtain ⟨left, count, -⟩ := unregister_keeps_others {} "" {} {} [] history "lamp" belongs
  exact ⟨left, count.trans (by decide +kernel)⟩

/-- One script listens to the doorbell, and another one has registered a schema without
entries. -/
def idleNeighbour : Host :=
  after (register "lamp" 0 doorbellSchema) (after (register "quiet" 0 { entries := [] })
    (create {} "" {} {} []))

/-- A registration without handles is dropped when another script gives its handles back, and when
one fails to load that holds nothing. -/
theorem unregister_drops_idle :
    Relation.ReflTransGen Enrolling (create {} "" {} {} []) idleNeighbour ∧
      (∀ handle ∈ [doorbell 0], handle ∈ idleNeighbour.registry.handlesOf "lamp") ∧
      idleNeighbour.registry.registrations.map (·.script) = ["quiet", "lamp"] ∧
      (after (unregister "lamp" [doorbell 0]) idleNeighbour).registry.registrations.map
        (·.script) = [] ∧
      (after (retract { script := "broken", generation := 0 })
        idleNeighbour).registry.registrations.map (·.script) = ["lamp"] := by
  refine ⟨?_, by decide +kernel, by decide +kernel, by decide +kernel, by decide +kernel⟩
  exact .tail (.single (.register "quiet" 0 { entries := [] })) (.register "lamp" 0 doorbellSchema)

end Host

end HomeRules
