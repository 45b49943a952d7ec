import HomeRules.Host.Schedule
import HomeRules.Proofs.Host.Managing
import HomeRules.Proofs.Host.Wiring
import Mathlib.Logic.Relation

/-!
# Changes of a host

What a host can do, said once: every step of it is a path of the changes below.
A fact that each change keeps is therefore kept by every step. The changes that
serve events come first; the last four happen only inside a load cycle.
-/

set_option autoImplicit false

namespace HomeRules.Host

/-! ## Changes -/

/-- What scripts are loaded from. -/
structure Environment where
  tree : FileTree
  vocabulary : Vocabulary
  shelf : ScriptShelf
  reloading : ReloadSettings

def environment (host : Host) : Environment where
  tree := host.tree
  vocabulary := host.vocabulary
  shelf := host.shelf
  reloading := host.reloading

/-- What concerns generations and tasks. -/
structure Core where
  environment : Environment
  generation : Generation
  supervisor : Supervisor
  deeds : List Deed

def core (host : Host) : Core where
  environment := host.environment
  generation := host.generation
  supervisor := host.supervisor
  deeds := host.deeds

/-- The parts of a host that a quiet change leaves alone. -/
structure Parts where
  core : Core
  bus : Bus Delivery
  gates : List Gate
  registry : Registry

def parts (host : Host) : Parts where
  core := host.core
  bus := host.bus
  gates := host.gates
  registry := host.registry

/-- The loops concern no other part of a host. -/
theorem changeLoops_parts (change : ReloadLoops → ReloadLoops × Option LoopId) (host : Host) :
    (after (changeLoops change) host).parts = host.parts := by
  have kept : Keeps (fun later => later.parts = host.parts) (changeLoops change) :=
    .bind (fun _ same => same) fun _ => .option_forM (fun _ _ same => same) _
  exact kept host rfl

/-- One change of a host. `cycling` allows those that only a load cycle makes. -/
inductive Change (cycling : Bool) (host : Host) : Host → Prop where
  | quiet {next : Host} (same : next.parts = host.parts) : Change cycling host next
  | start (deed : Deed) (current : deed.started? = some host.generation) :
      Change cycling host (after (mark deed) host)
  | resume (task : Task) (tracked : task ∈ host.supervisor.tasks) :
      Change cycling host (after (mark (.resumed task.generation task.id)) host)
  | spawn (name : String) (generation : Generation) (owner : Option String) (work : Work) :
      Change cycling host (after (Host.spawn name generation owner work) host)
  | progress (id : TaskId) (point : Progress) :
      Change cycling host (after (Host.progress id point) host)
  | cancelTask (id : TaskId) : Change cycling host (after (Host.cancelTask id) host)
  | cancelOwner (owner : String) : Change cycling host (after (Host.cancelOwner owner) host)
  | dropTasks : Change cycling host { host with supervisor := host.supervisor.cancelAll.1 }
  | gate (id : GateId) (change : Gate → Gate) :
      Change cycling host (after (changeGate id change) host)
  | resumeManager (kind : ManagerKind) : Change cycling host (after (Host.resumeManager kind) host)
  | needManager (kind : ManagerKind) (generation : Generation) :
      Change cycling host (after (Host.needManager kind generation) host)
  | unsubscribe (kind : ManagerKind) (id : Nat) :
      Change cycling host (after (Host.unsubscribe kind id) host)
  | stopManager (kind : ManagerKind) : Change cycling host (after (Host.stopManager kind) host)
  | keepRecords (registrations : List Registration) (resumed : Bool) :
      Change cycling host
        { host with registry := { host.registry with registrations, resumed } }
  | advance (inside : cycling = true) : Change cycling host (after advanceGeneration host)
  | halt (inside : cycling = true) (stopped : host.supervisor.tasks = []) :
      Change cycling host (after (mark (.halted host.generation)) host)
  | clear (inside : cycling = true) (unsubscribed : host.wiring.Unsubscribed) :
      Change cycling host (after clearRegistry host)
  | subscribe (inside : cycling = true) (manager : ManagerKind) (kind : EventKind)
      (schema : EventSchema) : Change cycling host (after (Host.subscribe manager kind schema) host)

abbrev Reaches (cycling : Bool) : Host → Host → Prop :=
  Relation.ReflTransGen (Change cycling)

/-- What serves events also happens inside a load cycle. -/
theorem Change.widen {host next : Host} (change : Change false host next) :
    Change true host next := by
  cases change with
  | quiet same => exact .quiet same
  | start deed current => exact .start deed current
  | resume task tracked => exact .resume task tracked
  | spawn name generation owner work => exact .spawn name generation owner work
  | progress id point => exact .progress id point
  | cancelTask id => exact .cancelTask id
  | cancelOwner owner => exact .cancelOwner owner
  | dropTasks => exact .dropTasks
  | gate id change => exact .gate id change
  | resumeManager kind => exact .resumeManager kind
  | needManager kind generation => exact .needManager kind generation
  | unsubscribe kind id => exact .unsubscribe kind id
  | stopManager kind => exact .stopManager kind
  | keepRecords registrations resumed => exact .keepRecords registrations resumed
  | advance inside => exact .advance rfl
  | halt inside stopped => exact .halt rfl stopped
  | clear inside unsubscribed => exact .clear rfl unsubscribed
  | subscribe inside manager kind schema => exact .subscribe rfl manager kind schema

theorem Reaches.widen {host next : Host} (path : Reaches false host next) :
    Reaches true host next :=
  Relation.ReflTransGen.mono (fun _ _ => Change.widen) _ _ path

/-- What each change keeps is kept by every path of changes. -/
theorem Reaches.keeps {cycling : Bool} (fact : Host → Prop)
    (kept : ∀ host next, Change cycling host next → fact host → fact next)
    {host next : Host} (path : Reaches cycling host next) (holds : fact host) : fact next := by
  induction path with
  | refl => exact holds
  | tail _ change previous => exact kept _ _ change previous

/-! ## Closing

What is released when subscriptions end is a listener or the task of a timer. -/

/-- A fact that depends on the core alone, and that outlives the end of a task. -/
structure Lasting (fact : Host → Prop) : Prop where
  still : ∀ host next : Host, next.core = host.core → fact host → fact next
  cancel : ∀ id, Keeps fact (cancelTask id)

namespace Lasting

variable {fact : Host → Prop} (lasting : Lasting fact)
include lasting

theorem releasing : Releasing fact where
  still host _ _ _ _ := lasting.still host _ rfl
  cancel := lasting.cancel

end Lasting

/-! ## Stirs

Managers are changed by operations that also start and cancel tasks. What does not
depend on the managers is easier to follow through the parts of these operations. -/

/-- One part of a change. -/
inductive Stir (cycling : Bool) (host : Host) : Host → Prop where
  | quiet {next : Host} (same : next.core = host.core) : Stir cycling host next
  | start (deed : Deed) (current : deed.started? = some host.generation) :
      Stir cycling host (after (mark deed) host)
  | resume (task : Task) (tracked : task ∈ host.supervisor.tasks) :
      Stir cycling host (after (mark (.resumed task.generation task.id)) host)
  | spawn (name : String) (generation : Generation) (owner : Option String) (work : Work) :
      Stir cycling host (after (Host.spawn name generation owner work) host)
  | progress (id : TaskId) (point : Progress) :
      Stir cycling host (after (Host.progress id point) host)
  | cancelTask (id : TaskId) : Stir cycling host (after (Host.cancelTask id) host)
  | cancelOwner (owner : String) : Stir cycling host (after (Host.cancelOwner owner) host)
  | dropTasks : Stir cycling host { host with supervisor := host.supervisor.cancelAll.1 }
  | advance (inside : cycling = true) : Stir cycling host (after advanceGeneration host)
  | halt (inside : cycling = true) (stopped : host.supervisor.tasks = []) :
      Stir cycling host (after (mark (.halted host.generation)) host)

abbrev Stirs (cycling : Bool) : Host → Host → Prop :=
  Relation.ReflTransGen (Stir cycling)

section Stirs

variable {cycling : Bool} {start : Host}

private theorem Keeps.ofStir {α : Type} {step : Step α}
    (stir : ∀ host, Stir cycling host (after step host)) : Keeps (Stirs cycling start) step :=
  fun host path => path.tail (stir host)

private theorem stirs_managing : Managing (Stirs cycling start) where
  still _ _ _ _ _ path := path.tail (.quiet rfl)
  cancel id := .ofStir fun _ => .cancelTask id
  spawn name generation owner work := .ofStir fun _ => .spawn name generation owner work

end Stirs

theorem Change.stirs {cycling : Bool} {host next : Host} (change : Change cycling host next) :
    Stirs cycling host next := by
  cases change with
  | quiet same => exact .single (.quiet (congrArg Parts.core same))
  | start deed current => exact .single (.start deed current)
  | resume task tracked => exact .single (.resume task tracked)
  | spawn name generation owner work => exact .single (.spawn name generation owner work)
  | progress id point => exact .single (.progress id point)
  | cancelTask id => exact .single (.cancelTask id)
  | cancelOwner owner => exact .single (.cancelOwner owner)
  | dropTasks => exact .single .dropTasks
  | gate id change => exact .single (.quiet rfl)
  | resumeManager kind => exact stirs_managing.resumeManager kind host .refl
  | needManager kind generation => exact stirs_managing.needManager kind generation host .refl
  | unsubscribe kind id => exact stirs_managing.toReleasing.unsubscribe kind id host .refl
  | stopManager kind => exact stirs_managing.toReleasing.stopManager kind host .refl
  | keepRecords registrations resumed => exact .single (.quiet rfl)
  | advance inside => exact .single (.advance inside)
  | halt inside stopped => exact .single (.halt inside stopped)
  | clear inside unsubscribed => exact .single (.quiet rfl)
  | subscribe inside manager kind schema =>
      exact stirs_managing.subscribe manager kind schema host .refl

/-- What each stir keeps is kept by every path of changes. -/
theorem Reaches.stirred {cycling : Bool} (fact : Host → Prop)
    (kept : ∀ host next, Stir cycling host next → fact host → fact next)
    {host next : Host} (path : Reaches cycling host next) (holds : fact host) : fact next := by
  refine path.keeps fact (fun earlier later change before => ?_) holds
  have stirs := change.stirs
  clear change
  induction stirs with
  | refl => exact before
  | tail _ stir previous => exact kept _ _ stir previous

/-! ## The environment and the generation -/

private theorem spawn_core (name : String) (generation : Generation) (owner : Option String)
    (work : Work) (host : Host) :
    (after (spawn name generation owner work) host).environment = host.environment ∧
      (after (spawn name generation owner work) host).generation = host.generation := by
  simp only [spawn, after_get_bind]
  split <;> exact ⟨rfl, rfl⟩

theorem Reaches.environment_eq {cycling : Bool} {host next : Host}
    (path : Reaches cycling host next) : next.environment = host.environment := by
  refine path.stirred (·.environment = host.environment) (fun earlier later stir same => ?_) rfl
  cases stir with
  | quiet still => exact (congrArg Core.environment still).trans same
  | spawn name generation owner work =>
      exact (spawn_core name generation owner work earlier).1.trans same
  | _ => exact same

/-- Only a load cycle moves the counter of generations. -/
theorem Reaches.generation_eq {host next : Host} (path : Reaches false host next) :
    next.generation = host.generation := by
  refine path.stirred (·.generation = host.generation) (fun earlier later stir same => ?_) rfl
  cases stir with
  | quiet still => exact (congrArg Core.generation still).trans same
  | spawn name generation owner work =>
      exact (spawn_core name generation owner work earlier).2.trans same
  | advance inside => cases inside
  | _ => exact same

end HomeRules.Host
