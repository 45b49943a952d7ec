import HomeRules.Proofs.Host.Managing
import HomeRules.Proofs.Host.RunActs

/-!
# Bystanders of the reload loops

Whatever a host does to serve events, to run tasks, and to stop, load and unload scripts, the
loops that serve reload requests notice only the requests.
-/

set_option autoImplicit false

namespace HomeRules

def Worker.loop? : Worker → Option LoopId
  | .reloadLoop id => some id
  | _ => none

def Agenda.loops (agenda : Agenda) : List LoopId :=
  (agenda.ready ++ agenda.sleeping.map (·.2)).filterMap Worker.loop?

/-- The loops that can go on, and those that sleep, with the times at which they wake up. -/
def Agenda.rota (agenda : Agenda) : List LoopId × List (Nat × LoopId) :=
  (agenda.ready.filterMap Worker.loop?,
    agenda.sleeping.filterMap fun entry => entry.2.loop?.map (entry.1, ·))

theorem Agenda.loops_eq_rota (agenda : Agenda) :
    agenda.loops = agenda.rota.1 ++ agenda.rota.2.map (·.2) := by
  simp [loops, rota, List.filterMap_append, List.map_filterMap, List.filterMap_map,
    Function.comp_def]

theorem Agenda.loops_of_rota {agenda other : Agenda} (same : agenda.rota = other.rota) :
    agenda.loops = other.loops := by
  rw [loops_eq_rota, loops_eq_rota, same]

namespace Host

theorem wake_rota {worker : Worker} (other : worker.loop? = none) (host : Host) :
    (after (wake worker) host).agenda.rota = host.agenda.rota := by
  change Agenda.rota { host.agenda with ready := host.agenda.ready ++ [worker] } = _
  simp [Agenda.rota, List.filterMap_append, other]

theorem wake_agenda {worker : Worker} (other : worker.loop? = none) (host : Host) :
    (after (wake worker) host).agenda.loops = host.agenda.loops :=
  Agenda.loops_of_rota (wake_rota other host)

/-- A fact that depends on the time, on the loops, on their places on the agenda and on the runner
alone, and that no request breaks. -/
structure Clocked (fact : Host → Prop) : Prop where
  still : ∀ host next : Host, next.loops = host.loops → next.runner = host.runner →
    next.clock = host.clock → next.agenda.rota = host.agenda.rota → fact host → fact next
  request : Keeps fact requestReload

namespace Clocked

variable {fact : Host → Prop} (clocked : Clocked fact)
include clocked

theorem ofStill {α : Type} {step : Step α}
    (same : ∀ host, ((after step host).loops, (after step host).runner,
      (after step host).clock, (after step host).agenda) =
        (host.loops, host.runner, host.clock, host.agenda)) : Keeps fact step := by
  intro host holds
  obtain ⟨loops, rest⟩ := Prod.mk.inj (same host)
  obtain ⟨runner, rest⟩ := Prod.mk.inj rest
  obtain ⟨clock, agenda⟩ := Prod.mk.inj rest
  exact clocked.still host _ loops runner clock (congrArg Agenda.rota agenda) holds

theorem wake {worker : Worker} (other : worker.loop? = none) : Keeps fact (wake worker) :=
  fun host => clocked.still host _ rfl rfl rfl (wake_rota other host)

theorem sleepUntil (due : Nat) {worker : Worker} (other : worker.loop? = none) :
    Keeps fact (sleepUntil due worker) := by
  refine fun host => clocked.still host _ rfl rfl rfl ?_
  change Agenda.rota { host.agenda with sleeping := host.agenda.sleeping ++ [(due, worker)] } = _
  simp [Agenda.rota, List.filterMap_append, other]

theorem spawn (name : String) (generation : Generation) (owner : Option String) (work : Work) :
    Keeps fact (spawn name generation owner work) := by
  refine .get fun host holds => ?_
  split
  · have accepted := clocked.still host
      (after (mark (.accepted generation (host.supervisor.add name generation owner work).2.id))
        { host with supervisor := (host.supervisor.add name generation owner work).1 })
      rfl rfl rfl rfl holds
    exact clocked.wake rfl _ accepted
  · exact holds

theorem managing : Managing fact where
  still host _ _ _ _ := clocked.still host _ rfl rfl rfl rfl
  cancel _ := clocked.ofStill fun _ => rfl
  spawn := clocked.spawn

end Clocked

/-! ## What is done beside the loops -/

/-- What happens while the loops, the runner and the schedule stand still. -/
def Licence.aside : Licence where
  task _ := True
  timers := True
  loops := False
  cycles := False

namespace Clocked

variable {fact : Host → Prop} (clocked : Clocked fact)
include clocked

private theorem act {moment next : Moment} (act : Act .aside moment next)
    (holds : fact moment.host) : fact next.host := by
  cases act with
  | @beside later same =>
      have loops : later.loops = moment.host.loops := congrArg Works.loops same
      have runner : later.runner = moment.host.runner := congrArg Works.runner same
      have clock : later.clock = moment.host.clock := congrArg Works.clock same
      have agenda : later.agenda = moment.host.agenda := congrArg Works.agenda same
      exact clocked.still _ _ loops runner clock (congrArg Agenda.rota agenda) holds
  | request => exact clocked.request _ holds
  | spawn name generation owner work => exact clocked.spawn name generation owner work _ holds
  | sleep turn due => exact clocked.sleepUntil due rfl _ holds
  | resumeManager kind => exact clocked.managing.resumeManager kind _ holds
  | needManager kind generation => exact clocked.managing.needManager kind generation _ holds
  | subscribe manager kind schema => exact clocked.managing.subscribe manager kind schema _ holds
  | unsubscribe kind id => exact clocked.managing.toReleasing.unsubscribe kind id _ holds
  | stopManager kind => exact clocked.managing.toReleasing.stopManager kind _ holds
  | advance licensed => exact licensed.elim
  | loops licensed => exact licensed.elim
  | schedule licensed => exact licensed.elim
  | resume | pause => exact holds
  | _ => exact clocked.still moment.host _ rfl rfl rfl rfl holds

/-- Such facts outlast all that is done beside the loops. -/
theorem acts {α : Type} {step : Step α} (acts : ∀ start, Keeps (Acting .aside start [] none) step) :
    Keeps fact step := by
  intro host holds
  have path := acts ⟨[], none, host⟩ host .refl
  exact Acting.keeps (fun moment => fact moment.host) (fun _ _ => clocked.act) path holds

end Clocked

/-! ## Bystanders -/

/-- A fact that depends on the loops, on their places on the agenda and on the runner alone,
and that no request breaks. -/
structure Bystanding (fact : Host → Prop) : Prop where
  still : ∀ host next : Host, next.loops = host.loops → next.runner = host.runner →
    next.agenda.loops = host.agenda.loops → fact host → fact next
  request : Keeps fact requestReload

namespace Bystanding

variable {fact : Host → Prop} (aside : Bystanding fact)
include aside

theorem clocked : Clocked fact where
  still host next loops runner _ rota :=
    aside.still host next loops runner (Agenda.loops_of_rota rota)
  request := aside.request

theorem ofStill {α : Type} {step : Step α}
    (same : ∀ host, ((after step host).loops, (after step host).runner,
      (after step host).agenda) = (host.loops, host.runner, host.agenda)) : Keeps fact step := by
  intro host holds
  obtain ⟨loops, rest⟩ := Prod.mk.inj (same host)
  obtain ⟨runner, agenda⟩ := Prod.mk.inj rest
  exact aside.still host _ loops runner (congrArg Agenda.loops agenda) holds

theorem wake {worker : Worker} (other : worker.loop? = none) : Keeps fact (wake worker) :=
  aside.clocked.wake other

theorem sleepUntil (due : Nat) {worker : Worker} (other : worker.loop? = none) :
    Keeps fact (sleepUntil due worker) :=
  aside.clocked.sleepUntil due other

/-- Bystanders notice nothing of what is done beside the loops. -/
theorem acts {α : Type} {step : Step α} (acts : ∀ start, Keeps (Acting .aside start [] none) step) :
    Keeps fact step :=
  aside.clocked.acts acts

theorem unloadAll : Keeps fact unloadAll :=
  .read fun _ => .bind (aside.ofStill fun _ => rfl) fun _ =>
    .bind (.forM (fun script => aside.acts fun _ => unloadScript_acts script) _) fun _ =>
    aside.ofStill fun _ => rfl

end Bystanding

end Host

end HomeRules
