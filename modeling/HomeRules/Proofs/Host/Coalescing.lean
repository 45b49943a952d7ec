import HomeRules.Host.Service
import HomeRules.Proofs.Host.Step
import HomeRules.Proofs.ReloadLoops
import Mathlib.Logic.Relation

/-!
# Requests for reloads

One loop serves the requests for reloads, and nobody else runs load cycles. Requests come at
any time: while the loop is blocked or debounces, between the steps of a cycle, and from the
scripts and tasks that a cycle gives control to. Whatever they come across, no request is lost,
and those that come during one cycle are served together by the next one.
-/

set_option autoImplicit false

namespace HomeRules

/-! ## The loop in its host -/

namespace Host

theorem changeLoops_loops (change : ReloadLoops → ReloadLoops × Option LoopId) (host : Host) :
    (after (changeLoops change) host).loops = (change host.loops).1 := by
  have kept : Keeps (fun later => later.loops = (change host.loops).1)
      ((change host.loops).2.forM fun id => wake (.reloadLoop id)) :=
    .option_forM (fun _ _ same => same) _
  exact kept { host with loops := (change host.loops).1 } rfl

theorem after_continueLoop (id : LoopId) (host : Host) :
    after (continueLoop id) host =
      let (loops, move) := host.loops.step id !host.reloading.debounce.isZero
      match move with
      | .finish => after (wake .runner) { host with loops }
      | .sleep =>
        after (sleepUntil (wakeTime host.clock host.reloading.debounce) (.reloadLoop id))
          { host with loops }
      | .continue => after (wakeFirst (.reloadLoop id)) { host with loops }
      | _ => { host with loops } := by
  rw [continueLoop, after_get_bind]
  obtain ⟨loops, move⟩ := host.loops.step id !host.reloading.debounce.isZero
  cases move <;> rfl

theorem continueLoop_loops (id : LoopId) (host : Host) :
    (after (continueLoop id) host).loops =
      (host.loops.step id !host.reloading.debounce.isZero).1 := by
  rw [after_continueLoop]
  obtain ⟨loops, move⟩ := host.loops.step id !host.reloading.debounce.isZero
  cases move <;> rfl

theorem answer_continueLoop (id : LoopId) (host : Host) :
    answer (continueLoop id) host =
      decide ((host.loops.step id !host.reloading.debounce.isZero).2 = .cycle) := by
  rw [continueLoop, answer_get_bind]
  obtain ⟨loops, move⟩ := host.loops.step id !host.reloading.debounce.isZero
  cases move <;> rfl

end Host

open Host ReloadLoops

/-- A host in which one loop serves the requests, what has happened to them, and whether the
loop waits for the end of its cycle. -/
structure Service where
  host : Host
  cycling : Bool := false
  history : History := []

namespace Service

/-- One step of a service. Anything else may go on in the host at any time, also during a
cycle, as long as it leaves the loop alone. Before there is a loop, the scripts are loaded once
or more often. A cycle ends in good order or with an error that ends the loop as well. -/
inductive Step (service : Service) : Service → Prop where
  | aside {host : Host} (alone : host.loops = service.host.loops) :
      Step service { service with host }
  | request : Step service
      { service with
        host := after requestReload service.host
        history := service.history ++ [.requested] }
  | load (absent : service.host.loops.points = []) :
      Step service { service with host := after (changeLoops ReloadLoops.occupy) service.host }
  | loaded (absent : service.host.loops.points = []) :
      Step service { service with host := after (changeLoops ReloadLoops.release) service.host }
  | start (absent : service.host.loops.points = []) (idle : service.host.loops.occupied = false) :
      Step service { service with host := after startLoop service.host }
  | turn (resting : service.cycling = false) (present : service.host.loops.points ≠ [])
      (passes : answer (continueLoop 0) service.host = false) : Step service
      { service with
        host := after (continueLoop 0) service.host
        history := service.history ++ [.turned] }
  | enter (resting : service.cycling = false) (due : answer (continueLoop 0) service.host = true) :
      Step service
      { host := after (changeLoops ReloadLoops.occupy) (after (continueLoop 0) service.host)
        cycling := true
        history := service.history ++ [.began] }
  | leave (running : service.cycling = true) : Step service
      { host := after (changeLoops ReloadLoops.release) service.host
        cycling := false
        history := service.history ++ [.ended] }
  | abort (running : service.cycling = true) (error : HostError) : Step service
      { host := after (abortLoop 0 error) (after (changeLoops ReloadLoops.release) service.host)
        cycling := false
        history := service.history ++ [.ended] }
  | retire : Step service
      { service with host := after (changeLoops ReloadLoops.retire) service.host }

abbrev Reachable (start : Host) : Service → Prop :=
  Relation.ReflTransGen Step { host := start }

/-! ## What every step keeps -/

theorem Step.live {service next : Service} (step : Step service next)
    (live : next.host.loops.shutDown = false) : service.host.loops.shutDown = false := by
  cases step with
  | aside alone => rwa [alone] at live
  | request =>
      rw [requestReload, changeLoops_loops, ReloadLoops.request_shutDown] at live
      exact live
  | load absent =>
      rw [changeLoops_loops] at live
      exact live
  | loaded absent =>
      rw [changeLoops_loops, ReloadLoops.release_shutDown] at live
      exact live
  | start absent idle => exact live
  | turn resting present passes =>
      rw [continueLoop_loops, ReloadLoops.step_shutDown] at live
      exact live
  | enter resting due =>
      rw [changeLoops_loops] at live
      change (after (continueLoop 0) service.host).loops.shutDown = false at live
      rw [continueLoop_loops, ReloadLoops.step_shutDown] at live
      exact live
  | leave running =>
      rw [changeLoops_loops, ReloadLoops.release_shutDown] at live
      exact live
  | abort running error =>
      change (after (changeLoops ReloadLoops.release) service.host).loops.shutDown = false at live
      rw [changeLoops_loops, ReloadLoops.release_shutDown] at live
      exact live
  | retire =>
      rw [changeLoops_loops, ReloadLoops.retire_shutDown] at live
      cases live

abbrev Tended (service : Service) : Prop :=
  ReloadLoops.Tended service.cycling service.host.loops service.history

/-- No step loses a request, as long as the host is not shut down. -/
theorem Step.tended {service next : Service} (step : Step service next)
    (live : next.host.loops.shutDown = false)
    (tended : service.Tended) :
    next.Tended := by
  have moved := answer_continueLoop 0 service.host
  unfold Service.Tended at tended ⊢
  cases step with
  | aside alone =>
      dsimp only
      rw [alone]
      exact tended
  | request =>
      dsimp only
      rw [requestReload, changeLoops_loops]
      exact tended.request
  | load absent =>
      dsimp only
      rw [changeLoops_loops]
      exact tended.absent absent (tended.placed.load absent).1 rfl (turnsLeft_of_absent absent)
  | loaded absent =>
      dsimp only
      rw [changeLoops_loops]
      have placed := (tended.placed.load absent).2
      rw [tended.placed.release_of_absent absent] at placed ⊢
      exact tended.absent absent placed rfl (turnsLeft_of_absent absent)
  | start absent idle =>
      have placed := tended.placed.start absent idle
      refine tended.absent absent placed rfl ?_
      change (service.host.loops.start.1).turnsLeft = 2
      rw [ReloadLoops.start, turnsLeft, absent]
      rfl
  | turn resting present passes =>
      rw [passes] at moved
      dsimp only
      rw [resting] at tended ⊢
      rw [continueLoop_loops]
      exact tended.pass present (of_decide_eq_false moved.symm)
  | enter resting due =>
      rw [due] at moved
      rw [resting] at tended
      dsimp only
      rw [changeLoops_loops]
      change ReloadLoops.Tended true (after (continueLoop 0) service.host).loops.occupy.1 _
      rw [continueLoop_loops]
      exact tended.enter (of_decide_eq_true moved.symm)
  | leave running =>
      rw [running] at tended
      dsimp only
      rw [changeLoops_loops]
      exact tended.leave
  | abort running error =>
      rw [running] at tended
      dsimp only
      change ReloadLoops.Tended false
        ((after (changeLoops ReloadLoops.release) service.host).loops.finish 0 _) _
      rw [changeLoops_loops]
      exact tended.abort error
  | retire =>
      rw [changeLoops_loops, ReloadLoops.retire_shutDown] at live
      cases live

theorem Reachable.tended {start : Host} (fresh : start.loops = {}) {service : Service}
    (reached : Reachable start service) (live : service.host.loops.shutDown = false) :
    service.Tended := by
  induction reached with
  | refl =>
      unfold Service.Tended
      dsimp only
      rw [fresh]
      constructor
      case placed => exact .absent fun pending => by cases pending
      case orderly => exact .nil
      case ready =>
        intro request last outstanding
        cases outstanding.made
      case soon =>
        intro request outstanding
        cases outstanding.made
  | tail _ step previous => exact step.tended live (previous (step.live live))

/-! ## Requests are served together -/

/-- A loop that is blocked and has no permit to go on. -/
def Stuck (service : Service) : Prop :=
  service.host.loops.points[0]? = some .blocked ∧ service.host.loops.permit = false

/-- What is due to requests: a loop that is asked for something is not stuck; once it is, all
requests are served; cycles come one after the other, and each has a request of its own to
serve; and those that come during one cycle are served by the same cycle, which follows it
unless an error ended the loop. -/
structure Coalesces (service : Service) : Prop where
  awake : service.host.loops.pending = true → ¬ service.Stuck
  served : service.Stuck → ∀ request : Nat, service.history[request]? = some .requested →
    ∃ cycle, service.history.Serves cycle request
  apart : ∀ first second : Nat, first < second → service.history[first]? = some .began →
    service.history[second]? = some .began →
    ∃ last : Nat, first < last ∧ last < second ∧ service.history[last]? = some .ended
  needed : ∀ cycle : Nat, service.history[cycle]? = some .began →
    ∃ request, service.history.Serves cycle request
  once : ∀ first second request, service.history.Serves first request →
    service.history.Serves second request → first = second
  together : ∀ cycle request other, service.history.MadeIn cycle request →
    service.history.MadeIn cycle other →
    ∀ next, service.history.Serves next request ↔ service.history.Serves next other
  followed : ∀ cycle request last : Nat, service.history.MadeIn cycle request →
    request < last → service.history[last]? = some .ended →
    (∃ next, service.history.Serves next request) ∨
      (service.cycling = false ∧ answer (continueLoop 0) service.host = true) ∨
      service.host.loops.Over
  soon : ∀ request, service.history.Outstanding request → ¬ service.host.loops.Over →
    service.history.turnsAfter request ≤ 2

/-- In every service that is not shut down, no request is lost and requests coalesce. -/
theorem Reachable.coalesces {start : Host} (fresh : start.loops = {}) {service : Service}
    (reached : Reachable start service) (live : service.host.loops.shutDown = false) :
    service.Coalesces := by
  have tended := reached.tended fresh live
  have orderly := tended.orderly
  constructor
  case awake =>
    intro pending stuck
    rw [tended.placed.pending_eq_false stuck.1] at pending
    cases pending
  case served =>
    intro stuck request made
    rcases History.served_or_outstanding made with served | outstanding
    · exact served
    · have pending := tended.pending outstanding
      rw [tended.placed.pending_eq_false stuck.1] at pending
      cases pending
  case apart => exact orderly.apart
  case needed => exact orderly.needed
  case once => exact fun _ _ _ => History.Serves.unique
  case together =>
    intro cycle request other one two next
    exact ⟨orderly.serves_together one two, orderly.serves_together two one⟩
  case followed =>
    intro cycle request last made later ends
    rcases History.served_or_outstanding made.made with served | outstanding
    · exact .inl served
    · obtain ⟨resting, testing | isOver⟩ := tended.ready request last outstanding later ends
      · refine .inr (.inl ⟨resting, ?_⟩)
        have placed := tended.placed
        rw [resting] at placed
        rw [answer_continueLoop]
        exact decide_eq_true (placed.due testing (tended.pending outstanding))
      · exact .inr (.inr isOver)
  case soon =>
    intro request outstanding going
    exact Nat.le_trans (Nat.le_add_right _ _) (tended.soon request outstanding going)

end Service

end HomeRules
