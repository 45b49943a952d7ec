import HomeRules.Proofs.Host.Quieting

/-!
# Quiet periods before cycles

A host with one loop is watched while it runs. Whenever requests begin to be pending, the time and
the place in which they find the loop are noted, and with each cycle when its quiet period began.
No cycle begins before its quiet period is over. That period began after the first request that the
cycle serves, if the loop was at rest then; a request that comes during the period or during a
cycle does not lengthen it.
-/

set_option autoImplicit false

namespace HomeRules

/-! ## Watching a loop -/

/-- What made requests pending. -/
structure FirstRequest where
  time : Nat
  /-- Where it found the loop. -/
  place : Option LoopPoint
  deriving DecidableEq, Repr

/-- A cycle that a loop began. -/
structure LoopCycle where
  /-- The first of the requests that it serves. -/
  first : Option FirstRequest
  /-- When the loop last went on from its rest. A quiet period began then. -/
  roused : Nat
  time : Nat
  deriving DecidableEq, Repr

/-- A host, and what was noted up to it. `first` is there while requests are pending. -/
structure Vigil where
  host : Host
  first : Option FirstRequest := none
  roused : Nat := 0
  cycles : List LoopCycle := []

/-- What is done at once, and neither starts a loop nor runs a cycle. -/
def Operation.Prompt : Operation → Prop
  | .reload _ | .startLoop | .startRunner | .settle _ | .advance _ _ | .awaitRunner _ => False
  | _ => True

open Host

/-- How the cycle kept the quiet period of the first request that it serves. -/
structure LoopCycle.Follows (cycle : LoopCycle) (debounce : Duration) (first : FirstRequest) :
    Prop where
  noted : cycle.first = some first
  past : first.time ≤ cycle.time
  quiet : resumeTime cycle.roused debounce ≤ cycle.time
  before : LoopPoint.resting first.place = true → first.time ≤ cycle.roused
  since : LoopPoint.resting first.place = false → cycle.roused ≤ first.time

namespace Vigil

/-- Notes what a worker that is given control is about to do. After a shutdown no cycle begins. -/
def attend (vigil : Vigil) : Worker → Vigil
  | .reloadLoop id =>
    if answer (continueLoop id) vigil.host && !vigil.host.loops.shutDown then
      { vigil with
        first := none
        cycles := vigil.cycles ++ [⟨vigil.first, vigil.roused, vigil.host.clock⟩] }
    else if LoopPoint.resting vigil.host.loops.place then
      { vigil with roused := vigil.host.clock }
    else vigil
  | _ => vigil

/-- Notes what a host has come to. -/
def see (vigil : Vigil) (next : Host) : Vigil :=
  { vigil with
    host := next
    first :=
      if next.loops.pending then vigil.first <|> some ⟨next.clock, vigil.host.loops.place⟩
      else none }

/-- One thing that happens: an operation, a worker that can go on is given control, or time
passes. -/
inductive Next (vigil : Vigil) : Vigil → Prop where
  | operate {operation : Operation} (prompt : operation.Prompt) :
      Next vigil (vigil.see (after (operate operation) vigil.host))
  | work (budget : Nat) {worker : Worker} (ready : worker ∈ vigil.host.agenda.ready) :
      Next vigil ((vigil.attend worker).see
        (after (runWorker budget worker) (after (pick worker) vigil.host)))
  | pass (time : Nat) : Next vigil (vigil.see (after (passTo time) vigil.host))

abbrev Reaches : Vigil → Vigil → Prop :=
  Relation.ReflTransGen Next

/-! ## What is true all the time -/

/-- What is noted of a host that is not shut down. A loop that sleeps is given no control before its
quiet period is over, and a loop that tests for requests has had it. -/
structure Kept (vigil : Vigil) (debounce : Duration) : Prop where
  pending : vigil.first.isSome = vigil.host.loops.pending
  past : ∀ first ∈ vigil.first, first.time ≤ vigil.host.clock
  roused : vigil.roused ≤ vigil.host.clock
  dozes : vigil.host.loops.place = some .debouncing →
    vigil.host.Dozes (resumeTime vigil.roused debounce)
  quiet : vigil.host.loops.place = some .testing →
    resumeTime vigil.roused debounce ≤ vigil.host.clock
  before : ∀ first ∈ vigil.first, LoopPoint.resting first.place = true →
    LoopPoint.resting vigil.host.loops.place = false → first.time ≤ vigil.roused
  since : ∀ first ∈ vigil.first, LoopPoint.resting first.place = false →
    LoopPoint.resting vigil.host.loops.place = false ∧ vigil.roused ≤ first.time

section Keeping

variable {vigil : Vigil} {debounce : Duration} {next : Host}

theorem isSome_see : (vigil.see next).first.isSome = next.loops.pending := by
  rw [see]
  cases next.loops.pending with
  | false => rfl
  | true => cases vigil.first <;> rfl

theorem mem_see {first : FirstRequest} (noted : first ∈ (vigil.see next).first) :
    next.loops.pending = true ∧ (first ∈ vigil.first ∨
      vigil.first = none ∧ first = ⟨next.clock, vigil.host.loops.place⟩) := by
  rw [see] at noted
  dsimp only at noted
  split at noted
  · case isTrue pending =>
      refine ⟨pending, ?_⟩
      cases known : vigil.first with
      | none =>
          rw [known] at noted
          exact .inr ⟨rfl, (Option.some.inj noted).symm⟩
      | some earlier =>
          rw [known] at noted
          exact .inl noted
  · cases noted

/-- While others have control and as time passes, the notes stay right. -/
theorem Kept.see (kept : vigil.Kept debounce) (bides : Bides vigil.host next) :
    (vigil.see next).Kept debounce where
  pending := isSome_see
  past first noted := by
    obtain ⟨-, known | ⟨-, rfl⟩⟩ := mem_see noted
    · exact Nat.le_trans (kept.past first known) bides.clock
    · exact Nat.le_refl _
  roused := Nat.le_trans kept.roused bides.clock
  dozes asleep := by
    obtain ⟨before, onward⟩ := bides.dozes asleep
    exact onward _ (kept.dozes before)
  quiet testing := Nat.le_trans (kept.quiet (bides.testing testing)) bides.clock
  before first noted rested gone := by
    have left := bides.resting.symm.trans gone
    obtain ⟨-, known | ⟨-, rfl⟩⟩ := mem_see noted
    · exact kept.before first known rested left
    · cases rested.symm.trans left
  since first noted late := by
    obtain ⟨-, known | ⟨-, rfl⟩⟩ := mem_see noted
    · obtain ⟨left, later⟩ := kept.since first known late
      exact ⟨bides.resting.trans left, later⟩
    · exact ⟨bides.resting.trans late, Nat.le_trans kept.roused bides.clock⟩

theorem attend_of_passes (passes : answer (continueLoop 0) vigil.host = false) :
    vigil.attend (.reloadLoop 0) =
      { vigil with
        roused := if LoopPoint.resting vigil.host.loops.place then vigil.host.clock
          else vigil.roused } := by
  rw [attend, passes]
  change (if LoopPoint.resting vigil.host.loops.place then _ else _) = _
  split <;> rfl

section Turn

variable (kept : vigil.Kept debounce) (clock : next.clock = vigil.host.clock)
  (pending : next.loops.pending = vigil.host.loops.pending)
include kept

include pending in
private theorem mem_see_of_pending {roused : Nat} {first : FirstRequest}
    (noted : first ∈ (Vigil.see { vigil with roused } next).first) :
    next.loops.pending = true ∧ first ∈ vigil.first := by
  obtain ⟨asked, known | ⟨unasked, -⟩⟩ := mem_see noted
  · exact ⟨asked, known⟩
  · have none := kept.pending
    rw [← pending, asked, unasked] at none
    cases none

include clock pending

/-- A loop to which there are no requests may rest. -/
private theorem kept_of_idle {roused : Nat} (none : next.loops.pending = false)
    (past : roused ≤ vigil.host.clock) (asleep : next.loops.place ≠ some .debouncing)
    (testing : next.loops.place ≠ some .testing) :
    (Vigil.see { vigil with roused } next).Kept debounce := by
  have silent {fact : Prop} {first : FirstRequest}
      (noted : first ∈ (Vigil.see { vigil with roused } next).first) : fact := by
    have asked := (mem_see_of_pending kept pending noted).1
    rw [none] at asked
    cases asked
  exact ⟨isSome_see, fun _ => silent, Nat.le_trans past (Nat.le_of_eq clock.symm),
    (absurd · asleep), (absurd · testing), fun _ noted _ _ => silent noted,
    fun _ noted _ => silent noted⟩

/-- A loop that goes on from its rest begins a quiet period, and what is pending came before it. -/
private theorem kept_of_rested (rested : LoopPoint.resting vigil.host.loops.place = true)
    (dozes : next.loops.place = some .debouncing →
      next.Dozes (resumeTime vigil.host.clock debounce))
    (quiet : next.loops.place = some .testing →
      resumeTime vigil.host.clock debounce ≤ vigil.host.clock) :
    (Vigil.see { vigil with roused := vigil.host.clock } next).Kept debounce := by
  have now : vigil.host.clock ≤ next.clock := Nat.le_of_eq clock.symm
  refine ⟨isSome_see, fun first noted => ?_, now, dozes,
    fun testing => Nat.le_trans (quiet testing) now, fun first noted _ _ => ?_,
    fun first noted late => ?_⟩
  · exact Nat.le_trans (kept.past first (mem_see_of_pending kept pending noted).2) now
  · exact kept.past first (mem_see_of_pending kept pending noted).2
  · have left := kept.since first (mem_see_of_pending kept pending noted).2 late
    cases rested.symm.trans left.1

/-- A loop that does not rest keeps the quiet period that it began. -/
private theorem kept_of_gone (gone : LoopPoint.resting vigil.host.loops.place = false)
    (still : LoopPoint.resting next.loops.place = false)
    (asleep : next.loops.place ≠ some .debouncing)
    (quiet : next.loops.place = some .testing →
      resumeTime vigil.roused debounce ≤ vigil.host.clock) :
    (vigil.see next).Kept debounce := by
  have now : vigil.host.clock ≤ next.clock := Nat.le_of_eq clock.symm
  refine ⟨isSome_see, fun first noted => ?_, Nat.le_trans kept.roused now, (absurd · asleep),
    fun testing => Nat.le_trans (quiet testing) now, fun first noted rested _ => ?_,
    fun first noted late => ⟨still, ?_⟩⟩
  · exact Nat.le_trans (kept.past first (mem_see_of_pending kept pending noted).2) now
  · exact kept.before first (mem_see_of_pending kept pending noted).2 rested gone
  · exact (kept.since first (mem_see_of_pending kept pending noted).2 late).2

/-- A turn of the loop in which no cycle begins. -/
theorem Kept.turn (ready : .reloadLoop 0 ∈ vigil.host.agenda.ready)
    (passes : answer (continueLoop 0) vigil.host = false)
    (turn : LoopTurn vigil.host.loops.place vigil.host.clock debounce next) :
    ((vigil.attend (.reloadLoop 0)).see next).Kept debounce := by
  have roused : (if LoopPoint.resting vigil.host.loops.place then vigil.host.clock
      else vigil.roused) ≤ vigil.host.clock := by
    split
    · exact Nat.le_refl _
    · exact kept.roused
  rw [attend_of_passes passes]
  cases turn with
  | wait none there =>
      exact kept_of_idle kept clock pending none roused (by simp [there]) (by simp [there])
  | serve none there =>
      exact kept_of_idle kept clock pending none roused (by simp [there]) (by simp [there])
  | sleep rested there dozes =>
      rw [rested, if_pos rfl]
      exact kept_of_rested kept clock pending rested (fun _ => dozes) (absurd · (by simp [there]))
  | hurry rested there quiet =>
      rw [rested, if_pos rfl]
      exact kept_of_rested kept clock pending rested (absurd · (by simp [there]))
        fun _ => Nat.le_of_eq quiet
  | rouse here there =>
      have gone : LoopPoint.resting vigil.host.loops.place = false := here ▸ rfl
      rw [gone, if_neg Bool.false_ne_true]
      -- The loop was given control, so that its sleep is over.
      exact kept_of_gone kept clock pending gone (there ▸ rfl) (by simp [there])
        fun _ => (kept.dozes here).ready 0 ready
  | stay error here there =>
      have gone : LoopPoint.resting vigil.host.loops.place = false := here ▸ rfl
      rw [gone, if_neg Bool.false_ne_true]
      exact kept_of_gone kept clock pending gone (there ▸ rfl) (by simp [there])
        (absurd · (by simp [there]))

end Turn

/-- A turn of the loop in which a cycle runs. -/
theorem Kept.cycle (kept : vigil.Kept debounce) (later : vigil.host.clock ≤ next.clock)
    (here : vigil.host.loops.place = some .testing)
    (there : next.loops.place = some .testing ∨
      ∃ error, next.loops.place = some (.finished error)) {cycles : List LoopCycle} :
    (Vigil.see { vigil with first := none, cycles } next).Kept debounce := by
  have made {first : FirstRequest}
      (noted : first ∈ (Vigil.see { vigil with first := none, cycles } next).first) :
      first = ⟨next.clock, some .testing⟩ := by
    obtain ⟨-, known | ⟨-, same⟩⟩ := mem_see noted
    · cases known
    · rw [same, here]
  have gone : LoopPoint.resting next.loops.place = false := by
    rcases there with testing | ⟨error, ended⟩
    · rw [testing]
      rfl
    · rw [ended]
      rfl
  refine ⟨isSome_see, fun first noted => ?_, Nat.le_trans kept.roused later, fun asleep => ?_,
    fun _ => Nat.le_trans (kept.quiet here) later, fun first noted rested => ?_,
    fun first noted _ => ⟨gone, ?_⟩⟩
  · cases made noted
    exact Nat.le_refl _
  · rcases there with testing | ⟨error, ended⟩
    · cases testing.symm.trans asleep
    · cases ended.symm.trans asleep
  · cases made noted
    cases rested
  · cases made noted
    exact Nat.le_trans kept.roused later

/-- The cycle that a loop begins keeps its quiet period. -/
theorem Kept.follows (kept : vigil.Kept debounce) (here : vigil.host.loops.place = some .testing)
    (asked : vigil.host.loops.pending = true) :
    ∃ first, LoopCycle.Follows ⟨vigil.first, vigil.roused, vigil.host.clock⟩ debounce first := by
  obtain ⟨first, known⟩ := Option.isSome_iff_exists.mp (kept.pending.trans asked)
  exact ⟨first, known, kept.past first known, kept.quiet here,
    fun rested => kept.before first known rested (here ▸ rfl),
    fun late => (kept.since first known late).2⟩

end Keeping

end Vigil

/-! ## What keeps a host shut down -/

namespace Host

theorem openService_shut (budget : Nat) :
    Keeps (·.loops.shutDown = true) (openService budget) := by
  have aside := shut_unturned.toBystanding
  refine .read fun host => .bind (reload_shut budget) fun result => ?_
  cases result with
  | error error => exact fun _ shut => shut
  | ok report =>
      exact .bind (fun _ shut => shut) fun _ => .bind (aside.clocked.startWatcher _ _) fun _ =>
        .bind (fun _ shut => shut) fun _ => aside.wake rfl

theorem runRunner_shut (budget : Nat) : Keeps (·.loops.shutDown = true) (runRunner budget) := by
  intro host shut
  cases runRunner_turn budget host with
  | opens _ opening =>
      rw [opening]
      exact openService_shut budget host shut
  | shuts shut => exact shut
  | aside loops _ _ _ =>
      rw [loops]
      exact shut

theorem runWorker_shut (budget : Nat) (worker : Worker) :
    Keeps (·.loops.shutDown = true) (runWorker budget worker) := by
  have aside := shut_unturned.toBystanding
  cases worker with
  | task id => exact aside.acts fun _ => runTask_acts trivial
  | reloadLoop id => exact runLoop_shut budget id
  | watcher => exact aside.clocked.runWatcher
  | runner => exact runRunner_shut budget

end Host

theorem Operation.Prompt.steady {operation : Operation} (prompt : operation.Prompt) :
    operation.Steady := by
  cases operation <;> trivial

namespace Host

theorem operate_shut {operation : Operation} (prompt : operation.Prompt) :
    Keeps (·.loops.shutDown = true) (operate operation) := by
  have aside := shut_unturned.toBystanding
  cases operation with
  | shutDown budget => exact fun host _ => shutDown_shut budget host
  | requestStop => exact .bind (fun _ shut => shut) fun _ => aside.wake rfl
  | reload | startLoop | startRunner | settle | advance | awaitRunner => exact prompt.elim
  | _ => exact aside.acts fun _ => operate_aside trivial (.inr trivial)

theorem answer_continueLoop_pick (id : LoopId) (worker : Worker) (host : Host) :
    answer (continueLoop id) (after (pick worker) host) = answer (continueLoop id) host := by
  rw [answer_continueLoop, answer_continueLoop]
  rfl

/-- What is done at once leaves the loop alone, or shuts the host down. -/
theorem operate_bides {operation : Operation} (prompt : operation.Prompt) {host : Host}
    (placed : ReloadLoops.Placed false host.loops) :
    (after (operate operation) host).loops.shutDown = true ∨
      Bides host (after (operate operation) host) := by
  have aside {step : Step Unit} (acts : ∀ start, Keeps (Acting .aside start [] none) step) :
      Bides host (after step host) :=
    ((beside_clocked.acts acts) host (.refl placed)).bides placed
  cases operation with
  | shutDown budget => exact .inl (shutDown_shut budget host)
  | requestStop =>
      exact .inr <| Beside.bides placed
        ⟨placed, .inl rfl, rfl, fun unblocked => ⟨unblocked, wake_rota rfl host⟩⟩
  | reload | startLoop | startRunner | settle | advance | awaitRunner => exact prompt.elim
  | _ => exact .inr (aside fun _ => operate_aside trivial (.inr trivial))

end Host

/-! ## Along a run -/

namespace Vigil

/-- What is true of every vigil that begins with a host that was just created. -/
structure Sound (start : Host) (vigil : Vigil) : Prop where
  settings : vigil.host.reloading = start.reloading
  attends : Attends start false Opened vigil.host
  kept : vigil.host.loops.shutDown = true ∨ vigil.Kept start.reloading.debounce
  cycles : ∀ cycle ∈ vigil.cycles, ∃ first, cycle.Follows start.reloading.debounce first

section Running

variable {start : Host} (fresh : start.loops = {}) {vigil next : Vigil}
include fresh

omit fresh in
/-- After a shutdown nothing more is noted. -/
theorem attend_of_shut (shut : vigil.host.loops.shutDown = true) (worker : Worker) :
    (vigil.attend worker).cycles = vigil.cycles := by
  unfold attend
  split
  · rw [shut, Bool.not_true, Bool.and_false, if_neg Bool.false_ne_true]
    split <;> rfl
  · rfl

theorem Sound.operate (sound : vigil.Sound start) {operation : Operation}
    (prompt : operation.Prompt) :
    (vigil.see (after (Host.operate operation) vigil.host)).Sound start where
  settings := by
    refine Eq.trans ?_ sound.settings
    rcases operate_reaches (.refl : Host.Reaches true vigil.host vigil.host) operation with
      path | ⟨tree, written⟩
    · exact congrArg Environment.reloading path.environment_eq
    · change (after (Host.operate operation) vigil.host).reloading = _
      rw [written]
  attends := operate_attends fresh prompt.steady _ sound.attends
  kept := by
    rcases shut_or_live sound.kept with shut | ⟨live, kept⟩
    · exact .inl (operate_shut prompt _ shut)
    · obtain ⟨attended, -⟩ := sound.attends.resolve_left (by simp [live])
      exact (operate_bides prompt (attended.placed fresh live)).imp_right kept.see
  cycles := sound.cycles

section Working

variable (sound : vigil.Sound start) (live : vigil.host.loops.shutDown = false)
include sound live

omit fresh in
private theorem Sound.alive :
    Attended start false vigil.host ∧ vigil.Kept start.reloading.debounce :=
  ⟨(sound.attends.resolve_left (by simp [live])).1, sound.kept.resolve_left (by simp [live])⟩

/-- Workers that are no loops. -/
private theorem kept_of_other (budget : Nat) {worker : Worker} (other : worker.loop? = none)
    (picked : Attends start false Opened (after (pick worker) vigil.host)) :
    (after (runWorker budget worker) (after (pick worker) vigil.host)).loops.shutDown = true ∨
      (vigil.see (after (runWorker budget worker) (after (pick worker) vigil.host))).Kept
        start.reloading.debounce := by
  obtain ⟨attended, kept⟩ := sound.alive live
  have placed := attended.placed fresh live
  have taken : Bides vigil.host (after (pick worker) vigil.host) :=
    Beside.bides placed ⟨placed, .inl rfl, rfl, fun unblocked => ⟨unblocked, pick_rota other _⟩⟩
  have still : (after (pick worker) vigil.host).loops.shutDown = false := live
  have ran := runWorker_bides fresh budget other still picked
  exact ran.imp_right fun bides => kept.see (taken.trans bides)

/-- A turn of the loop without a cycle. -/
private theorem kept_of_turn (budget : Nat) (ready : .reloadLoop 0 ∈ vigil.host.agenda.ready)
    (passes : answer (continueLoop 0) vigil.host = false) :
    ((vigil.attend (.reloadLoop 0)).see
      (after (runLoop budget 0) (after (pick (.reloadLoop 0)) vigil.host))).Kept
        start.reloading.debounce := by
  obtain ⟨attended, kept⟩ := sound.alive live
  have placed : ReloadLoops.Placed false (after (pick (.reloadLoop 0)) vigil.host).loops :=
    attended.placed fresh live
  obtain ⟨-, none, unblocked, present⟩ := pick_loop attended ready
  have passed : answer (continueLoop 0) (after (pick (.reloadLoop 0)) vigil.host) = false :=
    (answer_continueLoop_pick 0 _ _).trans passes
  obtain ⟨clock, turn⟩ := continueLoop_turn placed none present unblocked passed
  rw [runLoop, after_bind, passed, if_neg Bool.false_ne_true, after_pure]
  refine kept.turn clock ?_ ready passes (sound.settings ▸ turn)
  rw [continueLoop_loops]
  rw [answer_continueLoop] at passes
  exact placed.pending_pass (of_decide_eq_false passes)

/-- A turn of the loop with a cycle. -/
private theorem kept_of_cycle (budget : Nat) (ready : .reloadLoop 0 ∈ vigil.host.agenda.ready)
    (due : answer (continueLoop 0) vigil.host = true) (cycles : List LoopCycle) :
    let next := after (runLoop budget 0) (after (pick (.reloadLoop 0)) vigil.host)
    (next.loops.shutDown = true ∨
      (Vigil.see { vigil with first := none, cycles } next).Kept start.reloading.debounce) ∧
    ∃ first, LoopCycle.Follows ⟨vigil.first, vigil.roused, vigil.host.clock⟩
      start.reloading.debounce first := by
  intro next
  obtain ⟨attended, kept⟩ := sound.alive live
  obtain ⟨-, none, -, -⟩ := pick_loop attended ready
  have picked : Attended start false (after (pick (.reloadLoop 0)) vigil.host) := by
    obtain ⟨⟨history, reached⟩, -⟩ := attended
    exact ⟨⟨history, reached.tail (.aside rfl)⟩, .inl none⟩
  have still : (after (pick (.reloadLoop 0)) vigil.host).loops.shutDown = false := live
  obtain ⟨asked, here, there⟩ := runLoop_cycle fresh budget still picked none
    ((answer_continueLoop_pick 0 _ _).trans due)
  have later : vigil.host.clock ≤ next.clock :=
    runWorker_clock budget (.reloadLoop 0) (after (pick (.reloadLoop 0)) vigil.host)
  exact ⟨there.imp_right fun there => kept.cycle later here there, kept.follows here asked⟩

end Working

theorem Sound.work (sound : vigil.Sound start) (budget : Nat) {worker : Worker}
    (ready : worker ∈ vigil.host.agenda.ready) :
    ((vigil.attend worker).see
      (after (runWorker budget worker) (after (pick worker) vigil.host))).Sound start := by
  have picked := pick_attends ready sound.attends
  have settings : (after (runWorker budget worker) (after (pick worker) vigil.host)).reloading =
      start.reloading := by
    have path := runWorker_reaches budget worker (after (pick worker) vigil.host) .refl
    exact (congrArg Environment.reloading path.environment_eq).trans sound.settings
  have attends := (attends_scheduling fresh).work budget worker _ picked
  rcases shut_or_live sound.kept with shut | ⟨live, -⟩
  · refine ⟨settings, attends, .inl (runWorker_shut budget worker _ shut), ?_⟩
    change ∀ cycle ∈ (vigil.attend worker).cycles, _
    rw [attend_of_shut shut]
    exact sound.cycles
  cases worker with
  | reloadLoop id =>
      obtain ⟨rfl, -⟩ := pick_loop (sound.alive live).1 ready
      cases due : answer (continueLoop 0) vigil.host with
      | false =>
          refine ⟨settings, attends, .inr (kept_of_turn fresh sound live budget ready due), ?_⟩
          rw [attend_of_passes due]
          exact sound.cycles
      | true =>
          have begins : vigil.attend (.reloadLoop 0) = { vigil with
              first := none
              cycles := vigil.cycles ++ [⟨vigil.first, vigil.roused, vigil.host.clock⟩] } := by
            rw [attend, due, live]
            rfl
          obtain ⟨kept, follows⟩ := kept_of_cycle fresh sound live budget ready due
            (vigil.cycles ++ [⟨vigil.first, vigil.roused, vigil.host.clock⟩])
          rw [begins]
          refine ⟨settings, attends, kept, fun cycle member => ?_⟩
          rcases List.mem_append.mp member with before | new
          · exact sound.cycles cycle before
          · rw [List.mem_singleton.mp new]
            exact follows
  | _ =>
      exact ⟨settings, attends, kept_of_other fresh sound live budget rfl picked, sound.cycles⟩

omit fresh in
theorem Sound.pass (sound : vigil.Sound start) (time : Nat) :
    (vigil.see (after (passTo time) vigil.host)).Sound start where
  settings := sound.settings
  attends := passTo_attends time _ sound.attends
  kept := sound.kept.imp_right fun kept => kept.see (passTo_bides time vigil.host)
  cycles := sound.cycles

theorem Next.sound (step : Next vigil next) (sound : vigil.Sound start) : next.Sound start := by
  cases step with
  | operate prompt => exact sound.operate fresh prompt
  | work budget ready => exact sound.work fresh budget ready
  | pass time => exact sound.pass time

theorem Reaches.sound (path : Reaches vigil next) (sound : vigil.Sound start) :
    next.Sound start := by
  induction path with
  | refl => exact sound
  | tail _ step previous => exact step.sound fresh previous

end Running

/-- A host on which a loop, or the runner that starts it, was just started. -/
def opened (start : Host) (opening : Operation) : Vigil :=
  { host := after (operate opening) start }

theorem opened_sound {config : ScriptingConfig} {dataDirectory : String} {tree : FileTree}
    {vocabulary : Vocabulary} {shelf : ScriptShelf} {opening : Operation}
    (opens : opening = .startRunner ∨ opening = .startLoop) :
    let start := create config dataDirectory tree vocabulary shelf
    (opened start opening).Sound start := by
  intro start
  have attends := opening_attends config dataDirectory tree vocabulary shelf opens
  have calm (waits : LoopPoint.resting (opened start opening).host.loops.place = true)
      (unasked : (opened start opening).host.loops.pending = false) :
      (opened start opening).Kept start.reloading.debounce := by
    refine ⟨unasked.symm, nofun, Nat.zero_le _, fun asleep => ?_, fun testing => ?_, nofun, nofun⟩
    · rw [asleep] at waits
      cases waits
    · rw [testing] at waits
      cases waits
  rcases opens with rfl | rfl
  · exact ⟨rfl, attends, .inr (calm rfl rfl), List.forall_mem_nil _⟩
  · exact ⟨rfl, attends, .inr (calm rfl rfl), List.forall_mem_nil _⟩

/-- Whatever is done to a host is watched, as long as nobody else runs cycles. -/
theorem run_reaches {start : Vigil} {operations : List Operation}
    (steady : ∀ operation ∈ operations, operation.Steady) :
    Keeps (fun host => ∃ vigil, Reaches start vigil ∧ vigil.host = host) (run operations) := by
  have scheduling : Scheduling (fun host => ∃ vigil, Reaches start vigil ∧ vigil.host = host)
      (Picked fun host => ∃ vigil, Reaches start vigil ∧ vigil.host = host) := by
    refine Scheduling.ofTurns ?_ ?_
    · rintro _ budget worker ready ⟨vigil, path, rfl⟩
      exact ⟨_, path.tail (.work budget ready), rfl⟩
    · rintro _ time - - ⟨vigil, path, rfl⟩
      exact ⟨_, path.tail (.pass time), rfl⟩
  have prompt {operation : Operation} (prompt : operation.Prompt) :
      Keeps (fun host => ∃ vigil, Reaches start vigil ∧ vigil.host = host)
        (operate operation) := by
    rintro _ ⟨vigil, path, rfl⟩
    exact ⟨_, path.tail (.operate prompt), rfl⟩
  refine Keeps.forM_of_mem fun operation member => ?_
  have allowed := steady operation member
  cases operation with
  | settle budget => exact scheduling.settle budget
  | advance budget milliseconds => exact .read fun _ => scheduling.advanceTo _ budget
  | awaitRunner budget => exact scheduling.awaitRunner budget
  | reload | startLoop | startRunner => exact allowed.elim
  | _ => exact prompt trivial

end Vigil

namespace Host

/-- A sleep is no shorter than it should be, if a clock can tell its end. -/
theorem resumeTime_over {now time : Nat} {delay : Duration} (rested : resumeTime now delay ≤ time)
    (tellable : isTellable time delay = true) :
    now * 1000000 + delay.nanoseconds ≤ time * 1000000 := by
  have told := isTellable_mono (Nat.le_trans (le_resumeTime now delay) rested) tellable
  cases zero : delay.isZero with
  | true =>
      have none : delay.nanoseconds = 0 := of_decide_eq_true zero
      rw [resumeTime, zero, if_pos rfl] at rested
      omega
  | false =>
      rw [resumeTime, zero, if_neg Bool.false_ne_true, wakeTime, if_pos told] at rested
      omega

/-- A request that finds the loop at rest is served a whole debounce period later. -/
theorem follows_rested {cycle : LoopCycle} {debounce : Duration} {first : FirstRequest}
    (follows : cycle.Follows debounce first) (rested : LoopPoint.resting first.place = true)
    (tellable : isTellable cycle.time debounce = true) :
    first.time * 1000000 + debounce.nanoseconds ≤ cycle.time * 1000000 :=
  calc
    first.time * 1000000 + debounce.nanoseconds
        ≤ cycle.roused * 1000000 + debounce.nanoseconds :=
      Nat.add_le_add_right (Nat.mul_le_mul (follows.before rested) (Nat.le_refl _)) _
    _ ≤ cycle.time * 1000000 := resumeTime_over follows.quiet tellable

/-- No cycle that the loop begins comes before its quiet period is over. It comes a whole debounce
period after the first request that it serves, if the loop was at rest when that was made. A quiet
period that is under way, or that was over, does not begin again for a request. -/
theorem quiet_before_cycles (config : ScriptingConfig) (dataDirectory : String) (tree : FileTree)
    (vocabulary : Vocabulary) (shelf : ScriptShelf) {opening : Operation}
    (opens : opening = .startRunner ∨ opening = .startLoop) :
    let start := create config dataDirectory tree vocabulary shelf
    let debounce := start.reloading.debounce
    (∀ vigil, Vigil.Reaches (.opened start opening) vigil → ∀ cycle ∈ vigil.cycles,
      ∃ first, cycle.Follows debounce first ∧
        (LoopPoint.resting first.place = true → isTellable cycle.time debounce = true →
          first.time * 1000000 + debounce.nanoseconds ≤ cycle.time * 1000000)) ∧
    ∀ operations, (∀ operation ∈ operations, operation.Steady) →
      ∃ vigil, Vigil.Reaches (.opened start opening) vigil ∧
        vigil.host = after (run (opening :: operations)) start := by
  intro start debounce
  constructor
  · intro vigil path cycle member
    have sound := Vigil.Reaches.sound rfl path (Vigil.opened_sound opens)
    obtain ⟨first, follows⟩ := sound.cycles cycle member
    exact ⟨first, follows, follows_rested follows⟩
  · intro operations steady
    exact Vigil.run_reaches steady _ ⟨.opened start opening, .refl, rfl⟩

/-- A native script that asks for a reload the first time it is loaded. -/
private def again : NativeScript where
  name := "again"
  onLoad _ := [.requestReload 1]

private def insistent : Host :=
  create { reloadDebounce := 100 } "data"
    (FileTree.put {} "data/scripts/a.toml" ⟨.file "script = \"again\"\n".toUTF8, 0⟩) {}
    [("again", again)]

private def turn (vigil : Vigil) : Vigil :=
  (vigil.attend (.reloadLoop 0)).see
    (after (runWorker 4 (.reloadLoop 0)) (after (pick (.reloadLoop 0)) vigil.host))

private theorem turn_next {vigil : Vigil} (ready : .reloadLoop 0 ∈ vigil.host.agenda.ready) :
    Vigil.Next vigil (turn vigil) :=
  .work 4 ready

private def asked : Vigil :=
  (Vigil.opened insistent .startLoop).see
    (after (operate .requestReload) (Vigil.opened insistent .startLoop).host)

/-- The script was loaded after the debounce period. -/
private def loaded : Vigil :=
  turn (turn ((turn asked).see (after (passTo 100) (turn asked).host)))

private theorem loaded_reached : Vigil.Reaches (.opened insistent .startLoop) loaded := by
  have start : Vigil.Reaches (.opened insistent .startLoop) asked :=
    .single (@Vigil.Next.operate _ .requestReload trivial)
  have turned := (start.tail (turn_next (by decide +kernel))).tail (.pass 100)
  exact (turned.tail (turn_next (by decide +kernel))).tail (turn_next (by decide +kernel))

theorem quiet_before_cycles_insistent :
    loaded.cycles = [⟨some ⟨0, some .starting⟩, 0, 100⟩] ∧
      LoopCycle.Follows ⟨some ⟨0, some .starting⟩, 0, 100⟩ (.ofMilliseconds 100)
        ⟨0, some .starting⟩ := by
  have begun : loaded.cycles = [⟨some ⟨0, some .starting⟩, 0, 100⟩] := by decide +kernel
  obtain ⟨vigils, -⟩ := quiet_before_cycles { reloadDebounce := 100 } "data" _ {}
    [("again", again)] (.inr rfl)
  obtain ⟨first, follows, -⟩ := vigils loaded loaded_reached _ (begun ▸ List.mem_cons_self)
  cases follows.noted
  exact ⟨begun, follows⟩

/-- The request that the script makes while it is loaded is served at once. -/
theorem follow_up_hurries :
    insistent.reloading.debounce = .ofMilliseconds 100 ∧
      Vigil.Reaches (.opened insistent .startLoop) (turn loaded) ∧
      (turn loaded).cycles =
        [⟨some ⟨0, some .starting⟩, 0, 100⟩, ⟨some ⟨100, some .testing⟩, 0, 100⟩] := by
  refine ⟨by decide +kernel, ?_, by decide +kernel⟩
  exact loaded_reached.tail (turn_next (by decide +kernel))

end Host

end HomeRules
