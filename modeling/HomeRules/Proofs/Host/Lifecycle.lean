import HomeRules.Proofs.Host.Abiding
import HomeRules.Proofs.Host.Recording
import HomeRules.Proofs.Host.Turns
import Mathlib.Data.List.Induction

/-!
# The life of native scripts

Over a run of calls that reload and shut down a host, every instance of a native script that was
loaded is unloaded once: by the next call, after everything was stopped and before anything is
loaded, in the order of the loads.
-/

set_option autoImplicit false

namespace HomeRules

/-- The live scripts of a host and whether it is shut down. Nothing but load cycles and shutdowns
changes this. -/
structure Tenure where
  scripts : List LoadedScript
  generation : Generation
  shut : Bool

def Tenure.live (tenure : Tenure) : List Instance :=
  instances tenure.generation tenure.scripts

namespace Host

def tenure (host : Host) : Tenure where
  scripts := host.arena
  generation := host.generation
  shut := host.loops.shutDown

def live (host : Host) : List Instance :=
  host.tenure.live

/-! ## What calls leave alone -/

theorem changeLoops_tenure (change : ReloadLoops → ReloadLoops × Option LoopId) (host : Host) :
    (after (changeLoops change) host).tenure =
      { host.tenure with shut := (change host.loops).1.shutDown } := by
  have woken : Keeps (·.tenure = { host.tenure with shut := (change host.loops).1.shutDown })
      ((change host.loops).2.forM fun id => wake (.reloadLoop id)) :=
    .option_forM (fun _ _ same => same) _
  exact woken { host with loops := (change host.loops).1 } rfl

theorem tenured_abiding (tenure : Tenure) : Abiding (·.tenure = tenure) where
  still _ _ _ _ _ same := same
  cancel _ _ same := same
  spawn _ _ _ _ := .get fun host same => by split <;> exact same
  beside _ _ _ _ same := same
  mark _ _ _ same := same
  request := by
    intro host same
    rw [requestReload, changeLoops_tenure, ReloadLoops.request_shutDown]
    exact same
  turn id := by
    intro host same
    have shut := continueLoop_shutDown id host
    have still : (after (continueLoop id) host).arena = host.arena ∧
        (after (continueLoop id) host).generation = host.generation := by
      rw [after_continueLoop]
      obtain ⟨loops, move⟩ := host.loops.step id !host.reloading.debounce.isZero
      cases move <;> exact ⟨rfl, rfl⟩
    rw [← same, Host.tenure, Host.tenure, still.1, still.2, shut]
  progress _ _ _ same := same
  cancelOwner _ _ same := same
  dropTasks _ same := same
  agenda _ _ same := same
  resume _ _ _ same := same

theorem stop_tenure (budget : Nat) (host : Host) :
    (after (stop budget) host).tenure = host.tenure :=
  (tenured_abiding _).stop budget host rfl

theorem unloadAll_tenure (host : Host) :
    (after unloadAll host).tenure = { host.tenure with scripts := [] } := by
  have unloaded := Keeps.forM (tenured_abiding { host.tenure with scripts := [] }).upholding.unloadScript
    host.arena { host with arena := [] } rfl
  exact unloaded

theorem loadAll_shutDown (generation : Generation) (host : Host) :
    (after (loadAll generation) host).loops.shutDown = host.loops.shutDown := by
  have aside : Bystanding (·.loops.shutDown = host.loops.shutDown) := by
    refine ⟨fun _ _ loops _ _ same => loops ▸ same, fun earlier same => ?_⟩
    rw [requestReload, changeLoops_loops, ReloadLoops.request_shutDown]
    exact same
  exact aside.acts (fun _ => loadAll_acts generation) host rfl

theorem conclude_tenure {failed : List LoadError}
    (lasting : failed.findSome? LoadError.fatal? = none) (budget : Nat) (generation : Generation)
    (timeouts : List StopTimeout) (scripts : List LoadedScript) (host : Host) :
    (after (conclude budget generation timeouts scripts failed) host).tenure =
      { host.tenure with scripts } := by
  have idle := (tenured_abiding host.tenure).runReady budget host rfl
  have installed : ({ after (runReady budget) host with arena := scripts } : Host).tenure =
      { host.tenure with scripts } := congrArg (fun tenure => { tenure with scripts }) idle
  have resumed := (tenured_abiding _).upholding.resumeRegistry generation _ installed
  have finished (report : CycleReport) :
      Keeps (·.tenure = { host.tenure with scripts }) (finishCycle report) :=
    .bind (warnOf_keeps (fun _ => (tenured_abiding _).upholding.attending.note _) report) fun _ =>
      .bind (fun _ same => same) fun _ _ same => same
  rw [conclude, lasting]
  exact finished _ _ resumed

/-! ## Calls -/

theorem recordVacation_records (budget : Nat) (host : Host) :
    Records (recordVacation budget) (vacate budget) host
        (.stopped (host.generation + 1) :: host.live.map .unloading) ∧
      (after (vacate budget) host).tenure =
        { host.tenure with scripts := [], generation := host.generation + 1 } := by
  let begun : Host := after (enterPhase .stopping) (after advanceGeneration host)
  let stopped : Host := after (enterPhase .unloading) (after (stop budget) begun)
  have still : stopped.tenure = { host.tenure with generation := host.generation + 1 } :=
    stop_tenure budget begun
  have unloaded := recordUnloads_records host.generation stopped
  rw [show stopped.arena = host.arena from congrArg Tenure.scripts still] at unloaded
  constructor
  · exact .read (.step (.step (.step (.noted (.step (.followed unloaded (.pure _ _)))))))
  · exact (unloadAll_tenure stopped).trans
      (congrArg (fun tenure => { tenure with scripts := [] }) still)

theorem shutDown_eq (budget : Nat) :
    shutDown budget = (do
      changeLoops ReloadLoops.retire
      let _ ← vacate budget
      enterPhase .idle) := by
  conv_rhs => simp only [vacate, bind_assoc, pure_bind]
  rfl

theorem recordShutDown_records (budget : Nat) (host : Host) :
    Records (recordShutDown budget) (shutDown budget) host
        (.stopped (host.generation + 1) :: host.live.map .unloading) ∧
      (after (shutDown budget) host).tenure =
        { scripts := [], generation := host.generation + 1, shut := true } := by
  have retired := changeLoops_tenure ReloadLoops.retire host
  rw [ReloadLoops.retire_shutDown] at retired
  generalize reached : after (changeLoops ReloadLoops.retire) host = closing at retired
  have aged : closing.generation = host.generation := congrArg Tenure.generation retired
  have lived : closing.live = host.live := by
    rw [live, retired]
    rfl
  obtain ⟨recorded, vacated⟩ := recordVacation_records budget closing
  rw [aged, lived] at recorded
  rw [aged, retired] at vacated
  rw [shutDown_eq]
  constructor
  · refine .step ?_
    rw [reached]
    exact .followed recorded (.lift _ _)
  · rw [after_bind, reached]
    exact vacated

theorem runCycle_vacates (budget : Nat) :
    runCycle budget = (do
      if (← get).loops.shutDown then return .error .shutDown
      else do
        let (generation, timeouts) ← vacate budget
        enterPhase .loading
        install budget generation timeouts) := by
  conv_rhs => simp only [vacate, install, conclude, bind_assoc, pure_bind]
  rfl

theorem conclude_lasting {budget : Nat} {generation : Generation} {timeouts : List StopTimeout}
    {scripts : List LoadedScript} {failed : List LoadError} {host : Host} {report : CycleReport}
    (given : answer (conclude budget generation timeouts scripts failed) host = .ok report) :
    failed.findSome? LoadError.fatal? = none := by
  cases found : failed.findSome? LoadError.fatal? with
  | none => rfl
  | some error =>
      unfold conclude at given
      rw [answer_bind, found] at given
      cases given

/-- No error of a load is fatal, so that a cycle always comes to its end. -/
theorem install_tenure {environment : Environment} {generation : Generation} {host : Host}
    (loading : Loading environment generation [] host)
    (stands : host.wiring.standing = fun _ => none) (budget : Nat)
    (timeouts : List StopTimeout) :
    (after (install budget generation timeouts) host).tenure =
      { host.tenure with scripts := (answer (loadAll generation) host).1 } := by
  obtain ⟨report, given, installed⟩ := install_installs loading stands budget timeouts
  have aged : (after (install budget generation timeouts) host).generation = host.generation :=
    installed.numbered.2.trans loading.current.symm
  have shut := loadAll_shutDown generation host
  rw [install, answer_bind] at given
  rw [install, after_bind] at aged ⊢
  generalize answer (loadAll generation) host = loaded at given aged ⊢
  generalize after (loadAll generation) host = next at given aged shut ⊢
  have concluded := conclude_tenure (conclude_lasting given) budget generation timeouts
    loaded.1 next
  have same : next.generation = host.generation :=
    (congrArg Tenure.generation concluded).symm.trans aged
  refine concluded.trans ?_
  simp only [tenure, same, shut]

theorem recordCycle_records (budget : Nat) {host : Host} (sound : host.wiring.Sound)
    (serving : host.loops.shutDown = false) :
    ∃ scripts attempts, Attempts (host.generation + 1) scripts attempts ∧
      Records (recordCycle budget) (runCycle budget) host
        (.stopped (host.generation + 1) :: (host.live.map .unloading ++
          attempts.flatMap Attempt.milestones)) ∧
      (after (runCycle budget) host).tenure =
        { scripts, generation := host.generation + 1, shut := false } := by
  obtain ⟨recorded, vacated⟩ := recordVacation_records budget host
  rw [runCycle_vacates]
  let ready : Host := after (enterPhase .loading) (after (vacate budget) host)
  have prepared : after (prepare budget) host = ready := rfl
  obtain ⟨loading, stands⟩ := prepare_loading budget sound
  rw [prepared] at loading stands
  obtain ⟨attempts, loads, made⟩ := recordLoads_records (host.generation + 1) ready
  have numbered : (answer (vacate budget) host).1 = host.generation + 1 := rfl
  have entered : ready.tenure =
      { scripts := [], generation := host.generation + 1, shut := false } :=
    vacated.trans (congrArg (Tenure.mk [] (host.generation + 1)) serving)
  have loaded (outcome : Generation × List StopTimeout)
      (numbered : outcome.1 = host.generation + 1) :
      Records (do
          (enterPhase .loading : Step Unit)
          recordInstall budget outcome.1 outcome.2) (do
          enterPhase .loading
          install budget outcome.1 outcome.2)
        (after (vacate budget) host) (attempts.flatMap Attempt.milestones) ∧
      (after (install budget outcome.1 outcome.2) ready).tenure =
        { scripts := (answer (loadAll (host.generation + 1)) ready).1
          generation := host.generation + 1, shut := false } := by
    obtain ⟨generation, timeouts⟩ := outcome
    cases numbered
    have installed := install_tenure loading stands budget timeouts
    rw [entered] at installed
    exact ⟨.step (.followed loads (.lift _ _)), installed⟩
  obtain ⟨installs, installed⟩ := loaded _ numbered
  refine ⟨_, attempts, made, .get ?_, ?_⟩
  · rw [if_neg (by simp [serving]), if_neg (by simp [serving])]
    exact .bind recorded installs
  · rw [after_get_bind, if_neg (by simp [serving]), after_bind]
    generalize answer (vacate budget) host = outcome at installed ⊢
    obtain ⟨generation, timeouts⟩ := outcome
    dsimp only at installed ⊢
    rw [after_bind]
    exact installed

/-- A reload adds to the record what its cycle does. -/
private theorem recordReload_of_cycle {budget : Nat} {host : Host} {added : List Milestone}
    (cycled : Records (recordCycle budget) (runCycle budget)
      (after (changeLoops ReloadLoops.occupy) host) added) :
    Records (recordReload budget) (reload budget) host added :=
  .step (.followed cycled (.step (.pure _ _)))

private theorem reload_tenure (budget : Nat) (host : Host) :
    (after (reload budget) host).tenure =
      (after (runCycle budget) (after (changeLoops ReloadLoops.occupy) host)).tenure := by
  rw [after_reload, changeLoops_tenure, ReloadLoops.release_shutDown]
  rfl

theorem recordReload_refused (budget : Nat) {host : Host} (shut : host.loops.shutDown = true) :
    Records (recordReload budget) (reload budget) host [] ∧
      (after (reload budget) host).tenure = host.tenure := by
  have same := changeLoops_tenure ReloadLoops.occupy host
  have closed : (after (changeLoops ReloadLoops.occupy) host).loops.shutDown = true :=
    (congrArg Tenure.shut same).trans shut
  rw [reload_tenure, runCycle_vacates, after_get_bind, if_pos closed]
  refine ⟨recordReload_of_cycle ?_, same⟩
  rw [runCycle_vacates]
  refine .get ?_
  rw [if_pos closed, if_pos closed]
  exact .pure _ _

theorem recordReload_records (budget : Nat) {host : Host} (sound : host.wiring.Sound)
    (serving : host.loops.shutDown = false) :
    ∃ scripts attempts, Attempts (host.generation + 1) scripts attempts ∧
      Records (recordReload budget) (reload budget) host
        (.stopped (host.generation + 1) :: (host.live.map .unloading ++
          attempts.flatMap Attempt.milestones)) ∧
      (after (reload budget) host).tenure =
        { scripts, generation := host.generation + 1, shut := false } := by
  have same := changeLoops_tenure ReloadLoops.occupy host
  have wired := wiring_of_parts (changeLoops_parts ReloadLoops.occupy host)
  have recordable := @recordReload_of_cycle budget host
  rw [reload_tenure]
  generalize after (changeLoops ReloadLoops.occupy) host = occupied at same wired recordable
  have aged : occupied.generation = host.generation := congrArg Tenure.generation same
  have lived : occupied.live = host.live := congrArg Tenure.live same
  rw [← wired] at sound
  obtain ⟨scripts, attempts, made, recorded, cycled⟩ :=
    recordCycle_records budget sound ((congrArg Tenure.shut same).trans serving)
  rw [aged] at made recorded cycled
  rw [lived] at recorded
  exact ⟨scripts, attempts, made, recordable recorded, cycled⟩

end Host

/-! ## Runs of calls -/

/-- A call that reloads a host or shuts it down. -/
inductive Call where
  | reload (budget : Nat)
  | shutDown (budget : Nat)

def Call.operation : Call → Operation
  | .reload budget => .reload budget
  | .shutDown budget => .shutDown budget

/-- A call, with what is done to the host before it. -/
structure Visit where
  meanwhile : List Operation
  aside : ∀ operation ∈ meanwhile, operation.aside
  call : Call

def Visit.operations (visit : Visit) : List Operation :=
  visit.meanwhile ++ [visit.call.operation]

namespace Host

def recordCall : Call → Recorder Unit
  | .reload budget => (fun _ => ()) <$> recordReload budget
  | .shutDown budget => recordShutDown budget

def recordVisit (visit : Visit) : Recorder Unit := do
  (run visit.meanwhile : Step Unit)
  recordCall visit.call

/-- The host after visits. -/
def visited (visits : List Visit) (start : Host) : Host :=
  after (run (visits.flatMap Visit.operations)) start

/-- The record of visits, and the host on which it was kept. -/
def chronicle (visits : List Visit) (start : Host) : List Milestone × Host :=
  let ((_, milestones), host) := ((visits.forM recordVisit).run []).run start
  (milestones, host)

/-- What a call adds to the record when it takes a host from one tenure to the next. -/
inductive Called (former next : Tenure) : Call → List Milestone → Prop
  /-- After a shutdown nothing is loaded any more. -/
  | refused (budget : Nat) (shut : former.shut = true) (none : former.live = [])
      (same : next = former) : Called former next (.reload budget) []
  | renewed (budget : Nat) (serving : former.shut = false ∧ next.shut = false)
      (attempts : List Attempt)
      (numbered : next.generation = former.generation + 1 ∧
        ∀ attempt ∈ attempts, attempt.made.generation = next.generation)
      (left : next.live = (attempts.filter (·.succeeded)).map (·.made)) :
      Called former next (.reload budget) (.stopped next.generation ::
        (former.live.map .unloading ++ attempts.flatMap Attempt.milestones))
  | retired (budget : Nat) (shut : next.shut = true)
      (numbered : next.generation = former.generation + 1) (left : next.live = []) :
      Called former next (.shutDown budget)
        (.stopped next.generation :: former.live.map .unloading)

private theorem recordCall_records (call : Call) {host : Host} (sound : host.wiring.Sound)
    (emptied : host.loops.shutDown = true → host.live = []) :
    ∃ added, Records (recordCall call) (operate call.operation) host added ∧
      Called host.tenure (after (operate call.operation) host).tenure call added := by
  cases call with
  | reload budget =>
      have forgotten {added : List Milestone}
          (recorded : Records (recordReload budget) (reload budget) host added) :
          Records (recordCall (.reload budget)) (operate (.reload budget)) host added := by
        simp only [recordCall, operate, map_eq_pure_bind]
        exact .followed recorded (.pure _ _)
      change ∃ added, _ ∧ Called _ (after (reload budget) host).tenure _ _
      cases shut : host.loops.shutDown with
      | true =>
          obtain ⟨recorded, same⟩ := recordReload_refused budget shut
          exact ⟨[], forgotten recorded, .refused budget shut (emptied shut) same⟩
      | false =>
          obtain ⟨scripts, attempts, made, recorded, left⟩ :=
            recordReload_records budget sound shut
          rw [left]
          exact ⟨_, forgotten recorded, .renewed budget ⟨shut, rfl⟩ attempts
            ⟨rfl, made.numbered⟩ made.live.symm⟩
  | shutDown budget =>
      obtain ⟨recorded, left⟩ := recordShutDown_records budget host
      change ∃ added, _ ∧ Called _ (after (shutDown budget) host).tenure _ _
      rw [left]
      exact ⟨_, recorded, .retired budget rfl rfl rfl⟩

theorem run_append (first second : List Operation) (host : Host) :
    after (run (first ++ second)) host = after (run second) (after (run first) host) := by
  induction first generalizing host with
  | nil => rfl
  | cons operation rest previous => exact previous _

theorem recordVisit_records (visit : Visit) {host : Host} (sound : host.wiring.Sound)
    (emptied : host.loops.shutDown = true → host.live = []) :
    ∃ added, Records (recordVisit visit) (run visit.operations) host added ∧
      Called host.tenure (after (run visit.operations) host).tenure visit.call added := by
  let ready : Host := after (run visit.meanwhile) host
  have still : ready.tenure = host.tenure :=
    Keeps.forM_of_mem (fun operation member => (tenured_abiding host.tenure).operate
      (visit.aside operation member) fun _ _ same => same) host rfl
  have wired : ready.wiring.Sound :=
    run_keeps (·.wiring.Sound) (fun _ _ path => path.sound) (fun _ _ sound => sound)
      visit.meanwhile host sound
  have idle : ready.loops.shutDown = true → ready.live = [] := by
    intro shut
    rw [live, still]
    exact emptied ((congrArg Tenure.shut still).symm.trans shut)
  obtain ⟨added, recorded, called⟩ := recordCall_records visit.call wired idle
  rw [still] at called
  have reached : after (run visit.operations) host =
      after (operate visit.call.operation) ready := run_append _ _ _
  refine ⟨added, ?_, reached ▸ called⟩
  have both : Records (recordVisit visit) (do
      run visit.meanwhile
      operate visit.call.operation) host added := .step recorded
  exact both.of_eq rfl reached

/-! ## The record of a run -/

theorem visited_append (earlier : List Visit) (visit : Visit) (start : Host) :
    visited (earlier ++ [visit]) start = after (run visit.operations) (visited earlier start) := by
  rw [visited, List.flatMap_append, List.flatMap_singleton]
  exact run_append _ _ _

private theorem recordVisits_append {earlier : List Visit} {visit : Visit} {start : Host}
    {told added : List Milestone}
    (first : Records (earlier.forM recordVisit) (run (earlier.flatMap Visit.operations)) start told)
    (last : Records (recordVisit visit) (run visit.operations) (visited earlier start) added) :
    Records ((earlier ++ [visit]).forM recordVisit)
      (run ((earlier ++ [visit]).flatMap Visit.operations)) start (told ++ added) := by
  have split : (earlier ++ [visit]).forM recordVisit =
      (earlier.forM recordVisit >>= fun _ => recordVisit visit) := by
    have appended : (earlier ++ [visit]).forM recordVisit =
        (earlier.forM recordVisit >>= fun _ => [visit].forM recordVisit) := List.forM_append
    rw [appended]
    simp
  have both : Records (earlier.forM recordVisit >>= fun _ => recordVisit visit) (do
      run (earlier.flatMap Visit.operations)
      run visit.operations) start (told ++ added) := .bind first last
  rw [split]
  exact both.of_eq rfl (visited_append earlier visit start)

private theorem loaded_attempts (attempts : List Attempt) :
    (attempts.flatMap Attempt.milestones).filterMap Milestone.loaded? =
      (attempts.filter (·.succeeded)).map (·.made) := by
  induction attempts with
  | nil => rfl
  | cons attempt rest previous =>
      obtain ⟨made, succeeded⟩ := attempt
      cases succeeded with
      | false => exact previous
      | true => exact congrArg (made :: ·) previous

private theorem unloading_attempts (attempts : List Attempt) :
    (attempts.flatMap Attempt.milestones).filterMap Milestone.unloading? = [] := by
  induction attempts with
  | nil => rfl
  | cons attempt rest previous =>
      obtain ⟨made, succeeded⟩ := attempt
      cases succeeded <;> exact previous

private theorem loaded_unloads (made : List Instance) :
    (made.map Milestone.unloading).filterMap Milestone.loaded? = [] := by
  rw [List.filterMap_map]
  exact List.filterMap_eq_nil_iff.mpr fun _ _ => rfl

private theorem unloading_unloads (made : List Instance) :
    (made.map Milestone.unloading).filterMap Milestone.unloading? = made := by
  rw [List.filterMap_map]
  exact List.filterMap_some

/-- What was live is unloaded, and what is live then was loaded. -/
private theorem Called.turnover {former next : Tenure} {call : Call} {added : List Milestone}
    (called : Called former next call added) :
    former.live ++ added.filterMap Milestone.loaded? =
      added.filterMap Milestone.unloading? ++ next.live := by
  cases called with
  | refused budget shut none same =>
      rw [same, none]
      rfl
  | renewed budget serving attempts numbered left =>
      change _ ++ (former.live.map Milestone.unloading ++ _).filterMap _ =
        (former.live.map Milestone.unloading ++ _).filterMap _ ++ _
      rw [List.filterMap_append, List.filterMap_append, loaded_unloads, unloading_unloads,
        loaded_attempts, unloading_attempts, left, List.append_nil, List.nil_append]
  | retired budget shut numbered left =>
      change _ ++ (former.live.map Milestone.unloading).filterMap _ =
        (former.live.map Milestone.unloading).filterMap _ ++ _
      rw [loaded_unloads, unloading_unloads, left]

private theorem Called.shut {former next : Tenure} {call : Call} {added : List Milestone}
    (called : Called former next call added)
    (closing : former.shut = true ∨ ∃ budget, call = .shutDown budget) : next.shut = true := by
  cases called with
  | refused budget shut none same => exact same ▸ shut
  | renewed budget serving attempts numbered left =>
      rcases closing with shut | ⟨_, same⟩
      · rw [serving.1] at shut
        cases shut
      · cases same
  | retired budget shut numbered left => exact shut

private theorem Called.emptied {former next : Tenure} {call : Call} {added : List Milestone}
    (called : Called former next call added) (closed : next.shut = true) : next.live = [] := by
  cases called with
  | refused budget shut none same => rw [same, none]
  | renewed budget serving attempts numbered left =>
      rw [serving.2] at closed
      cases closed
  | retired budget shut numbered left => exact left

/-- How a record of visits stands: it is faithful, and an instance that loaded was unloaded once
or is live. -/
private structure Told (visits : List Visit) (start : Host) (told : List Milestone) : Prop where
  records : Records (visits.forM recordVisit) (run (visits.flatMap Visit.operations)) start told
  once : told.filterMap Milestone.loaded? =
    told.filterMap Milestone.unloading? ++ (visited visits start).live
  emptied : (visited visits start).loops.shutDown = true → (visited visits start).live = []
  shut : (∃ visit ∈ visits, ∃ budget, visit.call = .shutDown budget) →
    (visited visits start).loops.shutDown = true

private theorem Told.visit {earlier : List Visit} {start : Host} {told : List Milestone}
    (before : Told earlier start told) (sound : start.wiring.Sound) (visit : Visit) :
    ∃ added, Told (earlier ++ [visit]) start (told ++ added) ∧
      Called (visited earlier start).tenure (visited (earlier ++ [visit]) start).tenure visit.call
        added := by
  have wired : (visited earlier start).wiring.Sound :=
    run_keeps (·.wiring.Sound) (fun _ _ path => path.sound) (fun _ _ sound => sound) _ start sound
  obtain ⟨added, recorded, called⟩ := recordVisit_records visit wired before.emptied
  rw [← visited_append] at called
  refine ⟨added, ⟨recordVisits_append before.records recorded, ?_, called.emptied, ?_⟩, called⟩
  · rw [List.filterMap_append, List.filterMap_append, before.once, List.append_assoc,
      List.append_assoc]
    exact congrArg _ called.turnover
  · rintro ⟨last, member, budget, closing⟩
    refine called.shut ?_
    rcases List.mem_append.mp member with early | late
    · exact .inl (before.shut ⟨last, early, budget, closing⟩)
    · rw [List.mem_singleton.mp late] at closing
      exact .inr ⟨budget, closing⟩

private theorem told (visits : List Visit) {start : Host} (sound : start.wiring.Sound)
    (none : start.live = []) : ∃ milestones, Told visits start milestones := by
  -- A record grows at its end, so the last visit is split off and not the first one.
  induction visits using List.reverseRecOn with
  | nil =>
      refine ⟨[], .pure _ _, none.symm, fun _ => none, ?_⟩
      rintro ⟨_, member, _⟩
      cases member
  | append_singleton earlier visit previous =>
      obtain ⟨milestones, before⟩ := previous
      obtain ⟨added, after, _⟩ := before.visit sound visit
      exact ⟨_, after⟩

/-- What becomes of native scripts over a run of calls. -/
structure Lifecycle (visits : List Visit) (start : Host) : Prop where
  /-- Keeping the record changes nothing. -/
  faithful : (chronicle visits start).2 = visited visits start
  /-- Every call stops the host, then unloads what is live in the order it was loaded, and then
  loads. -/
  calls : ∀ earlier visit later, visits = earlier ++ visit :: later →
    ∃ added, (chronicle (earlier ++ [visit]) start).1 = (chronicle earlier start).1 ++ added ∧
      Called (visited earlier start).tenure (visited (earlier ++ [visit]) start).tenure visit.call
        added
  /-- The instances that were loaded are those that were unloaded, in the same order, and those
  that are live. -/
  once : (chronicle visits start).1.filterMap Milestone.loaded? =
    (chronicle visits start).1.filterMap Milestone.unloading? ++ (visited visits start).live
  /-- After a shutdown nothing is live. -/
  ended : (∃ visit ∈ visits, ∃ budget, visit.call = .shutDown budget) →
    (visited visits start).live = []

/-- Two scripts, of which one panics when it is unloaded and the other one when it is loaded. -/
example :
    let sturdy : NativeScript :=
      { name := "sturdy", onLoad := fun _ => [], onUnload := [.panic none] }
    let broken : NativeScript := { name := "broken", onLoad := fun _ => [.fail (.panic none)] }
    let tree := (FileTree.put {} "data/scripts/a.toml"
      ⟨.file "script = \"broken\"\n".toUTF8, 0⟩).put "data/scripts/b.toml"
        ⟨.file "script = \"sturdy\"\n".toUTF8, 0⟩
    let start := create {} "data" tree {} [("broken", broken), ("sturdy", sturdy)]
    let visit (call : Call) : Visit := ⟨[], List.forall_mem_nil _, call⟩
    let told := (chronicle [visit (.reload 1), visit (.reload 1), visit (.shutDown 1),
      visit (.reload 1)] start).1
    told.filterMap (·.loaded?.map fun made => (made.generation, made.script)) =
        [(1, "b"), (2, "b")] ∧
      told.filterMap (·.unloading?.map fun made => (made.generation, made.script)) =
        [(1, "b"), (2, "b")] := by
  decide +kernel

end Host

end HomeRules
