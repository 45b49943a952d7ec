import HomeRules.Proofs.Host.Interleaving

/-!
# Calls that are served at once

A call that finds the lock free and goes through its cycle with nothing but the ready workers
beside it is one of the ways in which cycles take turns, and so is a loop that starts, or that is
given control and begins no cycle. The host that is left when such things are done one after the
other is that of a scene that can be reached.
-/

set_option autoImplicit false

namespace HomeRules

open Host ReloadLoops

namespace Host

theorem continueLoop_of_asleep {id : LoopId} {host : Host}
    (asleep : host.loops.points[id]?.any LoopPoint.isAwake = false) :
    after (continueLoop id) host = host := by
  rw [after_continueLoop, step_of_asleep asleep]

/-- Taking a worker changes only the agenda. -/
theorem after_takeBesideCycle (host : Host) :
    ∃ agenda, after takeBesideCycle host = { host with agenda } :=
  ⟨_, rfl⟩

/-- One round of the workers that are ready. -/
theorem after_runReady_succ (budget : Nat) (host : Host) :
    after (runReady (budget + 1)) host =
      match answer takeBesideCycle host with
      | some (.task id) => after (runReady budget) (after (runTask id) (after takeBesideCycle host))
      | some (.reloadLoop id) =>
        after (runReady budget) (after (continueLoop id) (after takeBesideCycle host))
      | _ => after takeBesideCycle host := by
  rw [runReady, after_bind]
  cases answer takeBesideCycle host with
  | none => rfl
  | some worker => cases worker <;> rfl

theorem after_drive_succ (budget rest : Nat) (juncture : Juncture) (host : Host) :
    after (drive budget (rest + 1) juncture) host =
      match answer (proceed juncture) (after (pause budget juncture) host) with
      | .inl next => after (drive budget rest next)
        (after (proceed juncture) (after (pause budget juncture) host))
      | .inr _ => after (proceed juncture) (after (pause budget juncture) host) := by
  rw [drive, after_bind, after_bind]
  cases answer (proceed juncture) (after (pause budget juncture) host) <;> rfl

theorem answer_drive_succ (budget rest : Nat) (juncture : Juncture) (host : Host) :
    answer (drive budget (rest + 1) juncture) host =
      match answer (proceed juncture) (after (pause budget juncture) host) with
      | .inl next => answer (drive budget rest next)
        (after (proceed juncture) (after (pause budget juncture) host))
      | .inr conclusion => some conclusion := by
  rw [drive, answer_bind, answer_bind]
  cases answer (proceed juncture) (after (pause budget juncture) host) <;> rfl

/-- What a call does that finds the lock free. -/
def callAtOnce (budget : Nat) (purpose : Purpose) : Step (Option Conclusion) := do
  beginCall purpose
  changeLoops ReloadLoops.occupy
  let conclusion? ← drive budget 6 (.entered purpose)
  changeLoops ReloadLoops.release
  return conclusion?

theorem callAtOnce_reload (budget : Nat) :
    callAtOnce budget .reload = (do
      let result ← reload budget
      return some (.reloaded result)) := by
  simp only [callAtOnce, beginCall, drive_reload, reload, bind_assoc, pure_bind]

/-- A call ends after all of its junctures at the latest. -/
theorem drive_ends (budget : Nat) (purpose : Purpose) (host : Host) :
    ∃ conclusion, answer (drive budget 6 (.entered purpose)) host = some conclusion := by
  cases purpose with
  | reload => exact ⟨.reloaded (answer (runCycle budget) host), by rw [drive_reload]; rfl⟩
  | shutDown => exact ⟨.shutDown, by rw [drive_shutDown]; rfl⟩

/-- What can be done at once where nobody has the lock. -/
inductive Prompt where
  | call (budget : Nat) (purpose : Purpose)
  | start
  | turn

def heed : Prompt → Step (Option Conclusion)
  | .call budget purpose => callAtOnce budget purpose
  | .start => do
    let _ ← startLoop
    return none
  | .turn => do
    let _ ← continueLoop 0
    return none

/-- Whether the lock is free for a call, whether there is no loop yet, and whether the loop goes
on without a cycle. -/
def fits (host : Host) : Prompt → Bool
  | .call _ _ => host.loops.occupied = false
  | .start => host.loops.points.isEmpty
  | .turn => host.loops.isAwake && !answer (continueLoop 0) host

/-- Does one thing after the other, and gives how the calls ended. -/
def heedAll : List Prompt → Step (List Conclusion)
  | [] => pure []
  | prompt :: rest => do
    let conclusion? ← heed prompt
    let conclusions ← heedAll rest
    return conclusion?.toList ++ conclusions

def fit (host : Host) : List Prompt → Bool
  | [] => true
  | prompt :: rest => host.fits prompt && (after (heed prompt) host).fit rest

end Host

namespace Scene

/-! ## Beside the cycle of a call -/

/-- Given control beside the cycle of a call, the loop does not begin a cycle. -/
theorem continueLoop_path {scene : Scene} (sound : scene.Sound)
    (calling : scene.party = some .call) (id : LoopId) :
    ∃ turns, Path scene { scene with host := after (continueLoop id) scene.host, turns } := by
  cases awake : scene.host.loops.points[id]?.any LoopPoint.isAwake with
  | false =>
      rw [continueLoop_of_asleep awake]
      exact ⟨scene.turns, .refl⟩
  | true =>
      have only : id = 0 := by
        by_contra other
        rw [sound.stationed.alone other] at awake
        cases awake
      cases only
      have apart : scene.party ≠ some .loop := by simp [calling]
      have passes : answer (continueLoop 0) scene.host = false := by
        rw [answer_continueLoop]
        refine decide_eq_false fun enters => ?_
        have unheld := (sound.stationed.enter enters).1
        rw [calling] at unheld
        cases unheld
      exact ⟨scene.turns + 1, .single (.turn apart awake passes)⟩

/-- The workers that are ready go on beside the cycle of a call. -/
theorem runReady_path (budget : Nat) {scene : Scene} (sound : scene.Sound)
    (calling : scene.party = some .call) :
    ∃ turns, Path scene { scene with host := after (runReady budget) scene.host, turns } := by
  induction budget generalizing scene with
  | zero => exact ⟨scene.turns, .refl⟩
  | succ budget previous =>
      obtain ⟨agenda, taken⟩ := after_takeBesideCycle scene.host
      let taking : Scene := { scene with host := after takeBesideCycle scene.host }
      have took : Step scene taking := by
        unfold taking
        rw [taken]
        exact .stir (.surroundings ..)
      have ready : taking.Sound := took.sound sound
      rw [after_runReady_succ]
      split
      · rename_i id _
        have worked : Step taking { taking with host := after (runTask id) taking.host } :=
          .stir (.task id)
        obtain ⟨turns, path⟩ := previous (worked.sound ready) calling
        exact ⟨turns, .head took (.head worked path)⟩
      · rename_i id _
        obtain ⟨turned, continued⟩ := continueLoop_path ready calling id
        obtain ⟨turns, path⟩ := previous (Path.sound continued ready) calling
        exact ⟨turns, .head took (Relation.ReflTransGen.trans continued path)⟩
      · exact ⟨scene.turns, .single took⟩

theorem pause_path (budget : Nat) (juncture : Juncture) {scene : Scene} (sound : scene.Sound)
    (calling : scene.party = some .call) :
    ∃ turns, Path scene { scene with host := after (pause budget juncture) scene.host, turns } := by
  cases juncture with
  | cancelling | concluding => exact runReady_path budget sound calling
  | entered | stopping | unloading | loading => exact ⟨scene.turns, .refl⟩

/-- A call that has the lock goes through its junctures, and gives it back. -/
theorem drive_path (budget rest : Nat) {scene : Scene} {juncture : Juncture}
    (sound : scene.Sound) (held : scene.holder = some ⟨.call, juncture⟩) {conclusion : Conclusion}
    (ends : answer (drive budget rest juncture) scene.host = some conclusion) :
    ∃ turns, Path scene
      { scene with
        host := after (changeLoops release) (after (drive budget rest juncture) scene.host)
        holder := none
        conclusions := scene.conclusions ++ [conclusion]
        turns } := by
  induction rest generalizing scene juncture with
  | zero => cases ends
  | succ rest previous =>
      have calling : scene.party = some .call := by rw [party, held, Option.map_some]
      obtain ⟨paused, path⟩ := pause_path budget juncture sound calling
      let waited : Scene :=
        { scene with host := after (pause budget juncture) scene.host, turns := paused }
      have ready : waited.Sound := Path.sound path sound
      have kept : waited.holder = some ⟨.call, juncture⟩ := held
      rw [answer_drive_succ] at ends
      rw [after_drive_succ]
      cases answered : answer (proceed juncture) (after (pause budget juncture) scene.host) with
      | inl next =>
          simp only [answered] at ends ⊢
          have onward : Step waited _ := .goOn kept answered
          obtain ⟨turns, rested⟩ := previous (onward.sound ready) rfl ends
          exact ⟨turns, path.trans (.head onward rested)⟩
      | inr last =>
          simp only [answered] at ends ⊢
          cases ends
          have finished : Step waited _ := .finish kept answered
          exact ⟨paused, path.trans (.single finished)⟩

/-! ## Whole calls -/

section Still

variable {host : Host} {conclusions : List Conclusion} {turns : Nat}
variable (sound : Sound { host, conclusions, turns })
include sound

/-- A call that finds the lock free, and nobody who waits for it, goes through its cycle and
returns. -/
theorem call_path (budget : Nat) (purpose : Purpose) (free : host.loops.occupied = false) :
    ∃ conclusion turned, answer (callAtOnce budget purpose) host = some conclusion ∧
      Path { host, conclusions, turns }
        { host := after (callAtOnce budget purpose) host
          conclusions := conclusions ++ [conclusion]
          turns := turned } := by
  let begun : Scene :=
    { host := after (beginCall purpose) host, waiting := [purpose], conclusions, turns }
  let granted : Scene :=
    { begun with
      host := after (changeLoops occupy) begun.host
      holder := some ⟨.call, .entered purpose⟩
      waiting := [purpose].erase purpose }
  have begins : Step { host, conclusions, turns } begun := .call purpose
  have unoccupied : begun.host.loops.occupied = false := by
    cases purpose with
    | reload => exact free
    | shutDown =>
        change (after (changeLoops retire) host).loops.occupied = false
        rw [changeLoops_loops, retire_occupied, free]
  have grants : Step begun granted := .grant (List.mem_singleton.mpr rfl) unoccupied
  have left : granted.waiting = [] := List.erase_cons_head _ _
  obtain ⟨conclusion, ends⟩ := drive_ends budget purpose granted.host
  obtain ⟨turned, path⟩ := drive_path budget 6 (grants.sound (begins.sound sound)) rfl ends
  rw [left] at path
  exact ⟨conclusion, turned, ends, .head begins (.head grants path)⟩

/-! ## One after the other -/

/-- What is done at once leads from one scene to another. -/
theorem heed_path {prompt : Prompt} (fits : host.fits prompt = true) :
    ∃ turned, Path { host, conclusions, turns }
      { host := after (heed prompt) host
        conclusions := conclusions ++ (answer (heed prompt) host).toList
        turns := turned } := by
  cases prompt with
  | call budget purpose =>
      obtain ⟨conclusion, turned, ends, path⟩ :=
        call_path sound budget purpose (of_decide_eq_true fits)
      have ended : answer (heed (.call budget purpose)) host = some conclusion := ends
      rw [ended]
      exact ⟨turned, path⟩
  | start =>
      have silent : (answer (heed .start) host).toList = [] := rfl
      rw [silent, List.append_nil]
      exact ⟨turns, .single (.start (List.isEmpty_iff.mp fits))⟩
  | turn =>
      have silent : (answer (heed .turn) host).toList = [] := rfl
      obtain ⟨awake, passes⟩ := Bool.and_eq_true_iff.mp fits
      rw [silent, List.append_nil]
      exact ⟨turns + 1, .single (.turn nofun awake (Bool.not_eq_eq_eq_not.mp passes))⟩

theorem heedAll_path {prompts : List Prompt} (fit : host.fit prompts = true) :
    ∃ turned, Path { host, conclusions, turns }
      { host := after (heedAll prompts) host
        conclusions := conclusions ++ answer (heedAll prompts) host
        turns := turned } := by
  induction prompts generalizing host conclusions turns with
  | nil =>
      have silent : answer (heedAll []) host = [] := rfl
      rw [silent, List.append_nil]
      exact ⟨turns, .refl⟩
  | cons prompt rest previous =>
      obtain ⟨fits, fit⟩ := Bool.and_eq_true_iff.mp fit
      obtain ⟨middle, first⟩ := heed_path sound fits
      obtain ⟨turned, path⟩ := previous (Path.sound first sound) fit
      rw [List.append_assoc] at path
      exact ⟨turned, first.trans path⟩

end Still

end Scene

end HomeRules
