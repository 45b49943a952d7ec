import HomeRules.Proofs.Host.Gates

/-!
# Admission

A gate under all that may be done to it, by any number of parties and in any order: opening it,
entering and leaving, closing it, and giving up or ending the wait for those inside. It counts
those inside exactly, its phase only goes forward, and once a wait has ended with nobody inside,
nobody is ever inside again.
-/

set_option autoImplicit false

namespace HomeRules

/-- A step forward in the life of a gate. A gate may be closed before it was ever opened. -/
inductive GatePhase.Advances : GatePhase → GatePhase → Prop where
  | opens : Advances .pending .opened
  | closes : Advances .opened .closed
  | skips : Advances .pending .closed

/-- A gate with the dispatches inside, told apart by numbers in the order they were admitted, and
with the number of those that have closed it and still wait. -/
structure Doorway where
  gate : Gate := {}
  inside : List Nat := []
  admitted : Nat := 0
  waiting : Nat := 0

namespace Doorway

/-- What was done at a gate, and what came of it. -/
inductive Incident where
  /-- The gate was opened if it still could be, and was told to admit from now on, or not. -/
  | opened (admits : Bool)
  | entered (number : Nat)
  | refused
  | left (number : Nat)
  /-- The gate was closed, and the wait for those inside began. -/
  | closed
  /-- The gate was closed and nobody is waited for any more, with so many still inside. -/
  | drained (remaining : Nat)

inductive Step (door : Doorway) : Incident → Doorway → Prop where
  | opening : Step door (.opened door.gate.opening.isOpen) { door with gate := door.gate.opening }
  | enter {gate : Gate} (admits : door.gate.enter? = some gate) :
      Step door (.entered door.admitted) { door with
        gate
        inside := door.inside ++ [door.admitted]
        admitted := door.admitted + 1 }
  | refuse (shut : door.gate.enter? = none) : Step door .refused door
  | leave {number : Nat} (present : number ∈ door.inside) :
      Step door (.left number) { door with
        gate := door.gate.leave
        inside := door.inside.erase number }
  | closing (occupied : door.gate.inFlight ≠ 0) :
      Step door .closed { door with gate := door.gate.closing, waiting := door.waiting + 1 }
  | closingEmpty (empty : door.gate.inFlight = 0) :
      Step door (.drained 0) { door with gate := door.gate.closing }
  /-- A wait ends when nobody is inside any more or when its time is up, which may be whenever. -/
  | finish {others : Nat} (waits : door.waiting = others + 1) :
      Step door (.drained door.gate.inFlight) { door with waiting := others }

/-- All that was done at a new gate, the latest first. -/
inductive Run : List Incident → Doorway → Prop where
  | new : Run [] {}
  | step {history : List Incident} {door next : Doorway} {incident : Incident}
      (before : Run history door) (last : Step door incident next) : Run (incident :: history) next

variable {history : List Incident} {door next : Doorway} {incident : Incident}

/-! ## Phases -/

theorem opening_isOpen (gate : Gate) : gate.opening.isOpen = true ↔ gate.phase ≠ .closed := by
  cases phase : gate.phase <;> simp [Gate.opening, Gate.isOpen, phase]

theorem enter?_isSome (gate : Gate) : gate.enter?.isSome = true ↔ gate.phase = .opened := by
  cases phase : gate.phase <;> simp [Gate.enter?, phase]

theorem Step.phase (step : Step door incident next) :
    next.gate.phase = door.gate.phase ∨ door.gate.phase.Advances next.gate.phase := by
  have closing : door.gate.closing.phase = door.gate.phase ∨
      door.gate.phase.Advances door.gate.closing.phase := by
    change GatePhase.closed = door.gate.phase ∨ door.gate.phase.Advances .closed
    cases door.gate.phase with
    | pending => exact .inr .skips
    | opened => exact .inr .closes
    | closed => exact .inl rfl
  cases step with
  | opening =>
      unfold Gate.opening
      split
      case h_1 pending => exact .inr (pending ▸ .opens)
      case h_2 => exact .inl rfl
  | enter admits =>
      obtain ⟨-, rfl⟩ := Gate.enter?_eq_some admits
      exact .inl rfl
  | refuse => exact .inl rfl
  | leave => exact .inl rfl
  | closing => exact closing
  | closingEmpty => exact closing
  | finish => exact .inl rfl

theorem Step.closed (step : Step door incident next) (closed : door.gate.isClosed) :
    next.gate.isClosed := by
  cases step with
  | opening => exact (Gate.isClosed_opening door.gate).trans closed
  | enter admits =>
      rw [Gate.enter?_of_isClosed closed] at admits
      cases admits
  | refuse => exact closed
  | leave => exact closed
  | closing => rfl
  | closingEmpty => rfl
  | finish => exact closed

/-! ## Who is inside -/

/-- What holds at a gate after all that was done. -/
structure Sound (history : List Incident) (door : Doorway) : Prop where
  counted : door.gate.inFlight = door.inside.length
  numbered : ∀ number ∈ door.inside, number < door.admitted
  distinct : door.inside.Nodup
  awaited : door.waiting ≠ 0 → door.gate.isClosed
  shut : ∀ remaining, .drained remaining ∈ history → door.gate.isClosed
  empty : .drained 0 ∈ history → door.inside = []

theorem Sound.new : Sound [] {} where
  counted := rfl
  numbered _ member := absurd member List.not_mem_nil
  distinct := .nil
  awaited waits := absurd rfl waits
  shut _ member := absurd member List.not_mem_nil
  empty _ := rfl

section Sound

variable (sound : Sound history door)
include sound

theorem Sound.enter {gate : Gate} (admits : door.gate.enter? = some gate) :
    Sound (.entered door.admitted :: history) { door with
      gate
      inside := door.inside ++ [door.admitted]
      admitted := door.admitted + 1 } := by
  obtain ⟨opened, rfl⟩ := Gate.enter?_eq_some admits
  have unclosed : ¬door.gate.isClosed := by simp [Gate.isClosed, opened]
  constructor
  case counted => simp [sound.counted]
  case numbered =>
    intro number member
    rcases List.mem_append.mp member with old | new
    · exact Nat.lt_succ_of_lt (sound.numbered number old)
    · rw [List.mem_singleton.mp new]
      exact Nat.lt_succ_self _
  case distinct =>
    have fresh : door.admitted ∉ door.inside :=
      fun old => Nat.lt_irrefl _ (sound.numbered _ old)
    exact List.perm_append_comm.nodup_iff.mp (List.nodup_cons.mpr ⟨fresh, sound.distinct⟩)
  case awaited => exact fun waits => absurd (sound.awaited waits) unclosed
  case shut =>
    intro remaining drained
    have earlier : .drained remaining ∈ history := by simpa using drained
    exact absurd (sound.shut remaining earlier) unclosed
  case empty =>
    intro drained
    have earlier : .drained 0 ∈ history := by simpa using drained
    exact absurd (sound.shut 0 earlier) unclosed

theorem Sound.inFlight_pos {number : Nat} (present : number ∈ door.inside) :
    0 < door.gate.inFlight := by
  rw [sound.counted]
  exact List.length_pos_of_mem present

theorem Sound.leave {number : Nat} (present : number ∈ door.inside) :
    Sound (.left number :: history) { door with
      gate := door.gate.leave
      inside := door.inside.erase number } := by
  have fewer : ∀ other ∈ door.inside.erase number, other ∈ door.inside :=
    fun other member => List.mem_of_mem_erase member
  constructor
  case counted => simp [Gate.leave, List.length_erase_of_mem present, sound.counted]
  case numbered => exact fun other member => sound.numbered other (fewer other member)
  case distinct => exact sound.distinct.erase number
  case awaited => exact sound.awaited
  case shut =>
    intro remaining drained
    exact sound.shut remaining (by simpa using drained)
  case empty =>
    intro drained
    rw [sound.empty (by simpa using drained)]
    rfl

/-- Opening and closing a gate, and whatever is told about it, leave those inside where they are. -/
theorem Sound.turn {gate : Gate} {waiting : Nat} (same : gate.inFlight = door.gate.inFlight)
    (kept : door.gate.isClosed → gate.isClosed) (awaited : waiting ≠ 0 → gate.isClosed)
    (told : ∀ remaining, incident = .drained remaining →
      gate.isClosed ∧ remaining = door.gate.inFlight) :
    Sound (incident :: history) { door with gate, waiting } := by
  constructor
  case counted => exact same.trans sound.counted
  case numbered => exact sound.numbered
  case distinct => exact sound.distinct
  case awaited => exact awaited
  case shut =>
    intro remaining drained
    rcases List.mem_cons.mp drained with now | earlier
    · exact (told remaining now.symm).1
    · exact kept (sound.shut remaining earlier)
  case empty =>
    intro drained
    rcases List.mem_cons.mp drained with now | earlier
    · rw [← List.length_eq_zero_iff, ← sound.counted]
      exact (told 0 now.symm).2.symm
    · exact sound.empty earlier

end Sound

theorem Step.sound (step : Step door incident next) (sound : Sound history door) :
    Sound (incident :: history) next := by
  cases step with
  | opening =>
      have kept : door.gate.isClosed → door.gate.opening.isClosed :=
        (Gate.isClosed_opening door.gate).trans
      exact sound.turn (Gate.opening_inFlight door.gate) kept
        (fun waits => kept (sound.awaited waits)) nofun
  | enter admits => exact sound.enter admits
  | refuse => exact sound.turn rfl id sound.awaited nofun
  | leave present => exact sound.leave present
  | closing => exact sound.turn rfl (fun _ => rfl) (fun _ => rfl) nofun
  | closingEmpty empty =>
      refine sound.turn rfl (fun _ => rfl) (fun _ => rfl) fun remaining told => ?_
      cases told
      exact ⟨rfl, empty.symm⟩
  | finish waits =>
      have closed : door.gate.isClosed := sound.awaited (waits ▸ Nat.succ_ne_zero _)
      refine sound.turn rfl id (fun _ => closed) fun remaining told => ?_
      cases told
      exact ⟨closed, rfl⟩

theorem Run.sound (run : Run history door) : Sound history door := by
  induction run with
  | new => exact .new
  | step _ last previous => exact last.sound previous

/-! ## The account of a gate -/

/-- Whatever was done at a gate, it counts exactly those inside, so that nobody leaves whom it does
not count. Its phase only goes forward, it admits just while it is open, it says of itself that it
is open just if it is, and after a wait that has ended with nobody inside, nobody is. -/
theorem dispatches_accounted (run : Run history door) :
    door.inside.Nodup ∧ door.gate.inFlight = door.inside.length ∧
    (∀ number next, Step door (.left number) next →
      next.gate.inFlight + 1 = door.gate.inFlight) ∧
    (∀ incident next, Step door incident next →
      next.gate.phase = door.gate.phase ∨ door.gate.phase.Advances next.gate.phase) ∧
    ((∃ number next, Step door (.entered number) next) ↔ door.gate.phase = .opened) ∧
    ((∃ next, Step door .refused next) ↔ door.gate.phase ≠ .opened) ∧
    (∀ admits next, Step door (.opened admits) next →
      (admits = true ↔ next.gate.phase = .opened) ∧
        (admits = true ↔ door.gate.phase ≠ .closed)) ∧
    (.drained 0 ∈ history → door.inside = []) := by
  have sound := run.sound
  refine ⟨sound.distinct, sound.counted, ?_, fun _ _ => Step.phase, ?_, ?_, ?_, sound.empty⟩
  · intro number next step
    cases step with
    | leave present => exact Nat.sub_add_cancel (sound.inFlight_pos present)
  · rw [← enter?_isSome, Option.isSome_iff_exists]
    constructor
    · rintro ⟨number, next, step⟩
      cases step with
      | enter admits => exact ⟨_, admits⟩
    · rintro ⟨gate, admits⟩
      exact ⟨_, _, .enter admits⟩
  · rw [ne_eq, ← enter?_isSome, Option.not_isSome_iff_eq_none]
    constructor
    · rintro ⟨next, step⟩
      cases step with
      | refuse shut => exact shut
    · exact fun shut => ⟨door, .refuse shut⟩
  · intro admits next step
    cases step with
    | opening => exact ⟨decide_eq_true_iff, opening_isOpen door.gate⟩

/-- Two dispatches are inside, the earlier one leaves first, a first wait is given up, and the gate
is closed again after the other one has left. -/
private def closingTime : List Incident :=
  [.refused, .drained 0, .left 1, .drained 1, .left 0, .closed, .entered 1, .entered 0,
    .opened true, .refused]

private theorem closingTime_run :
    Run closingTime { gate := { phase := .closed }, admitted := 2 } :=
  .step (.step (.step (.step (.step (.step (.step (.step (.step (.step .new
    (.refuse rfl)) .opening) (.enter rfl)) (.enter rfl)) (.closing nofun))
    (.leave (by decide))) (.finish rfl)) (.leave (by decide))) (.closingEmpty rfl)) (.refuse rfl)

theorem dispatches_accounted_closingTime :
    let door : Doorway := { gate := { phase := .closed }, admitted := 2 }
    Run closingTime door ∧ door.inside = [] ∧ (¬∃ number next, Step door (.entered number) next) ∧
      ∀ admits next, Step door (.opened admits) next → admits = false := by
  intro door
  obtain ⟨-, -, -, -, enters, -, opens, empty⟩ := dispatches_accounted closingTime_run
  refine ⟨closingTime_run, empty (by simp [closingTime]), fun entered => ?_, ?_⟩
  · cases enters.mp entered
  · intro admits next step
    exact Bool.eq_false_iff.mpr fun admitted => (opens admits next step).2.mp admitted rfl

/-! ## The gates of a host -/

/-- What happens to a gate and those inside is done at its doorway. -/
theorem Run.moves (run : Run history door) {gate : Gate} {others : Nat}
    (moves : door.gate.Moves door.inside.length gate others) :
    ∃ incidents next, Run incidents next ∧ next.gate = gate ∧ next.inside.length = others := by
  cases moves with
  | rest => exact ⟨_, _, run, rfl, rfl⟩
  | opening => exact ⟨_, _, run.step .opening, rfl, rfl⟩
  | closing =>
      by_cases empty : door.gate.inFlight = 0
      · exact ⟨_, _, run.step (.closingEmpty empty), rfl, rfl⟩
      · exact ⟨_, _, run.step (.closing empty), rfl, rfl⟩
  | enter admitted =>
      refine ⟨_, _, run.step (.enter admitted), rfl, ?_⟩
      simp
  | leave counted =>
      obtain ⟨number, present⟩ := List.exists_mem_of_length_eq_add_one counted
      refine ⟨_, _, run.step (.leave present), rfl, ?_⟩
      simp [List.length_erase_of_mem present, counted]

end Doorway

/-- Every gate of a host is one that such things were done at, with those dispatches inside that
are under way in the host. -/
theorem Host.Acting.doorway {licence : Host.Licence} {start host : Host} {inside : List GateId}
    {turn : Option TaskId} (fresh : start.gates = [])
    (history : Host.Acting licence ⟨[], none, start⟩ inside turn host) (gate : GateId) :
    ∃ incidents door, Doorway.Run incidents door ∧ door.gate = host.gate gate ∧
      door.inside.length = inside.count gate := by
  have every := Host.Acting.keeps (fun moment => ∀ gate, ∃ incidents door,
      Doorway.Run incidents door ∧ door.gate = moment.host.gate gate ∧
        door.inside.length = moment.inside.count gate) ?_ history ?_
  · exact every gate
  · intro moment next act before gate
    obtain ⟨incidents, door, run, same, counted⟩ := before gate
    have moves := act.passage.gate gate
    exact run.moves (same ▸ counted ▸ moves)
  · intro gate
    exact ⟨[], {}, .new, by simp [Host.gate, fresh], rfl⟩

end HomeRules
