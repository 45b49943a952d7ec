import HomeRules.Proofs.ReloadLoops

/-!
# One loop and the lock of cycles

Cycles run under a lock, which a single loop and any number of calls take in turns. Wherever the
loop is and whoever has the lock, a shutdown leaves the loop a permit unless it wakes it, so that
nothing blocks the loop from then on. It is over a few turns later.
-/

set_option autoImplicit false

namespace HomeRules

/-- Who runs a cycle: the loop, or a call from elsewhere. -/
inductive Party where
  | call
  | loop
  deriving DecidableEq, Repr

/-- Whether a loop that is given control goes on. -/
def LoopPoint.isAwake : LoopPoint → Bool
  | .starting | .woken | .debouncing | .testing | .admitted => true
  | .blocked | .lined | .finished _ => false

namespace ReloadLoops

def isAwake (loops : ReloadLoops) : Bool :=
  loops.points[0]?.any LoopPoint.isAwake

theorem isAwake_of_cycle {loops : ReloadLoops} {debounced : Bool}
    (enters : (loops.step 0 debounced).2 = .cycle) : loops.isAwake = true := by
  unfold step at enters
  unfold isAwake
  split at enters
  case h_6 => cases enters
  all_goals
    rename_i there
    rw [there]
    rfl

/-- A loop that is not awake does nothing. -/
theorem step_of_asleep {loops : ReloadLoops} {id : LoopId}
    (asleep : loops.points[id]?.any LoopPoint.isAwake = false) (debounced : Bool) :
    loops.step id debounced = (loops, .wait) := by
  unfold step
  split
  case h_6 => rfl
  all_goals
    rename_i there
    rw [there] at asleep
    cases asleep

theorem retire_occupied (loops : ReloadLoops) : loops.retire.1.occupied = loops.occupied := by
  unfold retire notify
  split <;> rfl

/-! ## Where the loop can be -/

/-- A single loop that waits for nobody and runs no cycle, if there is one. -/
inductive Roaming : List LoopPoint → Prop where
  | absent : Roaming []
  | starting : Roaming [.starting]
  | woken : Roaming [.woken]
  | debouncing : Roaming [.debouncing]
  | testing : Roaming [.testing]
  | finished (error : Option HostError) : Roaming [.finished error]

/-- A loop that comes to its end after a shutdown also without a permit. -/
inductive Released : List LoopPoint → Prop where
  | woken : Released [.woken]
  | finished (error : Option HostError) : Released [.finished error]

/-- The states of a single loop, and before there is one, while `party` has the lock. Once the
host is shut down a permit is left unless the loop is released, and no loop is blocked. -/
inductive Stationed : Option Party → ReloadLoops → Prop where
  | roaming {party : Option Party} {points : List LoopPoint} {permit pending shutDown : Bool}
      (apart : party ≠ some .loop) (roams : Roaming points)
      (left : shutDown = true → permit = true ∨ Released points) :
      Stationed party { points, permit, pending, shutDown, occupied := party.isSome }
  | blocked {party : Option Party} {pending : Bool} (apart : party ≠ some .loop) :
      Stationed party { points := [.blocked], queue := [0], pending, occupied := party.isSome }
  | lined {permit pending shutDown : Bool} (left : shutDown = true → permit = true) :
      Stationed (some .call)
        { points := [.lined], permit, pending, shutDown, occupied := true, line := [0] }
  | admitted {permit pending shutDown : Bool} (left : shutDown = true → permit = true) :
      Stationed none { points := [.admitted], permit, pending, shutDown, occupied := true }
  | cycling {permit pending shutDown : Bool} (left : shutDown = true → permit = true) :
      Stationed (some .loop) { points := [.testing], permit, pending, shutDown, occupied := true }

/-- How often a loop that is shut down is given control before it is over, at most. -/
def turnsToEnd (loops : ReloadLoops) : Nat :=
  match loops.points with
  | [] | [.starting] | [.woken] => 1
  | [.testing] => 2
  | [.debouncing] | [.admitted] => 3
  | [.lined] => 4
  | _ => 0

theorem turnsToEnd_le (loops : ReloadLoops) : loops.turnsToEnd ≤ 4 := by
  unfold turnsToEnd
  split <;> decide

namespace Stationed

variable {party : Option Party} {loops : ReloadLoops} {debounced : Bool}

theorem request (stationed : Stationed party loops) : Stationed party loops.request.1 := by
  cases stationed with
  | @roaming _ _ _ _ shutDown apart roams left => cases shutDown with
    | true => exact .roaming apart roams left
    | false => exact .roaming apart roams fun _ => .inl rfl
  | blocked apart => exact .roaming apart .woken fun _ => .inr .woken
  | @lined _ _ shutDown left => cases shutDown with
    | true => exact .lined left
    | false => exact .lined fun _ => rfl
  | @admitted _ _ shutDown left => cases shutDown with
    | true => exact .admitted left
    | false => exact .admitted fun _ => rfl
  | @cycling _ _ shutDown left => cases shutDown with
    | true => exact .cycling left
    | false => exact .cycling fun _ => rfl

/-- A shutdown leaves a permit, or wakes the loop. -/
theorem retire (stationed : Stationed party loops) : Stationed party loops.retire.1 := by
  cases stationed with
  | roaming apart roams left => exact .roaming apart roams fun _ => .inl rfl
  | blocked apart => exact .roaming apart .woken fun _ => .inr .woken
  | lined left => exact .lined fun _ => rfl
  | admitted left => exact .admitted fun _ => rfl
  | cycling left => exact .cycling fun _ => rfl

theorem start (stationed : Stationed party loops) (absent : loops.points = []) :
    Stationed party loops.start.1 := by
  cases stationed with
  | roaming apart roams left =>
      cases absent
      refine .roaming apart .starting fun shut => (left shut).imp_right fun released => ?_
      cases released
  | _ => cases absent

/-- What a loop that was woken does. It is over if the host is shut down. -/
private theorem wake {permit pending shutDown : Bool} {point : LoopPoint}
    (apart : party ≠ some .loop) :
    Stationed party (afterWake { points := [point], permit, pending, shutDown
                                 occupied := party.isSome } 0 debounced).1 := by
  cases shutDown with
  | true => exact .roaming apart (.finished none) fun _ => .inr (.finished none)
  | false => cases debounced with
    | true => exact .roaming apart .debouncing fun shut => by cases shut
    | false => exact .roaming apart .testing fun shut => by cases shut

/-- A turn of the loop in which no cycle begins. -/
theorem pass (stationed : Stationed party loops) (apart : party ≠ some .loop)
    (passes : (loops.step 0 debounced).2 ≠ .cycle) :
    Stationed party (loops.step 0 debounced).1 := by
  cases stationed with
  | @roaming _ _ permit pending shutDown _ roams left =>
      cases roams with
      | absent => exact .roaming apart .absent left
      | starting => cases permit with
        | true => exact wake apart
        | false => cases shutDown with
          | false => exact .blocked apart
          | true => rcases left rfl with permit | released <;> contradiction
      | woken => exact wake apart
      | debouncing =>
          refine .roaming apart .testing fun shut => (left shut).imp_right fun released => ?_
          cases released
      | testing => cases pending with
        | false =>
            refine .roaming apart .starting fun shut => (left shut).imp_right fun released => ?_
            cases released
        | true => cases shutDown with
          | true => exact .roaming apart (.finished none) fun _ => .inr (.finished none)
          | false => cases party with
            | none => exact absurd rfl passes
            | some party => cases party with
              | call => exact .lined fun shut => by cases shut
              | loop => exact absurd rfl apart
      | finished error => exact .roaming apart (.finished error) left
  | blocked _ => exact .blocked apart
  | lined left => exact .lined left
  | admitted left => exact absurd rfl passes
  | cycling left => exact absurd rfl apart

/-- There is one loop at most. -/
theorem alone (stationed : Stationed party loops) {id : LoopId} (other : id ≠ 0) :
    loops.points[id]? = none := by
  obtain ⟨number, rfl⟩ := Nat.exists_eq_succ_of_ne_zero other
  cases stationed with
  | roaming _ roams => cases roams <;> rfl
  | _ => rfl

/-- The loop begins a cycle only when nobody has the lock. -/
theorem enter (stationed : Stationed party loops) (enters : (loops.step 0 debounced).2 = .cycle) :
    party = none ∧ Stationed (some .loop) (loops.step 0 debounced).1.occupy.1 := by
  cases stationed with
  | @roaming _ _ permit pending shutDown _ roams left =>
      cases roams with
      | starting => cases permit <;> cases shutDown <;> cases debounced <;> cases enters
      | woken => cases shutDown <;> cases debounced <;> cases enters
      | testing => cases pending with
        | false => cases enters
        | true => cases shutDown with
          | true => cases enters
          | false => cases party with
            | none => exact ⟨rfl, .cycling fun shut => by cases shut⟩
            | some party => cases enters
      | _ => cases enters
  | admitted left => exact ⟨rfl, .cycling left⟩
  | @cycling permit pending shutDown left => cases pending <;> cases shutDown <;> cases enters
  | _ => cases enters

/-- A call takes the lock only when nobody has it and it is kept for nobody. -/
theorem grant (stationed : Stationed party loops) (free : loops.occupied = false) :
    party = none ∧ Stationed (some .call) loops.occupy.1 := by
  have other : some Party.call ≠ some .loop := by simp
  cases party with
  | some party => cases stationed <;> cases free
  | none =>
      refine ⟨rfl, ?_⟩
      cases stationed with
      | roaming _ roams left => exact .roaming other roams left
      | blocked _ => exact .blocked other
      | admitted left => cases free

/-- Where the lock is free nobody stands in line. -/
theorem line_of_free (stationed : Stationed party loops) (free : loops.occupied = false) :
    loops.line = [] := by
  cases stationed with
  | lined left => cases free
  | _ => rfl

/-- A free lock that is taken and given back is as before. -/
theorem occupy_release (stationed : Stationed party loops) (free : loops.occupied = false) :
    loops.occupy.1.release = (loops, none) := by
  obtain ⟨points, queue, permit, pending, occupied, line, shutDown⟩ := loops
  cases free
  cases stationed.line_of_free rfl
  rfl

/-- At the end of a cycle the lock is free, or kept for the loop that stands in line. -/
theorem release {party : Party} (stationed : Stationed (some party) loops) :
    Stationed none loops.release.1 := by
  have other : none ≠ some Party.loop := by simp
  cases stationed with
  | roaming _ roams left => exact .roaming other roams left
  | blocked _ => exact .blocked other
  | lined left => exact .admitted left
  | cycling left => exact .roaming other .testing fun shut => .inl (left shut)

/-- The lock may also pass to a call that waits for it. -/
theorem hand {party : Party} (stationed : Stationed (some party) loops) :
    Stationed (some .call) loops := by
  have other : some Party.call ≠ some .loop := by simp
  cases stationed with
  | roaming _ roams left => exact .roaming other roams left
  | blocked _ => exact .blocked other
  | lined left => exact .lined left
  | cycling left => exact .roaming other .testing fun shut => .inl (left shut)

/-- A loop whose cycle has failed is over, whoever has the lock next. -/
theorem abort (stationed : Stationed (some .loop) loops) (error : HostError) :
    Stationed none (loops.release.1.finish 0 (some error)) ∧
      Stationed (some .call) (loops.finish 0 (some error)) := by
  cases stationed with
  | cycling _ =>
      exact ⟨.roaming (by simp) (.finished _) fun _ => .inr (.finished _),
        .roaming (by simp) (.finished _) fun _ => .inr (.finished _)⟩
  | _ => contradiction

/-! ## After a shutdown -/

section Shut

variable (stationed : Stationed party loops) (shut : loops.shutDown = true)
include stationed shut

theorem unblocked : loops.points[0]? ≠ some .blocked := by
  cases stationed with
  | roaming _ roams => cases roams <;> simp
  | blocked => cases shut
  | _ => simp

/-- A loop that is neither woken nor over has a permit. -/
theorem permitted : loops.permit = true ∨ Released loops.points := by
  cases stationed with
  | roaming _ _ left => exact left shut
  | blocked => cases shut
  | lined left => exact .inl (left shut)
  | admitted left => exact .inl (left shut)
  | cycling left => exact .inl (left shut)

/-- Where a loop can be that was told of a shutdown. The end of the cycle of a call lets it in
when it stands in line. -/
theorem told : loops.isFinished 0 = true ∨ loops.points = [] ∨ loops.isAwake = true ∨
    loops.points = [.lined] ∧ party = some .call ∧ loops.release.1.points = [.admitted] := by
  cases stationed with
  | roaming _ roams left => cases roams with
    | absent => exact .inr (.inl rfl)
    | finished error => exact .inl rfl
    | _ => exact .inr (.inr (.inl rfl))
  | blocked => cases shut
  | lined left => exact .inr (.inr (.inr ⟨rfl, rfl, rfl⟩))
  | _ => exact .inr (.inr (.inl rfl))

/-- Each turn brings the loop closer to its end. -/
theorem turn_nearer (awake : loops.isAwake = true) :
    (loops.step 0 debounced).1.turnsToEnd < loops.turnsToEnd := by
  cases stationed with
  | @roaming _ _ permit pending shutDown _ roams left =>
      cases shut
      cases roams with
      | starting => cases permit with
        | true => exact Nat.zero_lt_one
        | false => rcases left rfl with permit | released <;> contradiction
      | woken => exact Nat.zero_lt_one
      | debouncing => exact Nat.lt_succ_self 2
      | testing => cases pending with
        | false => exact Nat.lt_succ_self 1
        | true => exact Nat.zero_lt_two
      | _ => cases awake
  | blocked => cases shut
  | lined left => cases awake
  | admitted left => exact Nat.lt_succ_self 2
  | @cycling permit pending _ left =>
      cases shut
      cases pending with
      | false => exact Nat.lt_succ_self 1
      | true => exact Nat.zero_lt_two

theorem retire_turnsToEnd : loops.retire.1.turnsToEnd = loops.turnsToEnd := by
  cases stationed with
  | blocked => cases shut
  | _ => rfl

end Shut

theorem start_turnsToEnd (stationed : Stationed party loops) (absent : loops.points = []) :
    loops.start.1.turnsToEnd = loops.turnsToEnd := by
  cases stationed with
  | roaming _ _ _ =>
      cases absent
      rfl
  | _ => cases absent

theorem release_turnsToEnd {party : Party} (stationed : Stationed (some party) loops) :
    loops.release.1.turnsToEnd ≤ loops.turnsToEnd := by
  cases stationed with
  | lined left => exact Nat.le_succ 3
  | _ => exact Nat.le_refl _

end Stationed

end ReloadLoops

end HomeRules
