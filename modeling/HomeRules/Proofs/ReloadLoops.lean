import HomeRules.Host.ReloadLoops
import Mathlib.Data.Nat.Find

/-!
# One loop and its requests

What happens to requests for reloads is told as a history, in which cycles serve the requests
that were made since the last one began. A single loop, wherever it is when a request comes,
keeps such a history in order: it is never blocked while something is asked of it, and begins
a cycle after few turns.
-/

set_option autoImplicit false

namespace HomeRules

/-! ## Histories -/

/-- What happens to the requests and to the loop that serves them. -/
inductive Occurrence where
  | requested
  /-- The loop was given control, and no cycle began. -/
  | turned
  | began
  | ended
  deriving DecidableEq, Repr

abbrev History := List Occurrence

namespace History

variable {history : History} {new : Occurrence}

/-- A cycle serves the requests after which it is the first to begin. -/
structure Serves (history : History) (cycle request : Nat) : Prop where
  made : history[request]? = some .requested
  begins : history[cycle]? = some .began
  later : request < cycle
  first : ∀ other, request < other → other < cycle → history[other]? ≠ some .began

/-- A request after which no cycle has begun. -/
structure Outstanding (history : History) (request : Nat) : Prop where
  made : history[request]? = some .requested
  unserved : ∀ cycle, request < cycle → history[cycle]? ≠ some .began

/-- A request that was made while a cycle ran. -/
structure MadeIn (history : History) (cycle request : Nat) : Prop where
  begins : history[cycle]? = some .began
  later : cycle < request
  made : history[request]? = some .requested
  running : ∀ last, cycle < last → last < request → history[last]? ≠ some .ended

def turnsAfter (history : History) (position : Nat) : Nat :=
  (history.drop (position + 1)).count .turned

/-! ### One occurrence more -/

theorem getElem?_snoc {position : Nat} {found : Occurrence} :
    (history ++ [new])[position]? = some found ↔
      history[position]? = some found ∨ position = history.length ∧ new = found := by
  rw [List.getElem?_append]
  split
  case isTrue inside =>
    have other : position ≠ history.length := Nat.ne_of_lt inside
    simp only [other, false_and, or_false]
  case isFalse outside =>
    rw [List.getElem?_eq_none (Nat.not_lt.mp outside), List.getElem?_singleton]
    simp only [reduceCtorEq, false_or]
    split
    case isTrue none =>
      have last : position = history.length := by omega
      simp only [last, true_and, Option.some.injEq]
    case isFalse some =>
      have other : position ≠ history.length := by omega
      simp only [other, reduceCtorEq, false_and]

theorem getElem?_snoc_of_ne {position : Nat} {found : Occurrence} (other : new ≠ found) :
    (history ++ [new])[position]? = some found ↔ history[position]? = some found := by
  rw [getElem?_snoc]
  simp only [other, and_false, or_false]

theorem lt_of_getElem? {position : Nat} {found : Occurrence}
    (there : history[position]? = some found) : position < history.length :=
  (List.getElem?_eq_some_iff.mp there).1

theorem Serves.snoc {cycle request : Nat} (serves : history.Serves cycle request) :
    Serves (history ++ [new]) cycle request := by
  constructor
  · exact getElem?_snoc.mpr (.inl serves.made)
  · exact getElem?_snoc.mpr (.inl serves.begins)
  · exact serves.later
  · intro other after before there
    rcases getElem?_snoc.mp there with old | ⟨rfl, _⟩
    · exact serves.first other after before old
    · exact absurd (lt_of_getElem? serves.begins) (Nat.lt_asymm before)

theorem Outstanding.snoc_began {request : Nat} (outstanding : history.Outstanding request) :
    Serves (history ++ [.began]) history.length request := by
  constructor
  · exact getElem?_snoc.mpr (.inl outstanding.made)
  · exact getElem?_snoc.mpr (.inr ⟨rfl, rfl⟩)
  · exact lt_of_getElem? outstanding.made
  · intro other after before there
    rcases getElem?_snoc.mp there with old | ⟨rfl, _⟩
    · exact outstanding.unserved other after old
    · exact Nat.lt_irrefl _ before

theorem not_outstanding_began {request : Nat} :
    ¬ Outstanding (history ++ [.began]) request := by
  intro outstanding
  have begins : (history ++ [.began])[history.length]? = some Occurrence.began :=
    getElem?_snoc.mpr (.inr ⟨rfl, rfl⟩)
  have there := lt_of_getElem? outstanding.made
  rw [List.length_append, List.length_singleton] at there
  rcases Nat.lt_or_eq_of_le (Nat.le_of_lt_succ there) with before | same
  · exact outstanding.unserved _ before begins
  · have made := outstanding.made
    rw [same, begins] at made
    cases made

theorem outstanding_snoc (other : new ≠ .began) {request : Nat} :
    Outstanding (history ++ [new]) request ↔
      history.Outstanding request ∨ request = history.length ∧ new = .requested := by
  constructor
  · intro outstanding
    rcases getElem?_snoc.mp outstanding.made with made | last
    · exact .inl ⟨made, fun cycle later begins =>
        outstanding.unserved cycle later (getElem?_snoc.mpr (.inl begins))⟩
    · exact .inr last
  · rintro (outstanding | ⟨rfl, rfl⟩)
    · refine ⟨getElem?_snoc.mpr (.inl outstanding.made), fun cycle later begins => ?_⟩
      rcases getElem?_snoc.mp begins with old | ⟨_, same⟩
      · exact outstanding.unserved cycle later old
      · exact other same
    · refine ⟨getElem?_snoc.mpr (.inr ⟨rfl, rfl⟩), fun cycle later begins => ?_⟩
      rcases getElem?_snoc.mp begins with old | ⟨same, _⟩
      · exact absurd (lt_of_getElem? old) (Nat.lt_asymm later)
      · exact absurd same (Nat.ne_of_gt later)

theorem outstanding_snoc_of_ne (other : new ≠ .began) (silent : new ≠ .requested)
    {request : Nat} : Outstanding (history ++ [new]) request ↔ history.Outstanding request := by
  rw [outstanding_snoc other]
  simp only [silent, and_false, or_false]

/-- A request is served by the first cycle after it, if there is any. -/
theorem served_or_outstanding {request : Nat} (made : history[request]? = some .requested) :
    (∃ cycle, history.Serves cycle request) ∨ history.Outstanding request := by
  classical
  by_cases begun : ∃ cycle, request < cycle ∧ history[cycle]? = some .began
  · refine .inl ⟨Nat.find begun, made, (Nat.find_spec begun).2, (Nat.find_spec begun).1, ?_⟩
    intro other later before begins
    exact Nat.find_min begun before ⟨later, begins⟩
  · exact .inr ⟨made, fun cycle later begins => begun ⟨cycle, later, begins⟩⟩

theorem Serves.unique {first second request : Nat} (serves : history.Serves first request)
    (again : history.Serves second request) : first = second := by
  rcases Nat.lt_trichotomy first second with before | same | after
  · exact absurd serves.begins (again.first first serves.later before)
  · exact same
  · exact absurd again.begins (serves.first second again.later after)

theorem turnsAfter_snoc {position : Nat} (inside : position < history.length) :
    turnsAfter (history ++ [new]) position =
      history.turnsAfter position + if new = .turned then 1 else 0 := by
  rw [turnsAfter, List.drop_append_of_le_length inside, List.count_append, List.count_singleton]
  simp only [turnsAfter, beq_iff_eq]

theorem turnsAfter_last : turnsAfter (history ++ [new]) history.length = 0 := by
  have spent : (history ++ [new]).drop (history.length + 1) = [] :=
    List.drop_eq_nil_of_le (by simp)
  rw [turnsAfter, spent, List.count_nil]

/-! ### Order -/

/-- A history in which cycles come one after the other and each has a request to serve, when
requests are `pending` and while a cycle runs or not. -/
structure Orderly (cycling pending : Bool) (history : History) : Prop where
  outstanding : pending = true ↔ ∃ request, history.Outstanding request
  needed : ∀ cycle : Nat, history[cycle]? = some .began →
    ∃ request, history.Serves cycle request
  apart : ∀ first second : Nat, first < second → history[first]? = some .began →
    history[second]? = some .began →
    ∃ last : Nat, first < last ∧ last < second ∧ history[last]? = some .ended
  running : cycling = false → ∀ cycle : Nat, history[cycle]? = some .began →
    ∃ last : Nat, cycle < last ∧ history[last]? = some .ended

namespace Orderly

variable {cycling pending : Bool}

theorem nil : Orderly false false [] := by
  constructor
  · constructor
    · intro absurd
      cases absurd
    · rintro ⟨request, made, _⟩
      cases made
  · intro cycle begins
    cases begins
  · intro first second before begins
    cases begins
  · intro _ cycle begins
    cases begins

private theorem snoc {next : Bool} (orderly : Orderly cycling pending history)
    (other : new ≠ .began)
    (outstanding : next = true ↔ ∃ request, Outstanding (history ++ [new]) request) :
    Orderly cycling next (history ++ [new]) := by
  have known {position : Nat} (begins : (history ++ [new])[position]? = some .began) :
      history[position]? = some .began :=
    (getElem?_snoc_of_ne other).mp begins
  constructor
  · exact outstanding
  · intro cycle begins
    obtain ⟨request, serves⟩ := orderly.needed cycle (known begins)
    exact ⟨request, serves.snoc⟩
  · intro first second later begins again
    obtain ⟨last, after, before, ends⟩ :=
      orderly.apart first second later (known begins) (known again)
    exact ⟨last, after, before, getElem?_snoc.mpr (.inl ends)⟩
  · intro resting cycle begins
    obtain ⟨last, after, ends⟩ := orderly.running resting cycle (known begins)
    exact ⟨last, after, getElem?_snoc.mpr (.inl ends)⟩

theorem requested (orderly : Orderly cycling pending history) :
    Orderly cycling true (history ++ [.requested]) := by
  refine orderly.snoc (by simp) ?_
  have last : Outstanding (history ++ [.requested]) history.length :=
    (outstanding_snoc (by simp)).mpr (.inr ⟨rfl, rfl⟩)
  simp only [true_iff]
  exact ⟨_, last⟩

private theorem idle (orderly : Orderly cycling pending history) (other : new ≠ .began)
    (silent : new ≠ .requested) : Orderly cycling pending (history ++ [new]) := by
  refine orderly.snoc other (orderly.outstanding.trans ?_)
  simp only [outstanding_snoc_of_ne other silent]

theorem turned (orderly : Orderly cycling pending history) :
    Orderly cycling pending (history ++ [.turned]) :=
  orderly.idle (by simp) (by simp)

theorem began (orderly : Orderly false true history) :
    Orderly true false (history ++ [.began]) := by
  obtain ⟨request, outstanding⟩ := orderly.outstanding.mp rfl
  constructor
  · simp only [reduceCtorEq, false_iff]
    rintro ⟨request, outstanding⟩
    exact not_outstanding_began outstanding
  · intro cycle begins
    rcases getElem?_snoc.mp begins with old | ⟨rfl, _⟩
    · obtain ⟨request, serves⟩ := orderly.needed cycle old
      exact ⟨request, serves.snoc⟩
    · exact ⟨request, outstanding.snoc_began⟩
  · intro first second later begins again
    have old : history[first]? = some .began := by
      rcases getElem?_snoc.mp begins with old | ⟨rfl, _⟩
      · exact old
      · have there := lt_of_getElem? again
        rw [List.length_append, List.length_singleton] at there
        exact absurd (Nat.le_of_lt_succ there) (Nat.not_le.mpr later)
    rcases getElem?_snoc.mp again with known | ⟨rfl, _⟩
    · obtain ⟨last, after, before, ends⟩ := orderly.apart first second later old known
      exact ⟨last, after, before, getElem?_snoc.mpr (.inl ends)⟩
    · obtain ⟨last, after, ends⟩ := orderly.running rfl first old
      exact ⟨last, after, lt_of_getElem? ends, getElem?_snoc.mpr (.inl ends)⟩
  · intro resting
    cases resting

theorem ended (orderly : Orderly cycling pending history) :
    Orderly false pending (history ++ [.ended]) := by
  have same : Orderly cycling pending (history ++ [.ended]) :=
    orderly.idle (by simp) (by simp)
  refine ⟨same.outstanding, same.needed, same.apart, fun _ cycle begins => ?_⟩
  have old := (getElem?_snoc_of_ne (by simp)).mp begins
  exact ⟨history.length, lt_of_getElem? old, getElem?_snoc.mpr (.inr ⟨rfl, rfl⟩)⟩

/-- No cycle begins while one runs. -/
theorem quiet (orderly : Orderly cycling pending history) {cycle request other : Nat}
    (made : history.MadeIn cycle request) (after : cycle < other) (before : other < request) :
    history[other]? ≠ some .began := by
  intro begins
  obtain ⟨last, later, earlier, ends⟩ := orderly.apart cycle other after made.begins begins
  exact made.running last later (Nat.lt_trans earlier before) ends

/-- The cycle that serves one of the requests made during a cycle serves all of them. -/
theorem serves_together (orderly : Orderly cycling pending history)
    {cycle request other next : Nat} (one : history.MadeIn cycle request)
    (two : history.MadeIn cycle other) (serves : history.Serves next request) :
    history.Serves next other := by
  have distinct {position : Nat} (begins : history[position]? = some .began)
      {request : Nat} (made : history[request]? = some .requested) : position ≠ request := by
    rintro rfl
    rw [begins] at made
    cases made
  constructor
  · exact two.made
  · exact serves.begins
  · have after := Nat.lt_trans one.later serves.later
    rcases Nat.lt_trichotomy next other with before | same | later
    · exact absurd serves.begins (orderly.quiet two after before)
    · exact absurd same (distinct serves.begins two.made)
    · exact later
  · intro position after before begins
    rcases Nat.lt_trichotomy position request with earlier | same | later
    · exact orderly.quiet one (Nat.lt_trans two.later after) earlier begins
    · exact distinct begins one.made same
    · exact serves.first position later before begins

end Orderly

end History

/-! ## Where a loop can be -/

namespace ReloadLoops

/-! ### After a shutdown -/

theorem notify_shutDown (loops : ReloadLoops) : loops.notify.1.shutDown = loops.shutDown := by
  unfold notify
  split <;> rfl

theorem request_shutDown (loops : ReloadLoops) : loops.request.1.shutDown = loops.shutDown := by
  unfold request
  split
  · rfl
  · exact notify_shutDown _

theorem retire_shutDown (loops : ReloadLoops) : loops.retire.1.shutDown = true :=
  notify_shutDown _

theorem release_shutDown (loops : ReloadLoops) : loops.release.1.shutDown = loops.shutDown := by
  unfold release
  split <;> rfl

theorem step_shutDown (loops : ReloadLoops) (id : LoopId) (debounced : Bool) :
    (loops.step id debounced).1.shutDown = loops.shutDown := by
  have woken (loops : ReloadLoops) :
      (loops.afterWake id debounced).1.shutDown = loops.shutDown := by
    unfold afterWake
    split
    · rfl
    · split <;> rfl
  have looked : (loops.takePermit id debounced).1.shutDown = loops.shutDown := by
    unfold takePermit
    split
    · exact woken _
    · rfl
  have tested : (loops.takeRequest id).1.shutDown = loops.shutDown := by
    unfold takeRequest
    split
    · dsimp only
      split
      · rfl
      · unfold enter
        split <;> rfl
    · rfl
  unfold step
  split
  · exact looked
  · exact woken loops
  · rfl
  · exact tested
  · rfl
  · rfl

/-! ### Before a shutdown -/

/-- The states of a single loop, while it runs a cycle or not, and before there is one. A permit
is left for a loop that is about to look for one whenever requests are pending, and a blocked
loop is asked for nothing. -/
inductive Placed : Bool → ReloadLoops → Prop where
  | absent {permit pending occupied : Bool} (left : pending = true → permit = true) :
      Placed false { permit, pending, occupied }
  | starting {permit pending : Bool} (left : pending = true → permit = true) :
      Placed false { points := [.starting], permit, pending }
  | blocked : Placed false { points := [.blocked], queue := [0] }
  | woken {permit pending : Bool} : Placed false { points := [.woken], permit, pending }
  | debouncing {permit pending : Bool} :
      Placed false { points := [.debouncing], permit, pending }
  | testing {permit pending : Bool} : Placed false { points := [.testing], permit, pending }
  | cycling {permit pending : Bool} :
      Placed true { points := [.testing], permit, pending, occupied := true }
  | finished (error : HostError) {permit pending : Bool} :
      Placed false { points := [.finished (some error)], permit, pending }

def Over (loops : ReloadLoops) : Prop :=
  ∃ error, loops.ending? 0 = some (some error)

/-- A loop that begins the next cycle, or is over, as soon as it is given control. -/
def Ready (cycling : Bool) (loops : ReloadLoops) : Prop :=
  cycling = false ∧ (loops.points = [.testing] ∨ loops.Over)

/-- How often a loop that is asked for something is given control before it begins a cycle. -/
def turnsLeft (loops : ReloadLoops) : Nat :=
  match loops.points with
  | [] | [.starting] | [.woken] => 2
  | [.debouncing] => 1
  | _ => 0

theorem turnsLeft_le (loops : ReloadLoops) : loops.turnsLeft ≤ 2 := by
  unfold turnsLeft
  split <;> decide

theorem turnsLeft_of_absent {loops : ReloadLoops} (absent : loops.points = []) :
    loops.turnsLeft = 2 := by
  rw [turnsLeft, absent]

namespace Placed

variable {cycling debounced : Bool} {loops : ReloadLoops}

theorem pending_eq_false (placed : Placed cycling loops)
    (blocked : loops.points[0]? = some .blocked) : loops.pending = false := by
  cases placed with
  | blocked => rfl
  | _ => cases blocked

theorem request (placed : Placed cycling loops) : Placed cycling loops.request.1 := by
  cases placed with
  | absent left => exact .absent fun _ => rfl
  | starting left => exact .starting fun _ => rfl
  | blocked => exact .woken
  | woken => exact .woken
  | debouncing => exact .debouncing
  | testing => exact .testing
  | cycling => exact .cycling
  | finished error => exact .finished error

theorem pending_request (placed : Placed cycling loops) : loops.request.1.pending = true := by
  cases placed <;> rfl

theorem turnsLeft_request (placed : Placed cycling loops) (pending : loops.pending = true) :
    loops.request.1.turnsLeft = loops.turnsLeft := by
  cases placed with
  | blocked => cases pending
  | _ => rfl

/-- A request wakes a loop only if the loop is blocked. -/
theorem request_wakes (placed : Placed cycling loops) :
    loops.request.2 = none ∧ loops.request.1.queue = loops.queue ∨
      loops.queue ≠ [] ∧ loops.request.2 = some 0 ∧ cycling = false ∧
        loops.request.1.queue = [] ∧ loops.request.1.points ≠ [] := by
  cases placed with
  | blocked => exact .inr ⟨List.cons_ne_nil _ _, rfl, rfl, rfl, List.cons_ne_nil _ _⟩
  | _ => exact .inl ⟨rfl, rfl⟩

theorem isEmpty_request (placed : Placed cycling loops) :
    loops.request.1.points.isEmpty = loops.points.isEmpty := by
  cases placed <;> rfl

theorem over_request (placed : Placed cycling loops) (isOver : loops.Over) :
    loops.request.1.Over := by
  obtain ⟨error, ended⟩ := isOver
  cases placed with
  | finished error => exact ⟨error, rfl⟩
  | _ => cases ended

theorem ready_request (placed : Placed cycling loops) (ready : Ready cycling loops) :
    Ready cycling loops.request.1 := by
  obtain ⟨resting, testing | isOver⟩ := ready
  · cases placed with
    | testing => exact ⟨rfl, .inl rfl⟩
    | cycling => cases resting
    | _ => cases testing
  · exact ⟨resting, .inr (placed.over_request isOver)⟩

theorem start (placed : Placed cycling loops) (absent : loops.points = [])
    (idle : loops.occupied = false) : Placed cycling loops.start.1 := by
  cases placed with
  | absent left =>
      cases idle
      exact .starting left
  | _ => cases absent

theorem load (placed : Placed cycling loops) (absent : loops.points = []) :
    Placed cycling loops.occupy.1 ∧ Placed cycling loops.release.1 := by
  cases placed with
  | absent left => exact ⟨.absent left, .absent left⟩
  | _ => cases absent

theorem release_of_absent (placed : Placed cycling loops) (absent : loops.points = []) :
    loops.release = ({ loops with occupied := false }, none) := by
  cases placed with
  | absent left => rfl
  | _ => cases absent

theorem queue_of_absent (placed : Placed cycling loops) (absent : loops.points = []) :
    loops.queue = [] := by
  cases placed with
  | absent left => rfl
  | _ => cases absent

theorem not_over (placed : Placed cycling loops) (absent : loops.points = []) : ¬ loops.Over := by
  rintro ⟨error, ended⟩
  cases placed with
  | absent left => cases ended
  | _ => cases absent

theorem pass (placed : Placed false loops) (present : loops.points ≠ [])
    (passes : (loops.step 0 debounced).2 ≠ .cycle) : Placed false (loops.step 0 debounced).1 := by
  cases placed with
  | absent left => exact absurd rfl present
  | @starting permit pending left =>
      cases permit with
      | true => cases debounced with
        | true => exact .debouncing
        | false => exact .testing
      | false => cases pending with
        | true => cases left rfl
        | false => exact .blocked
  | blocked => exact .blocked
  | woken => cases debounced with
    | true => exact .debouncing
    | false => exact .testing
  | debouncing => exact .testing
  | @testing permit pending => cases pending with
    | true => exact absurd rfl passes
    | false => exact .starting fun pending => by cases pending
  | finished error => exact .finished error

theorem pending_pass (placed : Placed false loops)
    (passes : (loops.step 0 debounced).2 ≠ .cycle) :
    (loops.step 0 debounced).1.pending = loops.pending := by
  cases placed with
  | @starting permit pending left => cases permit <;> cases debounced <;> rfl
  | woken => cases debounced <;> rfl
  | @testing permit pending => cases pending with
    | true => exact absurd rfl passes
    | false => rfl
  | _ => rfl

theorem queue_pass (placed : Placed false loops)
    (waits : (loops.step 0 debounced).2 = .sleep ∨ (loops.step 0 debounced).2 = .continue) :
    (loops.step 0 debounced).1.queue = [] := by
  cases placed with
  | @starting permit pending left =>
      cases permit with
      | true => cases debounced <;> rfl
      | false => rcases waits with sleeps | goes <;> contradiction
  | woken => cases debounced <;> rfl
  | debouncing => rfl
  | @testing permit pending =>
      cases pending with
      | true => rcases waits with sleeps | goes <;> contradiction
      | false => rfl
  | _ => rcases waits with sleeps | goes <;> contradiction

theorem present_pass (placed : Placed false loops) (present : loops.points ≠ []) :
    (loops.step 0 debounced).1.points ≠ [] := by
  cases placed with
  | absent left => exact absurd rfl present
  | @starting permit pending left => cases permit <;> cases debounced <;> exact List.cons_ne_nil _ _
  | woken => cases debounced <;> exact List.cons_ne_nil _ _
  | @testing permit pending => cases pending <;> exact List.cons_ne_nil _ _
  | _ => exact List.cons_ne_nil _ _

/-- A loop that is asked for something comes closer to its cycle with every turn. -/
theorem turnsLeft_pass (placed : Placed false loops) (present : loops.points ≠ [])
    (passes : (loops.step 0 debounced).2 ≠ .cycle) (pending : loops.pending = true)
    (going : ¬ loops.Over) : (loops.step 0 debounced).1.turnsLeft < loops.turnsLeft := by
  cases placed with
  | absent left => exact absurd rfl present
  | starting left =>
      -- The permit that the request left keeps the loop from being blocked.
      cases pending
      cases left rfl
      cases debounced <;> decide
  | blocked => cases pending
  | woken => cases debounced with
    | true => exact Nat.one_lt_two
    | false => exact Nat.two_pos
  | debouncing => exact Nat.zero_lt_one
  | testing =>
      cases pending
      exact absurd rfl passes
  | finished error => exact absurd ⟨error, rfl⟩ going

theorem over_pass (placed : Placed false loops) (isOver : loops.Over) :
    (loops.step 0 debounced).1.Over := by
  obtain ⟨error, ended⟩ := isOver
  cases placed with
  | finished error => exact ⟨error, rfl⟩
  | _ => cases ended

theorem ready_pass (placed : Placed false loops) (passes : (loops.step 0 debounced).2 ≠ .cycle)
    (pending : loops.pending = true) (ready : Ready false loops) :
    Ready false (loops.step 0 debounced).1 := by
  obtain ⟨_, testing | isOver⟩ := ready
  · cases placed with
    | testing =>
        cases pending
        exact absurd rfl passes
    | _ => cases testing
  · exact ⟨rfl, .inr (placed.over_pass isOver)⟩

theorem enter (placed : Placed false loops) (enters : (loops.step 0 debounced).2 = .cycle) :
    loops.pending = true ∧ (loops.step 0 debounced).1.pending = false ∧
      Placed true (loops.step 0 debounced).1.occupy.1 := by
  cases placed with
  | @starting permit pending left => cases permit <;> cases debounced <;> cases enters
  | woken => cases debounced <;> cases enters
  | @testing permit pending => cases pending with
    | true => exact ⟨rfl, rfl, .cycling⟩
    | false => cases enters
  | _ => cases enters

theorem due (placed : Placed false loops) (testing : loops.points = [.testing])
    (pending : loops.pending = true) : (loops.step 0 debounced).2 = .cycle := by
  cases placed with
  | testing =>
      cases pending
      rfl
  | _ => cases testing

theorem leave (placed : Placed true loops) :
    Placed false loops.release.1 ∧ loops.release.1.points = [.testing] ∧
      loops.release.1.pending = loops.pending := by
  cases placed
  exact ⟨.testing, rfl, rfl⟩

theorem present (placed : Placed true loops) : loops.points.isEmpty = false := by
  cases placed
  rfl

/-- The end of a cycle wakes nobody. -/
theorem release_wakes (placed : Placed true loops) :
    loops.release.2 = none ∧ loops.release.1.queue = [] := by
  cases placed
  exact ⟨rfl, rfl⟩

theorem going (placed : Placed true loops) : ¬ loops.Over := by
  rintro ⟨error, ended⟩
  cases placed
  cases ended

theorem turnsLeft_leave (placed : Placed true loops) :
    loops.release.1.turnsLeft = loops.turnsLeft := by
  cases placed
  rfl

theorem abort (placed : Placed true loops) (error : HostError) :
    Placed false (loops.release.1.finish 0 (some error)) ∧
      (loops.release.1.finish 0 (some error)).Over := by
  cases placed
  exact ⟨.finished error, error, rfl⟩

end Placed

/-! ## What every step keeps -/

/-- A history and a loop that loses no request. -/
structure Tended (cycling : Bool) (loops : ReloadLoops) (history : History) : Prop where
  placed : Placed cycling loops
  orderly : history.Orderly cycling loops.pending
  ready : ∀ request last : Nat, history.Outstanding request → request < last →
    history[last]? = some .ended → Ready cycling loops
  soon : ∀ request, history.Outstanding request → ¬ loops.Over →
    history.turnsAfter request + loops.turnsLeft ≤ 2

namespace Tended

variable {cycling debounced : Bool} {loops : ReloadLoops} {history : History}

theorem pending (tended : Tended cycling loops history) {request : Nat}
    (outstanding : history.Outstanding request) : loops.pending = true :=
  tended.orderly.outstanding.mpr ⟨request, outstanding⟩

theorem request (tended : Tended cycling loops history) :
    Tended cycling loops.request.1 (history ++ [.requested]) := by
  have placed := tended.placed
  have other : Occurrence.requested ≠ .began := by simp
  constructor
  case placed => exact placed.request
  case orderly =>
    rw [placed.pending_request]
    exact tended.orderly.requested
  case ready =>
    intro request last outstanding later ends
    have earlier := (History.getElem?_snoc_of_ne (by simp)).mp ends
    rcases (History.outstanding_snoc other).mp outstanding with old | ⟨rfl, _⟩
    · exact placed.ready_request (tended.ready request last old later earlier)
    · exact absurd (History.lt_of_getElem? earlier) (Nat.lt_asymm later)
  case soon =>
    intro request outstanding going
    rcases (History.outstanding_snoc other).mp outstanding with old | ⟨rfl, _⟩
    · rw [History.turnsAfter_snoc (History.lt_of_getElem? old.made),
        placed.turnsLeft_request (tended.pending old)]
      exact tended.soon request old fun isOver => going (placed.over_request isOver)
    · rw [History.turnsAfter_last, Nat.zero_add]
      exact turnsLeft_le _

theorem absent (tended : Tended cycling loops history) (absent : loops.points = [])
    {next : ReloadLoops} (placed : Placed cycling next) (pending : next.pending = loops.pending)
    (waiting : next.turnsLeft = 2) : Tended cycling next history := by
  have here := tended.placed
  constructor
  case placed => exact placed
  case orderly =>
    rw [pending]
    exact tended.orderly
  case ready =>
    intro request last outstanding later ends
    obtain ⟨_, testing | isOver⟩ := tended.ready request last outstanding later ends
    · rw [absent] at testing
      cases testing
    · exact absurd isOver (here.not_over absent)
  case soon =>
    intro request outstanding _
    have spent := tended.soon request outstanding (here.not_over absent)
    rw [turnsLeft_of_absent absent] at spent
    rw [waiting]
    exact spent

theorem pass (tended : Tended false loops history) (present : loops.points ≠ [])
    (passes : (loops.step 0 debounced).2 ≠ .cycle) :
    Tended false (loops.step 0 debounced).1 (history ++ [.turned]) := by
  have placed := tended.placed
  constructor
  case placed => exact placed.pass present passes
  case orderly =>
    rw [placed.pending_pass passes]
    exact tended.orderly.turned
  case ready =>
    intro request last outstanding later ends
    have earlier := (History.getElem?_snoc_of_ne (by simp)).mp ends
    have known := (History.outstanding_snoc_of_ne (by simp) (by simp)).mp outstanding
    exact placed.ready_pass passes (tended.pending known)
      (tended.ready request last known later earlier)
  case soon =>
    intro request outstanding going
    have known := (History.outstanding_snoc_of_ne (by simp) (by simp)).mp outstanding
    have closer := placed.turnsLeft_pass present passes (tended.pending known)
      fun isOver => going (placed.over_pass isOver)
    have spent := tended.soon request known fun isOver => going (placed.over_pass isOver)
    rw [History.turnsAfter_snoc (History.lt_of_getElem? known.made), if_pos rfl]
    omega

theorem enter (tended : Tended false loops history)
    (enters : (loops.step 0 debounced).2 = .cycle) :
    Tended true (loops.step 0 debounced).1.occupy.1 (history ++ [.began]) := by
  obtain ⟨pending, served, placed⟩ := tended.placed.enter enters
  constructor
  case placed => exact placed
  case orderly =>
    have orderly := tended.orderly
    rw [pending] at orderly
    change History.Orderly true (loops.step 0 debounced).1.pending _
    rw [served]
    exact orderly.began
  case ready =>
    intro request last outstanding
    exact absurd outstanding History.not_outstanding_began
  case soon =>
    intro request outstanding
    exact absurd outstanding History.not_outstanding_began

theorem leave (tended : Tended true loops history) :
    Tended false loops.release.1 (history ++ [.ended]) := by
  obtain ⟨placed, testing, pending⟩ := tended.placed.leave
  constructor
  case placed => exact placed
  case orderly =>
    rw [pending]
    exact tended.orderly.ended
  case ready =>
    intro request last _ _ _
    exact ⟨rfl, .inl testing⟩
  case soon =>
    intro request outstanding _
    have known := (History.outstanding_snoc_of_ne (by simp) (by simp)).mp outstanding
    rw [History.turnsAfter_snoc (History.lt_of_getElem? known.made), if_neg (by simp),
      tended.placed.turnsLeft_leave]
    exact tended.soon request known tended.placed.going

theorem abort (tended : Tended true loops history) (error : HostError) :
    Tended false (loops.release.1.finish 0 (some error)) (history ++ [.ended]) := by
  obtain ⟨placed, isOver⟩ := tended.placed.abort error
  constructor
  case placed => exact placed
  case orderly =>
    change History.Orderly false loops.release.1.pending _
    rw [tended.placed.leave.2.2]
    exact tended.orderly.ended
  case ready =>
    intro request last _ _ _
    exact ⟨rfl, .inr isOver⟩
  case soon =>
    intro request _ going
    exact absurd isOver going

end Tended

end ReloadLoops

end HomeRules
