import HomeRules.Host.Error

/-! # The reload loops

Requests for a reload are served one cycle at a time. A request sets a flag and
wakes the loop that has waited longest; a wake-up that finds no one waiting is kept
as a permit. Requests that arrive while a cycle runs are served together by the next
one. As a rule there is one loop. Where there are several, they share the flag, the
permit and the queue, and a loop whose cycle comes while another cycle runs stands in
line. -/

set_option autoImplicit false

namespace HomeRules

/-- The number of a loop. Loops are numbered from zero in the order they start. -/
abbrev LoopId := Nat

inductive LoopPoint where
  /-- About to look for a permit. -/
  | starting
  /-- Blocked until it is woken. -/
  | blocked
  /-- Woken, and about to go on. -/
  | woken
  /-- Waiting for requests to calm down. -/
  | debouncing
  /-- About to test for requests. -/
  | testing
  /-- Standing in line for a cycle of its own. -/
  | lined
  /-- Let in to run its cycle. -/
  | admitted
  /-- Over, perhaps because of an error. -/
  | finished (error : Option HostError)
  deriving DecidableEq, Repr

/-- The loops, and the requests to them. The blocked loops are in the queue and those
that stand for a cycle are in the line, both with the longest waiting first. -/
structure ReloadLoops where
  points : List LoopPoint := []
  queue : List LoopId := []
  permit : Bool := false
  pending : Bool := false
  /-- Whether a cycle runs, or a loop was let in to run one. -/
  occupied : Bool := false
  line : List LoopId := []
  shutDown : Bool := false
  deriving DecidableEq, Repr, Inhabited

namespace ReloadLoops

/-! ## Requests -/

def move (loops : ReloadLoops) (id : LoopId) (point : LoopPoint) : ReloadLoops :=
  { loops with points := loops.points.set id point }

/-- Wakes the loop that has waited longest, and gives its number. A permit is left
when no loop is blocked. -/
def notify (loops : ReloadLoops) : ReloadLoops × Option LoopId :=
  match loops.queue with
  | id :: rest => (move { loops with queue := rest } id .woken, some id)
  | [] => ({ loops with permit := true }, none)

/-- Asks for a reload. After a shutdown nothing happens. -/
def request (loops : ReloadLoops) : ReloadLoops × Option LoopId :=
  if loops.shutDown then (loops, none) else notify { loops with pending := true }

/-- Ends all service. One loop learns of it at once, the others as they are woken. -/
def retire (loops : ReloadLoops) : ReloadLoops × Option LoopId :=
  notify { loops with shutDown := true }

def occupy (loops : ReloadLoops) : ReloadLoops × Option LoopId :=
  ({ loops with occupied := true }, none)

/-- Ends a cycle, and lets in the loop that stands first in the line. -/
def release (loops : ReloadLoops) : ReloadLoops × Option LoopId :=
  match loops.line with
  | id :: rest => (move { loops with line := rest } id .admitted, some id)
  | [] => ({ loops with occupied := false }, none)

def start (loops : ReloadLoops) : ReloadLoops × LoopId :=
  ({ loops with points := loops.points ++ [.starting] }, loops.points.length)

/-- How a loop ended, with its error if there was one. -/
def ending? (loops : ReloadLoops) (id : LoopId) : Option (Option HostError) :=
  match loops.points[id]? with
  | some (.finished error) => some error
  | _ => none

/-- Whether a loop was let in to run its cycle. -/
def isAdmitted (loops : ReloadLoops) (id : LoopId) : Bool :=
  loops.points[id]? = some .admitted

def isFinished (loops : ReloadLoops) (id : LoopId) : Bool :=
  (loops.ending? id).isSome

/-! ## Serving them -/

inductive Move where
  /-- It waits to be woken. -/
  | wait
  /-- It is over. -/
  | finish
  /-- It sleeps for the debounce period. -/
  | sleep
  /-- It goes on at once. -/
  | continue
  /-- It runs a cycle, and then goes on. -/
  | cycle
  deriving DecidableEq, Repr

def finish (loops : ReloadLoops) (id : LoopId) (error : Option HostError) : ReloadLoops :=
  loops.move id (.finished error)

def afterWake (loops : ReloadLoops) (id : LoopId) (debounced : Bool) : ReloadLoops × Move :=
  if loops.shutDown then (loops.finish id none, .finish)
  else if debounced then (loops.move id .debouncing, .sleep)
  else (loops.move id .testing, .continue)

/-- What a loop does when it looks for a permit. -/
def takePermit (loops : ReloadLoops) (id : LoopId) (debounced : Bool) : ReloadLoops × Move :=
  if loops.permit then afterWake { loops with permit := false } id debounced
  else (move { loops with queue := loops.queue ++ [id] } id .blocked, .wait)

/-- What a loop does when its cycle comes. It tests for requests again after it. -/
def enter (loops : ReloadLoops) (id : LoopId) : ReloadLoops × Move :=
  if loops.occupied then (move { loops with line := loops.line ++ [id] } id .lined, .wait)
  else (loops.move id .testing, .cycle)

/-- What a loop does when it tests for requests. -/
def takeRequest (loops : ReloadLoops) (id : LoopId) : ReloadLoops × Move :=
  if loops.pending then
    let served := { loops with pending := false }
    if loops.shutDown then (served.finish id none, .finish) else served.enter id
  else (loops.move id .starting, .continue)

/-- One step of a loop when it is given control. `debounced` says whether there is a
debounce period. -/
def step (loops : ReloadLoops) (id : LoopId) (debounced : Bool) : ReloadLoops × Move :=
  match loops.points[id]? with
  | some .starting => loops.takePermit id debounced
  | some .woken => loops.afterWake id debounced
  | some .debouncing => (loops.move id .testing, .continue)
  | some .testing => loops.takeRequest id
  | some .admitted => (loops.move id .testing, .cycle)
  | _ => (loops, .wait)

end ReloadLoops

end HomeRules
