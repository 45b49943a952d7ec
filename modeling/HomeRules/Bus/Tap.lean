import HomeRules.Event

/-! # Taps

Observers that read published events when they like. A channel keeps the latest
events up to its capacity; a tap that falls further behind misses the oldest and
is told how many. -/

set_option autoImplicit false

namespace HomeRules

/-- The events sent so far, and how many of them are kept. -/
structure Channel where
  capacity : Nat
  sent : List Event := []
  deriving Inhabited

/-- How many events a tap has left behind. -/
abbrev Tap := Nat

inductive TapReading where
  | event (event : Event)
  | empty
  | lagged (missed : Nat)
  deriving DecidableEq, Repr

namespace Channel

/-- The least power of two that is not below a number, found from `power` on. -/
def powerFrom (number : Nat) : Nat → Nat → Nat
  | 0, power => power
  | steps + 1, power => if number ≤ power then power else powerFrom number steps (2 * power)

/-- A channel that keeps at least `capacity` events. -/
def create (capacity : Nat) : Channel where
  capacity := powerFrom capacity capacity 1

def send (channel : Channel) (event : Event) : Channel :=
  { channel with sent := channel.sent ++ [event] }

def tap (channel : Channel) : Tap :=
  channel.sent.length

def read (channel : Channel) (tap : Tap) : Tap × TapReading :=
  let oldest := channel.sent.length - channel.capacity
  if tap < oldest then (oldest, .lagged (oldest - tap))
  else
    match channel.sent[tap]? with
    | some event => (tap + 1, .event event)
    | none => (tap, .empty)

end Channel

end HomeRules
