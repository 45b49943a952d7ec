import HomeRules.Dictionary
import HomeRules.Duration

/-! # Events

What can happen in a home: an entity changes state, a named event is sent, or an
interval passes. An event carries a payload, which need not fit its kind. -/

set_option autoImplicit false

namespace HomeRules

/-- The three sources of events. Each has its own manager. -/
inductive ManagerKind where
  | state
  | bus
  | time
  deriving DecidableEq, Repr, Inhabited

def ManagerKind.name : ManagerKind → String
  | .state => "state"
  | .bus => "bus"
  | .time => "time"

/-- The class of an event, to which a rule is bound. -/
inductive EventKind where
  /-- Any change of the state of one entity. -/
  | stateChanged (entity : String)
  /-- A named event. -/
  | bus (name : String)
  /-- The passing of an interval. -/
  | interval (period : Duration)
  deriving DecidableEq, Repr, Inhabited

namespace EventKind

def manager : EventKind → ManagerKind
  | .stateChanged _ => .state
  | .bus _ => .bus
  | .interval _ => .time

/-- The characters of the key that denotes a kind of event. -/
def toChars : EventKind → List Char
  | .stateChanged entity => "state:".toList ++ entity.toList
  | .bus name => name.toList
  | .interval period => "every:".toList ++ period.toChars

/-- The key that denotes a kind of event. -/
def render (kind : EventKind) : String :=
  String.ofList kind.toChars

end EventKind

inductive Payload where
  | none
  | state (entity : String) (old new : Option String)
  | bus (data : Dictionary String)
  | tick (sequence : Nat)
  deriving DecidableEq, Repr, Inhabited

namespace Payload

def oldState : Payload → Option String
  | .state _ old _ => old
  | _ => Option.none

def newState : Payload → Option String
  | .state _ _ new => new
  | _ => Option.none

/-- The datum of a named event under a key. -/
def datum (payload : Payload) (key : String) : Option String :=
  match payload with
  | .bus data => data.get? key
  | _ => Option.none

end Payload

structure Event where
  kind : EventKind
  payload : Payload
  deriving DecidableEq, Repr, Inhabited

end HomeRules
