import HomeRules.Event.Key

/-! # Listener tables

Who listens to which kind of event. Ids are never used twice, and listeners are
kept in the order they were added. -/

set_option autoImplicit false

namespace HomeRules

/-- One listener: what is told about events of a kind. -/
structure Listener (τ : Type) where
  id : Nat
  kind : EventKind
  target : τ
  deriving Repr, Inhabited

structure Bus (τ : Type) where
  nextId : Nat := 0
  listeners : List (Listener τ) := []
  deriving Repr, Inhabited

namespace Bus

variable {τ : Type}

def listen (bus : Bus τ) (kind : EventKind) (target : τ) : Bus τ × Nat :=
  ({ nextId := bus.nextId + 1, listeners := bus.listeners ++ [⟨bus.nextId, kind, target⟩] },
    bus.nextId)

def isListening (bus : Bus τ) (id : Nat) : Bool :=
  bus.listeners.any (·.id = id)

/-- Removes a listener, and says whether there was one. -/
def unlisten (bus : Bus τ) (id : Nat) : Bus τ × Bool :=
  ({ bus with listeners := bus.listeners.filter (·.id ≠ id) }, bus.isListening id)

/-- The listeners to a kind of event, in the order they were added. -/
def listenersTo (bus : Bus τ) (kind : EventKind) : List (Listener τ) :=
  bus.listeners.filter (·.kind = kind)

/-- The kinds of events that are listened to, in the order of the listeners and
with repetitions. -/
def kinds (bus : Bus τ) : List EventKind :=
  bus.listeners.map (·.kind)

/-- Puts a kind into a list that is sorted by key and has no repetitions. -/
def insertKind (kind : EventKind) : List EventKind → List EventKind
  | [] => [kind]
  | first :: rest =>
    if kind.render < first.render then kind :: first :: rest
    else if kind = first then first :: rest
    else first :: insertKind kind rest

/-- The kinds of events that are listened to, sorted by key. -/
def listenedKinds (bus : Bus τ) : List EventKind :=
  bus.kinds.foldl (fun kinds kind => insertKind kind kinds) []

end Bus

end HomeRules
