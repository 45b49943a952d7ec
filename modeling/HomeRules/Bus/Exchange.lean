import HomeRules.Bus
import HomeRules.Bus.Tap

/-! # Exchanges

A bus whose listeners record what they hear and may then change the table or
publish themselves. A publish goes to the listeners that were in the table when
it began; afterwards the event is sent to the taps. -/

set_option autoImplicit false

namespace HomeRules

/-- What a listener does after it has recorded an event. -/
inductive Reaction where
  | unlistenSelf
  | unlisten (id : Nat)
  | listen (name : String) (kind : EventKind) (reactions : List Reaction)
  | publish (event : Event)
  deriving Repr, Inhabited

structure Reactor where
  name : String
  reactions : List Reaction := []
  deriving Repr, Inhabited

structure Hearing where
  listener : Nat
  name : String
  event : Event
  deriving Repr, Inhabited

/-- A bus, its channel, and what was heard, latest first. -/
structure Exchange where
  bus : Bus Reactor := {}
  channel : Channel
  heard : List Hearing := []
  deriving Inhabited

namespace Exchange

def react (publish : Event → Exchange → Option Exchange) (self : Nat) (exchange : Exchange) :
    Reaction → Option Exchange
  | .unlistenSelf => some { exchange with bus := (exchange.bus.unlisten self).1 }
  | .unlisten id => some { exchange with bus := (exchange.bus.unlisten id).1 }
  | .listen name kind reactions =>
    some { exchange with bus := (exchange.bus.listen kind ⟨name, reactions⟩).1 }
  | .publish event => publish event exchange

def deliver (publish : Event → Exchange → Option Exchange) (event : Event)
    (exchange : Exchange) (listener : Listener Reactor) : Option Exchange :=
  let heard := ⟨listener.id, listener.target.name, event⟩ :: exchange.heard
  listener.target.reactions.foldlM (react publish listener.id) { exchange with heard }

/-- Publishes an event. Publishes may nest less deep than the first argument says;
deeper ones have no outcome. -/
def publish : Nat → Event → Exchange → Option Exchange
  | 0, _, _ => none
  | depth + 1, event, exchange => do
    let exchange ←
      (exchange.bus.listenersTo event.kind).foldlM (deliver (publish depth) event) exchange
    return { exchange with channel := exchange.channel.send event }

end Exchange

end HomeRules
