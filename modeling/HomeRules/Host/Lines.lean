import HomeRules.Event.Line
import HomeRules.Host.Dispatch

/-! # Receiving event lines

An event that arrives as a line of text is recorded in the world before it is
published, so that conditions see the state it carries. -/

set_option autoImplicit false

namespace HomeRules.Host

/-- Receives a line, and gives the number of listeners its event reached. -/
def receive (line : String) : Run (Except LineError (Option Nat)) := do
  match Event.ofLine line with
  | .error error => return .error error
  | .ok none => return .ok none
  | .ok (some event) => do
    changeWorld (·.observe event.payload)
    let count ← publish event
    return .ok (some count)

end HomeRules.Host
