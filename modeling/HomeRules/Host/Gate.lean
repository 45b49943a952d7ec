/-! # Gates

Admission to one manager. A gate is pending until it is opened, admits dispatches
while it is open, and stays closed once it is closed. It counts the dispatches it
has admitted that have not left. -/

set_option autoImplicit false

namespace HomeRules

/-- Whether a gate admits dispatches, will, or never again will. -/
inductive GatePhase where
  | pending
  | opened
  | closed
  deriving DecidableEq, Repr, Inhabited

/-- A gate: its phase, and the number of dispatches inside. -/
structure Gate where
  phase : GatePhase := .pending
  inFlight : Nat := 0
  deriving DecidableEq, Repr, Inhabited

namespace Gate

def opening (gate : Gate) : Gate :=
  match gate.phase with
  | .pending => { gate with phase := .opened }
  | _ => gate

def isOpen (gate : Gate) : Bool :=
  gate.phase = .opened

def isClosed (gate : Gate) : Bool :=
  gate.phase = .closed

/-- Admits one dispatch, if the gate is open. -/
def enter? (gate : Gate) : Option Gate :=
  match gate.phase with
  | .opened => some { gate with inFlight := gate.inFlight + 1 }
  | _ => none

def leave (gate : Gate) : Gate :=
  { gate with inFlight := gate.inFlight - 1 }

/-- Closes a gate. The dispatches that are still inside stay counted. -/
def closing (gate : Gate) : Gate :=
  { gate with phase := .closed }

end Gate

end HomeRules
