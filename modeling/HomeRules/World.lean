import HomeRules.Event

/-! # What conditions read and actions write

The world outside the rules: named flags, and the last known state of every
entity. -/

set_option autoImplicit false

namespace HomeRules

structure World where
  flags : Dictionary Bool := []
  entities : Dictionary String := []
  deriving Inhabited

namespace World

/-- The value of a flag; an absent flag is down. -/
def flag (world : World) (name : String) : Bool :=
  (world.flags.get? name).getD false

def setFlag (world : World) (name : String) (value : Bool) : World :=
  { world with flags := world.flags.insert name value }

def setState (world : World) (entity state : String) : World :=
  { world with entities := world.entities.insert entity state }

/-- Records the new state a payload carries, if it is a state change with one. -/
def observe (world : World) : Payload → World
  | .state entity _ (some new) => world.setState entity new
  | _ => world

end World

end HomeRules
