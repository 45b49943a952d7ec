import HomeRules.Host.Registry
import HomeRules.Host.Script

/-! # The journal

What happened in a host, in order, with the time of each entry. -/

set_option autoImplicit false

namespace HomeRules

inductive Note where
  | asked (probe : String)
  | ran (action : String)
  | shown (action : String) (payload : Payload)
  | began (job : String) (payload : Payload)
  | ended (job : String)
  | delivered (count : Nat)
  | stopped (timeouts : List StopTimeout)
  | warning (text : String)
  | information (text : String)
  | said (text : String)
  | settings (table : Toml.Table)
  | context (script : String) (generation : Generation) (handles : List Handle)
  | bound (count : Except HostError Nat)
  | spawned (task : Option String)
  | retracted (left : Nat)
  | requested
  | askedManager (answer : Except HostError Generation)

structure JournalEntry where
  time : Nat
  note : Note

/-- Entries, latest first. -/
abbrev Journal := List JournalEntry

end HomeRules
