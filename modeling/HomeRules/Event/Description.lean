import HomeRules.Event
import HomeRules.Text.Quoted
import HomeRules.Text.Split

/-! # Descriptions of payloads

The text in which a payload is shown to a reader. -/

set_option autoImplicit false

namespace HomeRules.Payload

def describeState : Option String → String
  | some name => "Some(" ++ Text.quoted name ++ ")"
  | Option.none => "None"

def describeData (data : Dictionary String) : String :=
  "\x7b" ++ Text.joined ", " (data.map fun (key, value) =>
    Text.quoted key ++ ": " ++ Text.quoted value) ++ "\x7d"

def describe : Payload → String
  | .none => "None"
  | .state entity old new =>
    "State \x7b entity_id: " ++ Text.quoted entity ++ ", old: " ++ describeState old ++
      ", new: " ++ describeState new ++ " \x7d"
  | .bus data => "Bus \x7b data: " ++ describeData data ++ " \x7d"
  | .tick sequence => "Tick \x7b sequence: " ++ Text.numeral sequence ++ " \x7d"

end HomeRules.Payload
