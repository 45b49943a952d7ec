import HomeRules.Host.Script
import HomeRules.Vocabulary

/-! # What comes with the host

The conditions, the actions and the native scripts of the command line. Whether it
is night is a flag, which whoever knows the time of day keeps up to date. -/

set_option autoImplicit false

namespace HomeRules.Builtin

/-! ## Conditions and actions -/

def light : String := "light.living_room"

/-- Holds when a state change turned something on. -/
def turnedOn : Condition :=
  .leaf { name := "turned_on", arity := .unary, sensor := .newStateIs "on" }

/-- Holds when the light was last seen on. -/
def lightIsOn : Condition :=
  .leaf { name := "light_is_on", arity := .nullary, sensor := .entityIs light "on" }

def conditions : List Condition :=
  [.flag "is_night" "is_night", .flag "is_day" "is_day", turnedOn, lightIsOn]

/-- Says that the light is switched, and records it. -/
def switchLight (name words state : String) : Action :=
  .call name [.inform (words ++ " " ++ light), .setState light state]

def actions : List Action := [
  switchLight "turn_on_light" "Turning on" "on",
  switchLight "turn_off_light" "Turning off" "off",
  .call "log_event" [.describe]]

def vocabulary : Vocabulary :=
  .ofLists conditions actions

/-- Whether an hour of the day belongs to the night. -/
def isNightAt (hour : Nat) : Bool :=
  hour < 6 || 20 ≤ hour

/-! ## Native scripts -/

/-- A setting that is text, or what stands for it. -/
def textSetting (settings : Toml.Table) (key default : String) : String :=
  ((settings.get? key).bind Toml.Value.text?).getD default

def arrived : Condition :=
  .leaf { name := "arrived", arity := .unary, sensor := .newStateIs "home" }

def presenceDraft (entity greeting : String) : EventDraft := [{
  key := "state:" ++ entity
  body := (ConditionDraft.conditions.when arrived
      (.one (.call "greet" [.inform greeting]))).when arrived.not
    (.one (.call "note_departure" [.inform (entity ++ " left")])) }]

/-- Tells when a person comes home or leaves. -/
def presenceLogger : NativeScript where
  name := "presence_logger"
  description := "Logs when a person entity comes home or leaves"
  onLoad settings :=
    let entity := textSetting settings "entity" "person.me"
    let greeting := textSetting settings "greeting" "welcome home"
    [.register false (.ok (presenceDraft entity greeting)),
      .spawn false "heartbeat" { ending := .never }]

def scripts : ScriptShelf :=
  [(presenceLogger.name, presenceLogger)]

end HomeRules.Builtin
