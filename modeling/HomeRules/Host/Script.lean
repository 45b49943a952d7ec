import HomeRules.Action
import HomeRules.Schema.Draft
import HomeRules.Toml.Value

/-! # Native scripts

Scripts that come with the host. They are given as the steps they take when they
are loaded, which may depend on their settings, and when they are unloaded. -/

set_option autoImplicit false

namespace HomeRules

/-- A step of a script while it loads. What an announced one did is journalled. -/
inductive LoadStep where
  /-- Journals a text. -/
  | say (text : String)
  /-- Journals the settings. -/
  | showSettings
  /-- Journals what the script knows about itself. -/
  | showContext
  /-- Registers a schema; an error ends the load. -/
  | register (announced : Bool) (draft : Except SchemaError EventDraft)
  /-- Registers a schema and journals the result; only a draft that cannot be read
  ends the load. -/
  | tryRegister (draft : Except SchemaError EventDraft)
  | spawn (announced : Bool) (name : String) (job : Job)
  /-- Withdraws all that was registered and spawned so far. -/
  | retract
  /-- Requests a reload, at most so many times for all scripts of one name. -/
  | requestReload (times : Nat)
  | stopManagers
  | askManager (kind : ManagerKind)
  | publish (event : Event)
  | fail (failure : Failure)

/-- A step of a script while it is unloaded. -/
inductive UnloadStep where
  | say (text : String)
  | publish (event : Event)
  | askManager (kind : ManagerKind)
  | panic (message : Option String)
  deriving DecidableEq, Repr

/-- A script that comes with the host. -/
structure NativeScript where
  name : String
  description : String := ""
  onLoad : Toml.Table → List LoadStep
  onUnload : List UnloadStep := []

/-- The native scripts under the names rule files use. -/
abbrev ScriptShelf := Dictionary NativeScript

end HomeRules
