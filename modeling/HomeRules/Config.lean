import HomeRules.Discovery
import HomeRules.Duration
import HomeRules.Toml.Decode
import HomeRules.Toml.Grammar
import HomeRules.Toml.Writer

/-! # Configuration

The configuration of a host, read from TOML and written back. Unknown fields are
ignored, and every field has a default. -/

set_option autoImplicit false

namespace HomeRules

structure ScriptingConfig where
  enabled : Bool := true
  scriptDirectory : Option String := none
  config : ScriptConfig := []
  hotReload : Bool := true
  hotReloadInterval : Nat := 1000
  stopGrace : Nat := 2000
  reloadDebounce : Nat := 250
  deriving BEq, Inhabited

structure HostConfig where
  scripting : ScriptingConfig := {}
  logToFile : Bool := false
  deriving BEq, Inhabited

open Toml

def scriptingFields : List (RecordField ScriptingConfig) := [
  { name := "enabled", defaulted := true
    store := fun value config => (decodeBoolean value).map ({ config with enabled := · }) },
  { name := "script_dir", defaulted := true
    store := fun value config =>
      (decodeString value).map ({ config with scriptDirectory := some · }) },
  { name := "config", defaulted := true
    store := fun value config =>
      (decodeTable decodeAny value).map fun table => { config with config := table } },
  { name := "hot_reload", defaulted := true
    store := fun value config => (decodeBoolean value).map ({ config with hotReload := · }) },
  { name := "hot_reload_interval_ms", defaulted := true
    store := fun value config =>
      (decodeNatural value).map ({ config with hotReloadInterval := · }) },
  { name := "stop_grace_ms", defaulted := true
    store := fun value config => (decodeNatural value).map ({ config with stopGrace := · }) },
  { name := "reload_debounce_ms", defaulted := true
    store := fun value config =>
      (decodeNatural value).map ({ config with reloadDebounce := · }) }]

def hostFields : List (RecordField HostConfig) := [
  { name := "scripting", defaulted := true
    store := fun value config =>
      (decodeRecord scriptingFields false {} value).map ({ config with scripting := · }) },
  { name := "log_to_file", defaulted := true
    store := fun value config => (decodeBoolean value).map ({ config with logToFile := · }) }]

inductive ConfigError where
  | notFound
  | unreadable (cause : FileError)
  | malformed
  deriving DecidableEq, Repr

/-- The wording of a configuration that cannot be had from a path. -/
def ConfigError.message (path : String) : ConfigError → String
  | .notFound => "config file not found: " ++ path
  | .unreadable cause => "IO error on " ++ path ++ ": " ++ cause.message
  | .malformed => "failed to parse " ++ path

/-- Reads a scripting configuration on its own. -/
def ScriptingConfig.read? (text : String) : Option ScriptingConfig := do
  let entries ← parse? text
  (decodeRecord scriptingFields false {} (.table entries)).toOption

/-- Reads the configuration of scripts on its own. -/
def readScriptConfig? (text : String) : Option ScriptConfig := do
  let entries ← parse? text
  (decodeTable decodeAny (.table entries)).toOption

def HostConfig.read (text : String) : Except ConfigError HostConfig :=
  match parse? text with
  | none => .error .malformed
  | some entries =>
    (decodeRecord hostFields false {} (.table entries)).mapError fun _ => .malformed

def HostConfig.load (tree : FileTree) (path : String) : Except ConfigError HostConfig :=
  match tree.read path with
  | .ok text => HostConfig.read text
  | .error .missing => .error .notFound
  | .error cause => .error (.unreadable cause)

namespace ScriptingConfig

/-- The entries of a scripting configuration in the order of its fields. -/
def entries (config : ScriptingConfig) : List (String × Value) :=
  [("enabled", .boolean config.enabled)] ++
    (config.scriptDirectory.toList.map fun path => ("script_dir", .string path)) ++
    [("config", .table config.config),
      ("hot_reload", .boolean config.hotReload),
      ("hot_reload_interval_ms", .integer config.hotReloadInterval),
      ("stop_grace_ms", .integer config.stopGrace),
      ("reload_debounce_ms", .integer config.reloadDebounce)]

/-- The directory of the scripts, inside the data directory unless it is given. -/
def directory (config : ScriptingConfig) (dataDirectory : String) : String :=
  config.scriptDirectory.getD (Path.inside dataDirectory "scripts")

end ScriptingConfig

def HostConfig.render (config : HostConfig) : String :=
  write [("scripting", .table config.scripting.entries), ("log_to_file", .boolean config.logToFile)]

/-- Whether a configuration is equal to itself, which fails for numbers that are
none. -/
def HostConfig.isReflexive (config : HostConfig) : Bool :=
  Value.entriesReflexive config.scripting.config

/-- Whether reading what was written gives an equal configuration. -/
def HostConfig.survivesSaving (config : HostConfig) : Bool :=
  match HostConfig.read config.render with
  | .ok again => config.isReflexive && again == config
  | .error _ => false

end HomeRules
