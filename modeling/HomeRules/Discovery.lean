import HomeRules.Directory
import HomeRules.Toml.Value

/-! # Discovering scripts

The files of a directory that are scripts: not ignored, of an accepted extension,
and not disabled by the configuration of the script. -/

set_option autoImplicit false

namespace HomeRules

/-- Values under the ids of scripts. -/
abbrev ScriptConfig := Dictionary Toml.Value

def ruleExtension : String := "toml"

/-- Whether a path has the extension of rule files. -/
def isRuleFile (path : String) : Bool :=
  Path.extension? path = some ruleExtension

def scriptId (path : String) : String :=
  Path.stem path

/-- The boolean `enabled` in the configuration of a script, which counts as true
where it is missing. -/
def isEnabled (config : ScriptConfig) (id : String) : Bool :=
  ((((config.get? id).bind Toml.Value.table?).bind (·.get? "enabled")).bind
    Toml.Value.boolean?).getD true

/-- Whether an entry of a directory is a script. -/
def isScript (config : ScriptConfig) (name : String) (entry : FileEntry) : Bool :=
  match entry.contents with
  | .directory => false
  | .file _ => !Path.isIgnored name && isRuleFile name && isEnabled config (scriptId name)

/-- The names of the scripts in a directory, in order. -/
def discover (tree : FileTree) (directory : String) (config : ScriptConfig) : List String :=
  Dictionary.keys ((tree.listing directory).filter fun (name, entry) => isScript config name entry)

end HomeRules
