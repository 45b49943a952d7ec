import HomeRules.Discovery
import HomeRules.Host.Error
import HomeRules.RuleFile.Resolution

/-! # Script sources

Script files as text, and the rules in them. -/

set_option autoImplicit false

namespace HomeRules

/-- A script file as text, with the id of the script. -/
structure ScriptSource where
  id : String
  path : String
  text : String
  deriving Repr, Inhabited

namespace ScriptSource

def read (tree : FileTree) (path : String) : Except LoadError ScriptSource :=
  match tree.read path with
  | .ok text => .ok { id := scriptId path, path, text }
  | .error cause => .error (.unreadable path cause)

/-- The rules of a script, with their names looked up. -/
def rules (source : ScriptSource) (vocabulary : Vocabulary) : Except LoadError ResolvedRules :=
  match RuleFile.read source.text with
  | .error cause => .error (.unparsable source.path cause)
  | .ok file => (file.resolve vocabulary).mapError (.schema source.id)

end ScriptSource

end HomeRules
