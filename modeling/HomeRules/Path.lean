import HomeRules.Text.Split

/-! # Paths

The parts of a path that name a script: the last component, its stem and its
extension. Empty components and `.` do not count, and `/` is the first component of
an absolute path. -/

set_option autoImplicit false

namespace HomeRules.Path

/-- The first component of an absolute path. -/
def root : String := "/"

/-- The component that leads out of a directory. -/
def parent : String := ".."

def isAbsolute (path : String) : Bool :=
  path.toList.head? = some '/'

/-- The components of a path, without empty ones and `.`. -/
def components (path : String) : List String :=
  let names := ((Text.splitAt '/' path.toList).filter fun part =>
    !part.isEmpty && part != ['.']).map String.ofList
  if isAbsolute path then root :: names else names

/-- The last component, unless it is missing or no name. -/
def fileName? (path : String) : Option String :=
  (components path).getLast?.filter fun name => name != parent && name != root

/-- The parts of a name before and after its last point. A point at the start does
not divide. -/
def divide (name : String) : String × Option String :=
  match Text.cutAt '.' name.toList.reverse with
  | some (after, before) =>
    if before.isEmpty then (name, none)
    else (String.ofList before.reverse, some (String.ofList after.reverse))
  | none => (name, none)

/-- The name without its extension. A path without a name has an empty stem. -/
def stem (path : String) : String :=
  ((fileName? path).map fun name => (divide name).1).getD ""

/-- The extension of the name. -/
def extension? (path : String) : Option String :=
  (fileName? path).bind fun name => (divide name).2

/-- A path inside a directory. An absolute path stands for itself. -/
def inside (directory name : String) : String :=
  if directory.isEmpty || isAbsolute name then name
  else if directory.toList.getLast? = some '/' then directory ++ name
  else directory ++ "/" ++ name

/-- Whether a path is left out wherever scripts are looked for: it has no name, is
hidden, or is the backup of an editor. -/
def isIgnored (path : String) : Bool :=
  match fileName? path with
  | none => true
  | some name => name.toList.head? = some '.' || name.toList.getLast? = some '~'

end HomeRules.Path
