import HomeRules.Discovery

/-! # Scanning for changes

A scanner remembers the modification times of the script files in a directory.
Each scan reports the difference to the scan before it. -/

set_option autoImplicit false

namespace HomeRules

/-- The modification times of script files by name. -/
abbrev FileTimes := Dictionary Nat

structure ScanResult where
  changed : List (String × Nat)
  added : List String
  removed : List String
  deriving DecidableEq, Repr

def ScanResult.hasChanges (result : ScanResult) : Bool :=
  !result.changed.isEmpty || !result.added.isEmpty || !result.removed.isEmpty

/-- Watches the files of a directory that have one of several extensions. -/
structure Scanner where
  directory : String
  extensions : List String
  known : FileTimes
  deriving Inhabited

namespace Scanner

/-- Whether a scanner with these extensions watches a name. -/
def watches (extensions : List String) (name : String) : Bool :=
  !Path.isIgnored name && (Path.extension? name).any extensions.contains

/-- The times of the watched entries of a directory. -/
def timesIn (tree : FileTree) (directory : String) (extensions : List String) : FileTimes :=
  ((tree.listing directory).filter fun (name, _) => watches extensions name).map
    fun (name, entry) => (name, entry.modified)

/-- A scanner that knows what is there now. -/
def create (tree : FileTree) (directory : String) (extensions : List String) : Scanner where
  directory
  extensions
  known := timesIn tree directory extensions

def difference (old new : FileTimes) : ScanResult where
  changed := new.filter fun (name, time) =>
    match old.get? name with
    | some before => before != time
    | none => false
  added := Dictionary.keys (new.filter fun (name, _) => !old.contains name)
  removed := Dictionary.keys (old.filter fun (name, _) => !new.contains name)

/-- Compares the directory with the scan before, and remembers what is there now. -/
def scan (scanner : Scanner) (tree : FileTree) : Scanner × ScanResult :=
  let present := timesIn tree scanner.directory scanner.extensions
  ({ scanner with known := present }, difference scanner.known present)

end Scanner

end HomeRules
