import HomeRules.Directory
import HomeRules.Failure
import HomeRules.RuleFile.Reading
import HomeRules.Schema.Error

/-! # Errors of the host

What can go wrong in the host itself and while a script is loaded, and the report
of work that did not stop in time. -/

set_option autoImplicit false

namespace HomeRules

/-- The number of a load cycle. The number before any script has loaded is zero. -/
abbrev Generation := Nat

def generationText (generation : Generation) : String :=
  "gen#" ++ Text.numeral generation

/-- Work that was still running when the host gave up waiting for it. -/
structure StopTimeout where
  task : String
  generation : Generation
  grace : Duration
  deriving DecidableEq, Repr, Inhabited

/-- The wording of work that did not stop. -/
def StopTimeout.message (timeout : StopTimeout) : String :=
  "'" ++ timeout.task ++ "' (" ++ generationText timeout.generation ++
    ") did not stop within " ++ timeout.grace.exact ++ "; detached"

inductive HostError where
  | staleGeneration (generation : Generation)
  | wrongManager (manager : ManagerKind) (kind : EventKind)
  | shutDown
  /-- Managers of one generation were alive when those of another were needed. -/
  | uncleared (live wanted : Generation)
  | schema (cause : SchemaError)
  deriving DecidableEq, Repr

namespace HostError

/-- Whether an error breaks every later cycle. -/
def isFatal : HostError → Bool
  | .uncleared _ _ => true
  | _ => false

/-- The messages of an error and its causes, outermost first. -/
def chain : HostError → List String
  | .staleGeneration generation =>
    [generationText generation ++ " is no longer the current generation"]
  | .wrongManager manager kind =>
    [manager.name ++ " manager cannot serve event '" ++ kind.render ++ "'"]
  | .shutDown => ["the script host has been shut down"]
  | .uncleared live wanted =>
    ["reload bookkeeping failed: managers of " ++ generationText live ++
      " were not cleared before " ++ generationText wanted]
  | .schema cause => cause.chain

def message (error : HostError) : String :=
  error.chain.headD ""

end HostError

inductive LoadError where
  | unreadable (file : String) (cause : FileError)
  | unparsable (file : String) (cause : ReadingError)
  | schema (script : String) (cause : SchemaError)
  | unknownScript (script factory : String)
  | failed (script message : String)
  | panicked (script message : String)
  | host (script : String) (cause : HostError)
  deriving DecidableEq, Repr

namespace LoadError

/-- The script an error belongs to, where it is known. -/
def script? : LoadError → Option String
  | .unreadable _ _ => none
  | .unparsable _ _ => none
  | .schema script _ => some script
  | .unknownScript script _ => some script
  | .failed script _ => some script
  | .panicked script _ => some script
  | .host script _ => some script

/-- The messages of an error and its causes, outermost first. The problem of a
file that is not a rule file is left out. -/
def chain : LoadError → List String
  | .unreadable file cause =>
    ["failed to read " ++ file ++ ": " ++ cause.message, cause.message]
  | .unparsable file _ => ["failed to parse " ++ file]
  | .schema script cause =>
    ("script '" ++ script ++ "' has invalid rules: " ++ cause.message) :: cause.chain
  | .unknownScript script factory =>
    ["script '" ++ script ++ "' asked for unknown native script '" ++ factory ++ "'"]
  | .failed script message => ["script '" ++ script ++ "' failed to load: " ++ message]
  | .panicked script message =>
    ["script '" ++ script ++ "' panicked while loading: " ++ message]
  | .host script cause =>
    ("script '" ++ script ++ "' could not register: " ++ cause.message) :: cause.chain

def message (error : LoadError) : String :=
  error.chain.headD ""

/-- The error of the host behind an error, if it breaks every later cycle. -/
def fatal? : LoadError → Option HostError
  | .host _ cause => if cause.isFatal then some cause else none
  | _ => none

end LoadError

end HomeRules
