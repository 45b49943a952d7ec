import HomeRules.Builtin
import HomeRules.Check
import HomeRules.Config

/-! # The command line

What the arguments ask for, which configuration applies, and what the check
answers. `check` reads every script and reports problems; `run` loads the scripts
and publishes the events it reads. -/

set_option autoImplicit false

namespace HomeRules

def programName : String := "homescript"

/-! ## Arguments -/

inductive Subcommand where
  | run
  | check
  deriving DecidableEq, Repr

def Subcommand.ofName? : String → Option Subcommand
  | "run" => some .run
  | "check" => some .check
  | _ => none

/-- The arguments of the program. The configuration may be named anywhere, the
other options follow the subcommand, and only `run` has a log file. -/
structure Arguments where
  subcommand : Option Subcommand := none
  config : Option String := none
  scriptDirectory : Option String := none
  logFile : Bool := false
  deriving DecidableEq, Repr

namespace Arguments

/-- Whether a word can be the value of an option. A word that begins with a hyphen
is an option itself, unless it is nothing else. -/
def isValue (word : String) : Bool :=
  match word.toList with
  | [] => false
  | ['-'] => true
  | c :: _ => c != '-'

/-- Adds arguments in order. There is no result when one of them has no place. -/
def add (arguments : Arguments) : List String → Option Arguments
  | [] => some arguments
  | [word] =>
    match Subcommand.ofName? word with
    | some subcommand =>
      if arguments.subcommand.isNone then some { arguments with subcommand := some subcommand }
      else none
    | none =>
      if word = "--log-file" && arguments.subcommand = some .run then
        some { arguments with logFile := true }
      else none
  | word :: value :: rest =>
    if (word = "--config" || word = "-c") && isValue value then
      add { arguments with config := some value } rest
    else if word = "--script-dir" && arguments.subcommand.isSome && isValue value then
      add { arguments with scriptDirectory := some value } rest
    else (arguments.add [word]).bind fun arguments => arguments.add (value :: rest)
termination_by words => words.length

/-- Reads the arguments, among which there must be a subcommand. -/
def read (words : List String) : Option Arguments :=
  (add {} words).filter (·.subcommand.isSome)

def usage : String :=
  "usage: " ++ programName ++
    " [--config <file>] (run [--script-dir <dir>] [--log-file] | check [--script-dir <dir>])"

end Arguments

/-! ## Configuration -/

/-- Where the files of a user are. -/
structure Home where
  configFile : String
  dataDirectory : String
  logDirectory : String
  logFile : String
  deriving DecidableEq, Repr

def Home.ofDirectory (directory : String) : Home :=
  let data := Path.inside directory (".local/share/" ++ programName)
  let logs := Path.inside data "logs"
  { configFile := Path.inside directory (".config/" ++ programName ++ "/config.toml")
    dataDirectory := data
    logDirectory := logs
    logFile := Path.inside logs (programName ++ ".log") }

namespace Arguments

/-- The configuration that applies: the one that was named, or the one of the user.
A user without one has the default. A script directory that was given replaces the
configured one. -/
def configure (arguments : Arguments) (tree : FileTree) (home : Home) :
    Except String HostConfig := do
  let path := arguments.config.getD home.configFile
  let config ←
    match HostConfig.load tree path with
    | .error .notFound =>
      if arguments.config.isNone then .ok {} else .error (ConfigError.notFound.message path)
    | result => result.mapError (ConfigError.message path)
  return { config with
    scripting := { config.scripting with
      scriptDirectory := arguments.scriptDirectory <|> config.scripting.scriptDirectory } }

/-- Whether the program logs to a file, which only `run` does. -/
def logsToFile (arguments : Arguments) (config : HostConfig) : Bool :=
  arguments.subcommand = some .run && (arguments.logFile || config.logToFile)

end Arguments

/-! ## Logs -/

/-- The size up to which a log file is kept. -/
def maxLogSize : Nat := 1024 * 1024

/-- The bytes of a log file that are still in it after logging was set up, if there
is a log file then. -/
def keptBytes (logging : Bool) (size : Option Nat) : Option Nat :=
  if logging then some ((size.filter (· ≤ maxLogSize)).getD 0) else size

/-! ## Answers -/

inductive ExitStatus where
  | success
  | failure (error : String)
  /-- The arguments ask for nothing the program can do. -/
  | misuse
  deriving DecidableEq, Repr

namespace ExitStatus

/-- The status of a command that may have failed. -/
def ofError : Option String → ExitStatus
  | none => .success
  | some error => .failure error

def code : ExitStatus → Nat
  | .success => 0
  | .failure _ => 1
  | .misuse => 2

/-- The error a command has failed with. -/
def error? : ExitStatus → Option String
  | .failure error => some error
  | _ => none

end ExitStatus

/-- What the program prints, message by message, and how it ends. -/
structure Answer where
  messages : List String := []
  status : ExitStatus := .success
  deriving DecidableEq, Repr

/-- The text that is printed. A line feed follows each message. -/
def Answer.output (answer : Answer) : String :=
  String.join (answer.messages.map (· ++ "\n"))

def checkScripts (config : ScriptingConfig) (tree : FileTree) (home : Home) : Answer :=
  let report := checkDirectory tree (config.directory home.dataDirectory) config.config
    Builtin.vocabulary Builtin.scripts
  { messages := report.lines
    status :=
      if report.failures = 0 then .success
      else .failure (Text.numeral report.failures ++ " script(s) failed to check") }

end HomeRules
