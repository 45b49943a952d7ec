import HomeRules.CommandLine
import HomeRules.Host.Lines
import HomeRules.Host.Schedule

/-! # Running on lines

The `run` command: a host that loads its scripts, receives lines until there are no
more, and shuts down. -/

set_option autoImplicit false

namespace HomeRules.Host

def ofConfig (config : ScriptingConfig) (dataDirectory : String) (tree : FileTree) : Host :=
  create config dataDirectory tree Builtin.vocabulary Builtin.scripts

/-- Keeps the flags for night and day up to date. -/
def tellHour (hour : Nat) : Step Unit :=
  changeWorld fun world =>
    (world.setFlag "is_night" (Builtin.isNightAt hour)).setFlag "is_day"
      !(Builtin.isNightAt hour)

/-- Loads the scripts and begins to serve. -/
def openUp (budget : Nat) : Step Unit := do
  startRunner
  settle budget

/-- Receives a line, and warns about one that carries no readable event. -/
def takeLine (line : String) : Run Unit := do
  match ← receive line with
  | .error error => warn error.message
  | .ok _ => pure ()

/-- Receives a line, then lets everything that can go on do so. -/
def serveLine (budget : Nat) (line : String) : Run Unit := do
  takeLine line
  settle budget

/-- Shuts down, and gives the error of the runner if there was one. -/
def closeDown (budget : Nat) : Step (Option HostError) := do
  requestStop
  awaitRunner budget
  return (← get).runner.outcome

/-- The line of a log for a note that is meant for a reader. -/
def logLine? : Note → Option String
  | .warning text => some ("WARN " ++ text)
  | .information text => some ("INFO " ++ text)
  | _ => none

/-- Runs on lines that all come at once. -/
def runOn (budget : Nat) (lines : List String) : Run (Option HostError) := do
  openUp budget
  lines.forM (serveLine budget)
  closeDown budget

end HomeRules.Host

namespace HomeRules

/-- What `run` answers to lines that all come at once. -/
def runScripts (budget : Nat) (config : ScriptingConfig) (tree : FileTree) (home : Home)
    (lines : List String) : Answer :=
  let host := Host.ofConfig config home.dataDirectory tree
  match (((Host.runOn budget lines).run).run host).1 with
  | .ok outcome => { status := .ofError (outcome.map HostError.message) }
  | .error failure => { status := .failure failure.text }

namespace Arguments

/-- What the arguments bring about, when `lines` is all the program reads. -/
def answer (budget : Nat) (arguments : Arguments) (tree : FileTree) (home : Home)
    (lines : List String) : Answer :=
  match arguments.configure tree home with
  | .error error => { status := .failure error }
  | .ok config =>
    match arguments.subcommand with
    | some .run => runScripts budget config.scripting tree home lines
    | _ => checkScripts config.scripting tree home

/-- The bytes of a log file that are still in it after the arguments were followed. -/
def keptLog (arguments : Arguments) (tree : FileTree) (home : Home) (size : Option Nat) :
    Option Nat :=
  match arguments.configure tree home with
  | .error _ => size
  | .ok config => keptBytes (arguments.logsToFile config) size

end Arguments

/-- What the program answers to words, when `lines` is all it reads. -/
def respond (budget : Nat) (words : List String) (tree : FileTree) (home : Home)
    (lines : List String) : Answer :=
  match Arguments.read words with
  | none => { status := .misuse }
  | some arguments => arguments.answer budget tree home lines

/-- The bytes of a log file that are still in it when the program has ended. -/
def remainingLog (words : List String) (tree : FileTree) (home : Home) (size : Option Nat) :
    Option Nat :=
  match Arguments.read words with
  | none => size
  | some arguments => arguments.keptLog tree home size

end HomeRules
