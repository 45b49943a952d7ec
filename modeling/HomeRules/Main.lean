import HomeRules.Host.Running
import Std.Time.DateTime.Timestamp

/-! # The program

Reads files, lines and the clock for the command line, and prints what it answers.
All decisions are made elsewhere. -/

set_option autoImplicit false

namespace HomeRules.Program

/-! ## Files -/

def nanosecondsOf (time : IO.FS.SystemTime) : Nat :=
  time.sec.toNat * 1000000000 + time.nsec.toNat

/-- Adds what is at a path to a tree, if anything is there. -/
def addPath (tree : FileTree) (path : String) : IO FileTree := do
  match ← (IO.FS.realPath path).toBaseIO with
  | .error _ => return tree
  | .ok location => do
    let modified := nanosecondsOf (← location.metadata).modified
    match ← (IO.FS.readBinFile path).toBaseIO with
    | .ok bytes => return tree.put path ⟨.file bytes, modified⟩
    | .error _ => return tree.put path ⟨.directory, modified⟩

/-- The names in a directory. One that cannot be listed counts as empty. -/
def namesIn (directory : String) : IO (List String) := do
  match ← (IO.FS.realPath directory).toBaseIO with
  | .error _ => return []
  | .ok location =>
    match ← location.readDir.toBaseIO with
    | .error _ => return []
    | .ok entries => return entries.toList.map (·.fileName)

def readDirectory (directory : String) : IO FileTree := do
  (← namesIn directory).foldlM (fun tree name => addPath tree (Path.inside directory name)) {}

/-! ## Logs -/

/-- Opens the log file, after emptying one that has grown too large. -/
def openLog (home : Home) : IO IO.FS.Handle := do
  IO.FS.createDirAll home.logDirectory
  let size := (← (IO.FS.readBinFile home.logFile).toBaseIO).toOption.map (·.size)
  if keptBytes true size = some 0 then IO.FS.writeFile home.logFile ""
  IO.FS.Handle.mk home.logFile .append

/-- Prints lines on the standard error stream and into the log file, if there is one. -/
def printLog (log : Option IO.FS.Handle) (lines : List String) : IO Unit := do
  lines.forM fun line => IO.eprintln line
  if let some handle := log then
    lines.forM fun line => handle.putStrLn line
    handle.flush

/-! ## Running -/

/-- The lines that were read and not yet served, and whether there will be more. -/
structure Inbox where
  lines : List String := []
  isClosed : Bool := false

/-- Reads lines into the inbox until there are no more. -/
partial def readLines (input : IO.FS.Stream) (inbox : IO.Ref Inbox) : IO Unit := do
  let line ← input.getLine
  if line.isEmpty then inbox.modify fun inbox => { inbox with isClosed := true }
  else do
    inbox.modify fun inbox => { inbox with lines := inbox.lines ++ [line] }
    readLines input inbox

/-- The bound on the steps of the schedule between two looks at the clock. -/
def stepBudget : Nat := 1000000

/-- The hour of the day in universal time. -/
def currentHour : IO Nat := do
  let now ← Std.Time.Timestamp.now
  return (now.toSecondsSinceUnixEpoch.val.toNat / 3600) % 24

/-- Brings a host up to date with the directory, the hour and the clock. -/
def refresh (started : Nat) (host : Host) : IO Host := do
  let tree ← readDirectory host.reloading.directory
  let hour ← currentHour
  let elapsed := (← IO.monoMsNow) - started
  let step : Step Unit := do
    Host.tellHour hour
    Host.advanceTo elapsed stepBudget
  return (step.run { host with tree }).2

/-- Prints what a host has noted for its reader. -/
def report (log : Option IO.FS.Handle) (host : Host) : IO Host := do
  let (entries, host) := Host.takeJournal.run host
  printLog log (entries.filterMap fun entry => Host.logLine? entry.note)
  return host

/-- Serves lines until there are no more or the host has ended, and gives the error
it ended with. -/
partial def serve (log : Option IO.FS.Handle) (started : Nat) (inbox : IO.Ref Inbox)
    (host : Host) : IO (Option String) := do
  let host ← refresh started host
  let received ← inbox.modifyGet fun inbox => (inbox, { inbox with lines := [] })
  let (result, host) :=
    ((received.lines.forM (Host.serveLine stepBudget) : Run Unit).run).run host
  let host ← report log host
  match result with
  | .error failure => return some failure.text
  | .ok () =>
    if host.runner.point = .finished then
      return host.runner.outcome.map HostError.message
    else if received.isClosed then do
      let (outcome, host) := (Host.closeDown stepBudget).run host
      let _ ← report log host
      return outcome.map HostError.message
    else do
      IO.sleep 50
      serve log started inbox host

/-- Runs the host on the standard input stream. -/
def run (config : ScriptingConfig) (home : Home) (log : Option IO.FS.Handle) :
    IO (Option String) := do
  let started ← IO.monoMsNow
  let directory := config.directory home.dataDirectory
  let host := Host.ofConfig config home.dataDirectory (← readDirectory directory)
  let (_, host) := (Host.openUp stepBudget).run host
  let inbox ← IO.mkRef ({} : Inbox)
  let input ← IO.getStdin
  let _ ← IO.asTask (readLines input inbox) .dedicated
  serve log started inbox host

/-! ## The whole program -/

/-- Prints why the program ends, unless all went well, and gives the exit code. -/
def finish (status : ExitStatus) : IO UInt32 := do
  match status with
  | .success => pure ()
  | .failure text => IO.eprintln ("Error: " ++ text)
  | .misuse => IO.eprintln Arguments.usage
  return status.code.toUInt32

def perform (arguments : Arguments) : IO UInt32 := do
  let home := Home.ofDirectory ((← IO.getEnv "HOME").getD "")
  let tree ← addPath {} (arguments.config.getD home.configFile)
  match arguments.configure tree home with
  | .error text => finish (.failure text)
  | .ok config =>
    match arguments.subcommand with
    | some .run => do
      let log ←
        if arguments.logsToFile config then some <$> openLog home else pure none
      finish (.ofError (← run config.scripting home log))
    | _ => do
      let directory := config.scripting.directory home.dataDirectory
      let answer := checkScripts config.scripting (← readDirectory directory) home
      IO.print answer.output
      finish answer.status

end HomeRules.Program

def main (words : List String) : IO UInt32 :=
  match HomeRules.Arguments.read words with
  | some arguments => HomeRules.Program.perform arguments
  | none => HomeRules.Program.finish .misuse
