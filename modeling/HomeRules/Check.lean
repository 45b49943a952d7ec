import HomeRules.Host.Script
import HomeRules.Host.Source
import HomeRules.Schema.Build
import HomeRules.Schema.Layout

/-! # Checking scripts

Reads every script of a directory without running anything, and tells what each
would do or what is wrong with it. -/

set_option autoImplicit false

namespace HomeRules

/-- Why a script does not pass the check. -/
inductive CheckError where
  | load (cause : LoadError)
  | unknownScript (name : String)
  | schema (cause : SchemaError)
  deriving DecidableEq, Repr

/-- The wording of a failed check, with all causes. -/
def CheckError.message : CheckError → String
  | .load cause => Text.joined ": " cause.chain
  | .unknownScript name => "unknown native script '" ++ name ++ "'"
  | .schema cause => Text.joined ": " cause.chain

/-- What a script that passes would do: the native script it names, and its schema. -/
structure CheckedScript where
  script : Option String
  schema : EventSchema
  deriving Repr, Inhabited

/-- Checks a script source. The native script is looked up before the schema is
built. -/
def ScriptSource.check (source : ScriptSource) (vocabulary : Vocabulary) (shelf : ScriptShelf) :
    Except CheckError CheckedScript := do
  let rules ← (source.rules vocabulary).mapError CheckError.load
  match rules.script with
  | some name =>
    if shelf.contains name then pure () else throw (.unknownScript name)
  | none => pure ()
  let schema ← (EventDraft.build rules.draft).mapError CheckError.schema
  return { script := rules.script, schema }

def checkFile (tree : FileTree) (vocabulary : Vocabulary) (shelf : ScriptShelf) (path : String) :
    Except CheckError CheckedScript := do
  let source ← (ScriptSource.read tree path).mapError CheckError.load
  source.check vocabulary shelf

/-- The lines that tell what a checked script would do. -/
def CheckedScript.lines (path : String) (checked : CheckedScript) : List String :=
  ["ok      " ++ path] ++
    checked.script.toList.map (fun name => "  native script: " ++ name) ++
    (Text.linesOf checked.schema.layout.toList).map fun line => "  " ++ String.ofList line

/-- The lines that tell the result of a check. -/
def checkLines (path : String) : Except CheckError CheckedScript → List String
  | .ok checked => checked.lines path
  | .error error => ["error   " ++ path ++ ": " ++ error.message]

/-- What a check of a whole directory prints, and how many scripts did not pass. -/
structure CheckReport where
  lines : List String
  failures : Nat
  deriving DecidableEq, Repr

def checkDirectory (tree : FileTree) (directory : String) (config : ScriptConfig)
    (vocabulary : Vocabulary) (shelf : ScriptShelf) : CheckReport :=
  let results := (discover tree directory config).map fun name =>
    let path := Path.inside directory name
    (path, checkFile tree vocabulary shelf path)
  if results.isEmpty then
    { lines := ["No scripts found in " ++ directory], failures := 0 }
  else {
    lines := results.flatMap fun (path, result) => checkLines path result
    failures := (results.filter fun (_, result) => !result.isOk).length }

end HomeRules
