import HomeRules.Event.Key

/-! # Event lines

One line of text per event: `state <entity> <old> <new>`, `bus <name> [key=value ...]`
or a bare name. Blank lines and lines that begin with `#` carry no event. -/

set_option autoImplicit false

namespace HomeRules

inductive LineError where
  | stateUsage
  | busUsage
  | notAPair (word : String)
  | unknownCommand (word : String)
  | badKey (subject : String) (cause : KeyError)
  deriving DecidableEq, Repr

def LineError.message : LineError → String
  | .stateUsage => "usage: state <entity_id> <old> <new>"
  | .busUsage => "usage: bus <name> [key=value ...]"
  | .notAPair word => "expected key=value, found '" ++ word ++ "'"
  | .unknownCommand word => "unknown command '" ++ word ++ "'"
  | .badKey subject cause => subject ++ ": " ++ cause.message

namespace Event

/-- A state as a line names it; a lone `-` stands for no state. -/
def stateOfWord (word : List Char) : Option String :=
  if word = ['-'] then none else some (String.ofList word)

/-- The data of words of the form `key=value`, added to `data`. -/
def dataOfWords : Dictionary String → List (List Char) → Except LineError (Dictionary String)
  | data, [] => .ok data
  | data, word :: rest =>
    match Text.cutAt '=' word with
    | some (key, value) =>
      dataOfWords (data.insert (String.ofList key) (String.ofList value)) rest
    | none => .error (.notAPair (String.ofList word))

/-- A bus event whose name is checked as an event key. -/
def busOfWord (name : List Char) (data : Dictionary String) : Except LineError Event :=
  match EventKind.ofChars (Text.trim name) with
  | .ok _ => .ok ⟨.bus (String.ofList name), .bus data⟩
  | .error cause => .error (.badKey (String.ofList name) cause)

/-- The state change a `state` line describes after its first word. -/
def stateOfWords : List (List Char) → Except LineError Event
  | [entity, old, new] =>
    match EventKind.ofChars (Text.trim ("state:".toList ++ entity)) with
    | .ok _ =>
      let name := String.ofList entity
      .ok ⟨.stateChanged name, .state name (stateOfWord old) (stateOfWord new)⟩
    | .error cause => .error (.badKey (String.ofList entity) cause)
  | _ => .error .stateUsage

/-- The event of a line that has been cut into words. -/
def ofWords : List (List Char) → Except LineError (Option Event)
  | [] => .ok none
  | first :: rest =>
    if first.head? = some '#' then .ok none
    else if first = "state".toList then (stateOfWords rest).map some
    else if first = "bus".toList then
      match rest with
      | [] => .error .busUsage
      | name :: pairs => do
        let data ← dataOfWords [] pairs
        let event ← busOfWord name data
        return some event
    else
      match rest with
      | [] => (busOfWord first []).map some
      | _ :: _ => .error (.unknownCommand (String.ofList first))

def ofLine (line : String) : Except LineError (Option Event) :=
  ofWords (Text.words line.toList)

end Event

end HomeRules
