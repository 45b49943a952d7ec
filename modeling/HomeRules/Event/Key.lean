import HomeRules.Event
import HomeRules.Text.Split

/-! # Event keys

The texts by which authors name kinds of events: `state:<domain>.<object>`,
`every:<duration>`, or the bare name of a bus event. -/

set_option autoImplicit false

namespace HomeRules

inductive KeyError where
  | empty
  | invalidEntity (text : String)
  | invalidInterval (text : String)
  | zeroInterval
  | invalidName (text : String)
  deriving DecidableEq, Repr

def KeyError.message : KeyError → String
  | .empty => "event key is empty"
  | .invalidEntity text =>
    "'" ++ text ++ "' is not a valid entity id (expected <domain>.<object>)"
  | .invalidInterval text =>
    "'" ++ text ++ "' is not a valid interval (expected e.g. 500ms, 5s, 2m, 1h)"
  | .zeroInterval => "interval must be greater than zero"
  | .invalidName text => "'" ++ text ++ "' contains characters not allowed in an event name"

namespace EventKind

/-- Characters of the two parts of an entity id: lower case letters, digits and
the underscore. -/
def isIdentifierChar (c : Char) : Bool :=
  ('a' ≤ c && c ≤ 'z') || Text.isDigit c || c == '_'

def isNameChar (c : Char) : Bool :=
  isIdentifierChar c || c == '.' || c == '-'

/-- Whether a text is one part of an entity id. -/
def isIdentifier (text : List Char) : Bool :=
  !text.isEmpty && text.all isIdentifierChar

/-- Whether a text is a domain and an object with a point between them. -/
def isEntityId (text : List Char) : Bool :=
  match Text.cutAt '.' text with
  | some (domain, object) => isIdentifier domain && isIdentifier object
  | none => false

/-- Reads an event key without blanks around it. -/
def ofChars (key : List Char) : Except KeyError EventKind :=
  if key.isEmpty then .error .empty
  else
    match Text.dropBeginning "state:".toList key with
    | some entity =>
      if isEntityId entity then .ok (.stateChanged (String.ofList entity))
      else .error (.invalidEntity (String.ofList entity))
    | none =>
      match Text.dropBeginning "every:".toList key with
      | some text =>
        match Duration.ofChars? (Text.trim text) with
        | none => .error (.invalidInterval (String.ofList text))
        | some period => if period.isZero then .error .zeroInterval else .ok (.interval period)
      | none =>
        if key.all isNameChar then .ok (.bus (String.ofList key))
        else .error (.invalidName (String.ofList key))

/-- Reads an event key. Blanks around it are ignored. -/
def parse (key : String) : Except KeyError EventKind :=
  ofChars (Text.trim key.toList)

end EventKind

end HomeRules
