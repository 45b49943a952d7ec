import HomeRules.Text.Split
import HomeRules.Toml.Scalar

/-! # Decoding TOML values

Records are read from tables field by field in the order of the document, and
the first problem wins: an unknown field where it stands, a missing one at the
end of its table. An array may give the fields of a record in their order. -/

set_option autoImplicit false

namespace HomeRules.Toml

/-- Why a value does not have the expected form. -/
inductive DecodeError where
  | missingField (name : String)
  | unknownField (name : String) (expected : List String)
  | mismatch
  deriving DecidableEq, Repr

def quotedName (name : String) : String :=
  "\x60" ++ name ++ "\x60"

/-- The names a message offers instead of an unknown one. -/
def alternatives : List String → String
  | [] => "there are no fields"
  | [one] => "expected " ++ quotedName one
  | [one, other] => "expected " ++ quotedName one ++ " or " ++ quotedName other
  | names => "expected one of " ++ Text.joined ", " (names.map quotedName)

/-- The wording of a problem with the fields of a record. A value of the wrong
sort has none of its own. -/
def DecodeError.detail : DecodeError → Option String
  | .missingField name => some ("missing field " ++ quotedName name)
  | .unknownField name expected =>
    some ("unknown field " ++ quotedName name ++ ", " ++ alternatives expected)
  | .mismatch => none

def decodeString : Value → Except DecodeError String
  | .string text => .ok text
  | _ => .error .mismatch

def decodeBoolean : Value → Except DecodeError Bool
  | .boolean value => .ok value
  | _ => .error .mismatch

def decodeNatural : Value → Except DecodeError Nat
  | .integer (.ofNat value) => .ok value
  | _ => .error .mismatch

/-- Reads an array whose items are read by `item`. -/
def decodeList {α : Type} (item : Value → Except DecodeError α) :
    Value → Except DecodeError (List α)
  | .array items => items.mapM item
  | _ => .error .mismatch

/-! ## Any value -/

/-- The key under which a date or time appears where a table is expected. -/
def datetimeKey : String := "$__toml_private_datetime"

/-- Reads a string that is all of a date or time. -/
def decodeDatetime : Value → Except DecodeError Value
  | .string text =>
    match datetime? text.toList with
    | some (value, []) => .ok value
    | _ => .error .mismatch
  | _ => .error .mismatch

mutual

/-- Reads any value, with the keys of its tables in order. A table that begins with
`datetimeKey` is the date or time under that key, whatever else is in it. -/
def decodeAny : Value → Except DecodeError Value
  | .array items => (decodeItems items).map .array
  | .table [] => .ok (.table [])
  | .table ((key, value) :: rest) =>
    if key = datetimeKey then decodeDatetime value
    else do
      let value ← decodeAny value
      let table ← decodeEntries rest
      return .table (table.insert key value)
  | value => .ok value

def decodeItems : List Value → Except DecodeError (List Value)
  | [] => .ok []
  | item :: rest => do
    let item ← decodeAny item
    return item :: (← decodeItems rest)

def decodeEntries : List (String × Value) → Except DecodeError Table
  | [] => .ok []
  | (key, value) :: rest => do
    let value ← decodeAny value
    let table ← decodeEntries rest
    return table.insert key value

end

/-! ## Tables -/

/-- The entries of a value that can stand for a table. -/
def entriesOf? : Value → Option (List (String × Value))
  | .table entries => some entries
  | .datetime text => some [(datetimeKey, .string text)]
  | _ => none

/-- Reads a table whose values are read by `item`. -/
def decodeTable {α : Type} (item : Value → Except DecodeError α) (value : Value) :
    Except DecodeError (Dictionary α) :=
  match entriesOf? value with
  | some entries =>
    entries.foldlM
      (fun table (key, value) => (item value).map fun decoded => table.insert key decoded) []
  | none => .error .mismatch

/-! ## Records -/

/-- A field of a record of type `α`: how its value is stored, whether a table must
have it, and whether an array may end before it. -/
structure RecordField (α : Type) where
  name : String
  store : Value → α → Except DecodeError α
  required : Bool := false
  defaulted : Bool := false

/-- Stores the entries of a table. Unknown keys are refused when `strict`. -/
def storeEntries {α : Type} (fields : List (RecordField α)) (strict : Bool) :
    List (String × Value) → α → Except DecodeError α
  | [], record => .ok record
  | (key, value) :: rest, record =>
    match fields.find? (·.name = key) with
    | some field => do
      let record ← field.store value record
      storeEntries fields strict rest record
    | none =>
      if strict then .error (.unknownField key (fields.map (·.name)))
      else storeEntries fields strict rest record

/-- Stores the items of an array in the order of the fields. Further items are
ignored. -/
def storeItems {α : Type} : List (RecordField α) → List Value → α → Except DecodeError α
  | [], _, record => .ok record
  | field :: fields, [], record =>
    if field.defaulted then storeItems fields [] record else .error .mismatch
  | field :: fields, value :: values, record => do
    let record ← field.store value record
    storeItems fields values record

def decodeRecord {α : Type} (fields : List (RecordField α)) (strict : Bool) (record : α)
    (value : Value) : Except DecodeError α :=
  match value with
  | .array items => storeItems fields items record
  | _ =>
    match entriesOf? value with
    | none => .error .mismatch
    | some entries => do
      let record ← storeEntries fields strict entries record
      match fields.find? fun field => field.required && !entries.any (·.1 == field.name) with
      | some field => .error (.missingField field.name)
      | none => return record

end HomeRules.Toml
