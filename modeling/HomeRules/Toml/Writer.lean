import HomeRules.Text.Split
import HomeRules.Toml.Scalar

/-! # Writing TOML

The normal layout of a document. In each table the values on a line come first,
then the tables and the arrays of tables; a table that holds only tables has no
header of its own; a header follows an empty line unless nothing stands before it;
an array of two or more items has one line for each. -/

set_option autoImplicit false

namespace HomeRules.Toml

/-! ## Strings and keys -/

/-- The length of the longest run of a character. `run` is the length of the run
that ends where the text begins. -/
def longestRun (c : Char) (run : Nat) : List Char → Nat
  | [] => run
  | d :: rest => if d = c then longestRun c (run + 1) rest else max run (longestRun c 0 rest)

/-- Whether a character can only be written as a code. -/
def needsCode (c : Char) : Bool :=
  !isLineChar c && c != '\n'

def hexDigitOf (value : Nat) : Char :=
  if value < 10 then Text.digitOf value else Char.ofNat ('A'.toNat + (value - 10))

/-- A character below 256 as a code of four digits. -/
def codeOf (c : Char) : List Char :=
  ['\\', 'u', '0', '0', hexDigitOf (c.toNat / 16), hexDigitOf (c.toNat % 16)]

/-- How a character is written in a string of one line. -/
def escapeShort (c : Char) : List Char :=
  match c with
  | '\x08' => ['\\', 'b']
  | '\t' => ['\\', 't']
  | '\n' => ['\\', 'n']
  | '\x0c' => ['\\', 'f']
  | '\r' => ['\\', 'r']
  | '"' => ['\\', '"']
  | '\\' => ['\\', '\\']
  | c => if needsCode c then codeOf c else [c]

/-- A string of several lines after `run` quotation marks: ends of lines stand for
themselves, and a third quotation mark in a row is escaped. -/
def escapeLong : Nat → List Char → List Char
  | _, [] => []
  | run, '"' :: rest =>
    if run < 2 then '"' :: escapeLong (run + 1) rest else '\\' :: '"' :: escapeLong 0 rest
  | _, '\n' :: rest => '\n' :: escapeLong 0 rest
  | _, c :: rest => escapeShort c ++ escapeLong 0 rest

def delimited (delimiter : String) (body : List Char) : String :=
  delimiter ++ String.ofList body ++ delimiter

/-- A text in one of the forms of a string on one line that need no escapes. -/
def plainShort? (text : List Char) : Option String :=
  if text.any needsCode || text.contains '\n' then none
  else if !text.contains '\\' && !text.contains '"' then
    some (delimited "\"" (text.flatMap escapeShort))
  else if !text.contains '\'' then some (delimited "'" text)
  else none

/-- A string in the first form that can hold it: on one line in quotation marks or
apostrophes, on several lines in quotation marks or apostrophes, or with escapes. -/
def writeString (value : String) : String :=
  let text := value.toList
  let opening := if text.contains '\n' then ['\n'] else []
  match plainShort? text with
  | some written => written
  | none =>
    if !text.any needsCode && !text.contains '\\' && longestRun '"' 0 text ≤ 2 then
      delimited "\"\"\"" (opening ++ escapeLong 0 text)
    else if !text.any needsCode && longestRun '\'' 0 text ≤ 2 then
      delimited "'''" (opening ++ text)
    else if text.contains '\n' then delimited "\"\"\"" (opening ++ escapeLong 0 text)
    else delimited "\"" (text.flatMap escapeShort)

/-- A key, without quotes where it can be. -/
def writeKey (key : String) : String :=
  let text := key.toList
  let bare (c : Char) : Bool :=
    ('a' ≤ c && c ≤ 'z') || ('A' ≤ c && c ≤ 'Z') || Text.isDigit c || c == '_' || c == '-'
  if !text.isEmpty && text.all bare then key
  else (plainShort? text).getD (delimited "\"" (text.flatMap escapeShort))

/-! ## Values on a line -/

def Value.isTable : Value → Bool
  | .table _ => true
  | _ => false

mutual

/-- A value after an equals sign or in an array. -/
def writeValue : Value → String
  | .string text => writeString text
  | .integer value => Text.integerNumeral value
  | .float value => value.render
  | .boolean value => if value then "true" else "false"
  | .datetime text => text
  | .array [] => "[]"
  | .array [item] => "[" ++ writeValue item ++ "]"
  | .array (first :: second :: rest) =>
    "[" ++ writeLines (first :: second :: rest) ++ "\n]"
  | .table [] => "\x7b\x7d"
  | .table (entry :: rest) =>
    "\x7b " ++ Text.joined ", " (writePairs (entry :: rest)) ++ " \x7d"

/-- The items of an array, one on each line. -/
def writeLines : List Value → String
  | [] => ""
  | item :: rest => "\n    " ++ writeValue item ++ "," ++ writeLines rest

def writePairs : List (String × Value) → List String
  | [] => []
  | (key, value) :: rest => (writeKey key ++ " = " ++ writeValue value) :: writePairs rest

end

/-! ## Tables -/

/-- Whether a value is written in a table of its own: a table, or an array of
nothing but tables. -/
def isSection : Value → Bool
  | .table _ => true
  | .array items => !items.isEmpty && items.all Value.isTable
  | _ => false

/-- The lines of the entries that are written as values. -/
def valueLines (entries : List (String × Value)) : String :=
  String.join ((entries.filter fun (_, value) => !isSection value).map fun (key, value) =>
    writeKey key ++ " = " ++ writeValue value ++ "\n")

def headerLine (path : List String) (isArray : Bool) : String :=
  let name := Text.joined "." (path.map writeKey)
  if isArray then "[[" ++ name ++ "]]\n" else "[" ++ name ++ "]\n"

/-- Puts a header behind what is written so far. -/
def addHeader (written : String) (path : List String) (isArray : Bool) : String :=
  (if written.isEmpty then written else written ++ "\n") ++ headerLine path isArray

/-- Puts the entries of a table behind what is written so far. The first argument
bounds the levels of tables. -/
def writeTable : Nat → List String → Option Bool → List (String × Value) → String → String
  | 0, _, _, _, written => written
  | levels + 1, path, heading, entries, written =>
    let values := valueLines entries
    let written :=
      match heading with
      | none => written
      | some true => addHeader written path true
      | some false =>
        if values.isEmpty && !entries.isEmpty then written else addHeader written path false
    entries.foldl
      (fun written (key, value) =>
        match value with
        | .table inner => writeTable levels (path ++ [key]) (some false) inner written
        | .array items =>
          if isSection value then
            items.foldl
              (fun written item =>
                match item with
                | .table inner => writeTable levels (path ++ [key]) (some true) inner written
                | _ => written)
              written
          else written
        | _ => written)
      (written ++ values)

def write (entries : List (String × Value)) : String :=
  writeTable (Value.entriesLevels entries + 1) [] none entries ""

end HomeRules.Toml
