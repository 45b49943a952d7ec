import HomeRules.Toml.Document
import HomeRules.Toml.Scalar

/-! # The grammar of TOML

Reads a text into the statements of a document and assembles them. Values and
keys nest less than eighty levels deep. -/

set_option autoImplicit false

namespace HomeRules.Toml

/-- The number of levels that is too deep. -/
def maxNesting : Nat := 80

/-! ## Keys -/

/-- Characters of a key without quotes. -/
def isBareKeyChar (c : Char) : Bool :=
  ('a' ≤ c && c ≤ 'z') || ('A' ≤ c && c ≤ 'Z') || Text.isDigit c || c == '_' || c == '-'

def keyPart? (text : List Char) : Option (String × List Char) :=
  match text with
  | '"' :: _ => shortString? text
  | '\'' :: _ => shortString? text
  | _ =>
    let bare := text.takeWhile isBareKeyChar
    if bare.isEmpty then none else some (String.ofList bare, text.dropWhile isBareKeyChar)

/-- Reads the parts of a dotted key, of which there may be as many as the first
argument says. Spaces around the parts are skipped. -/
def keyParts? : Nat → List Char → Option (List String × List Char)
  | 0, _ => none
  | budget + 1, text => do
    let (part, rest) ← keyPart? (skipSpaces text)
    match skipSpaces rest with
    | '.' :: rest => do
      let (parts, rest) ← keyParts? budget rest
      return (part :: parts, rest)
    | rest => return ([part], rest)

/-- Reads a dotted key: the path and the last part. -/
def key? (text : List Char) : Option ((List String × String) × List Char) := do
  let (parts, rest) ← keyParts? (maxNesting - 1) text
  let last ← parts.getLast?
  return ((parts.dropLast, last), rest)

/-! ## Values -/

/-- The text after spaces, ends of lines and comments. -/
def skipFiller : Bool → List Char → List Char
  | _, [] => []
  | _, '\r' :: '\n' :: rest => skipFiller false rest
  | isComment, c :: rest =>
    if c == '\n' then skipFiller false rest
    else if isComment then if isLineChar c then skipFiller true rest else c :: rest
    else if isSpace c then skipFiller false rest
    else if c == '#' then skipFiller true rest
    else c :: rest

/-- Reads the items of an array and the bracket after them. -/
def items? (value : List Char → Option (Value × List Char)) :
    Nat → List Char → Option (List Value × List Char)
  | 0, _ => none
  | budget + 1, text =>
    match skipFiller false text with
    | ']' :: rest => some ([], rest)
    | text => do
      let (first, rest) ← value text
      match skipFiller false rest with
      | ']' :: rest => return ([first], rest)
      | ',' :: rest => do
        let (others, rest) ← items? value budget rest
        return (first :: others, rest)
      | _ => none

/-- Reads a key, an equals sign and a value. -/
def pair? (value : List Char → Option (Value × List Char)) (text : List Char) :
    Option ((List String × String × Value) × List Char) := do
  let ((path, key), rest) ← key? text
  let rest ← char? '=' rest
  let (value, rest) ← value (skipSpaces rest)
  return ((path, key, value), rest)

/-- Reads the pairs of an inline table, at least one, and the brace after them. -/
def pairs? (value : List Char → Option (Value × List Char)) (entries : Entries) :
    Nat → List Char → Option (Entries × List Char)
  | 0, _ => none
  | budget + 1, text => do
    let ((path, key, first), rest) ← pair? value text
    let entries ← entries.assign path key first
    match skipSpaces rest with
    | '}' :: rest => return (entries, rest)
    | ',' :: rest => pairs? value entries budget rest
    | _ => none

/-- Reads a value that holds fewer levels of arrays and tables than the first
argument says. -/
def value? : Nat → List Char → Option (Value × List Char)
  | 0, _ => none
  | levels + 1, text =>
    match text with
    | '[' :: rest =>
      if levels = 0 then none
      else do
        let (items, rest) ← items? (value? levels) (rest.length + 1) rest
        return (.array items, rest)
    | '{' :: rest =>
      if levels = 0 then none
      else
        match skipSpaces rest with
        | '}' :: rest => some (.table [], rest)
        | rest => do
          let (entries, rest) ← pairs? (value? levels) [] (rest.length + 1) rest
          return (.table (valuesOf entries), rest)
    | _ => scalar? text

/-! ## Lines -/

/-- The text after what may follow a statement on its line: spaces, a comment and
the end of the line. -/
def endOfLine? (text : List Char) : Option (List Char) :=
  match skipComment (skipSpaces text) with
  | [] => some []
  | rest => newline? rest

def statement? (text : List Char) : Option (Statement × List Char) :=
  match text with
  | '[' :: '[' :: rest => do
    let ((path, key), rest) ← key? rest
    let rest ← char? ']' rest
    let rest ← char? ']' rest
    return (.arrayHeader path key, rest)
  | '[' :: rest => do
    let ((path, key), rest) ← key? rest
    let rest ← char? ']' rest
    return (.header path key, rest)
  | _ => do
    let ((path, key, value), rest) ← pair? (value? maxNesting) text
    return (.assign path key value, rest)

/-- Reads the statements of a text, of which there are at most as many lines as
the first argument says. -/
def statements? : Nat → List Char → Option (List Statement)
  | 0, _ => none
  | budget + 1, text =>
    match skipSpaces text with
    | [] => some []
    | '#' :: rest => do
      let rest ← endOfLine? ('#' :: rest)
      statements? budget rest
    | text =>
      match newline? text with
      | some rest => statements? budget rest
      | none => do
        let (statement, rest) ← statement? text
        let rest ← endOfLine? rest
        let others ← statements? budget rest
        return statement :: others

/-- A text without the mark that may stand before its first character. -/
def skipMark : List Char → List Char
  | '\uFEFF' :: rest => rest
  | text => text

/-- The entries of the document in a text, in order. -/
def parse? (text : String) : Option (List (String × Value)) := do
  let characters := skipMark text.toList
  let statements ← statements? (characters.length + 1) characters
  assemble statements

end HomeRules.Toml
