import HomeRules.Text.Numeral
import HomeRules.Toml.Value

/-! # TOML scalars

Strings, numbers and dates at the front of a text. Each reader gives
what it read and the rest of the text, or nothing where the text does not begin
with such a value. -/

set_option autoImplicit false

namespace HomeRules.Toml

/-- A space or a tab. -/
def isSpace (c : Char) : Bool :=
  c == ' ' || c == '\t'

/-- A character that may stand in a line: a tab, or any character that is not a
control character of ASCII. -/
def isLineChar (c : Char) : Bool :=
  c == '\t' || (0x20 ≤ c.toNat && c.toNat != 0x7F)

def skipSpaces (text : List Char) : List Char :=
  text.dropWhile isSpace

/-- The text after an end of line, when it begins with one. -/
def newline? : List Char → Option (List Char)
  | '\n' :: rest => some rest
  | '\r' :: '\n' :: rest => some rest
  | _ => none

/-- The text after a comment, which ends with its line. -/
def skipComment : List Char → List Char
  | '#' :: rest => rest.dropWhile isLineChar
  | text => text

/-! ## Strings -/

def hexDigit? (c : Char) : Option Nat :=
  if Text.isDigit c then some (Text.digitValue c)
  else if 'a' ≤ c ∧ c ≤ 'f' then some (c.toNat - 'a'.toNat + 10)
  else if 'A' ≤ c ∧ c ≤ 'F' then some (c.toNat - 'A'.toNat + 10)
  else none

def charOfHex? (digits : List Char) : Option Char := do
  let code ← digits.foldlM (fun code c => (hexDigit? c).map (code * 16 + ·)) 0
  if h : code.isValidChar then some ⟨code.toUInt32, by
    have small : code < UInt32.size := by
      rcases h with h | ⟨_, h⟩ <;> simp only [UInt32.size] <;> omega
    simpa [UInt32.isValidChar, Nat.toUInt32, UInt32.toNat_ofNat_of_lt' small] using h⟩
  else none

/-- The character a letter after a backslash stands for. -/
def escaped? : Char → Option Char
  | 'b' => some '\x08'
  | 't' => some '\t'
  | 'n' => some '\n'
  | 'f' => some '\x0c'
  | 'r' => some '\r'
  | '"' => some '"'
  | '\\' => some '\\'
  | _ => none

/-- Puts a character before what was read. -/
def before (c : Char) (reading : Option (List Char × List Char)) : Option (List Char × List Char) :=
  reading.map fun (text, rest) => (c :: text, rest)

/-- The rest of a string in quotation marks. -/
def basicBody : List Char → Option (List Char × List Char)
  | [] => none
  | '"' :: rest => some ([], rest)
  | '\\' :: 'u' :: a :: b :: c :: d :: rest => do
    let character ← charOfHex? [a, b, c, d]
    before character (basicBody rest)
  | '\\' :: 'U' :: a :: b :: c :: d :: e :: f :: g :: h :: rest => do
    let character ← charOfHex? [a, b, c, d, e, f, g, h]
    before character (basicBody rest)
  | '\\' :: c :: rest => do
    let character ← escaped? c
    before character (basicBody rest)
  | c :: rest => if isLineChar c then before c (basicBody rest) else none

/-- The rest of a string in apostrophes. -/
def literalBody : List Char → Option (List Char × List Char)
  | [] => none
  | '\'' :: rest => some ([], rest)
  | c :: rest => if isLineChar c then before c (literalBody rest) else none

/-- Whether the text continues with spaces up to an end of line. -/
def endsLine (text : List Char) : Bool :=
  (newline? (skipSpaces text)).isSome

/-- The rest of a string in triple quotation marks. While `skipping`, spaces and
ends of lines are dropped. Up to two quotation marks before the closing three
belong to the string. -/
def longBasicBody : Bool → List Char → Option (List Char × List Char)
  | _, [] => none
  | _, '"' :: '"' :: '"' :: '"' :: '"' :: rest => some (['"', '"'], rest)
  | _, '"' :: '"' :: '"' :: '"' :: rest => some (['"'], rest)
  | _, '"' :: '"' :: '"' :: rest => some ([], rest)
  | _, '\\' :: 'u' :: a :: b :: c :: d :: rest => do
    let character ← charOfHex? [a, b, c, d]
    before character (longBasicBody false rest)
  | _, '\\' :: 'U' :: a :: b :: c :: d :: e :: f :: g :: h :: rest => do
    let character ← charOfHex? [a, b, c, d, e, f, g, h]
    before character (longBasicBody false rest)
  | _, '\\' :: c :: rest =>
    match escaped? c with
    | some character => before character (longBasicBody false rest)
    | none => if endsLine (c :: rest) then longBasicBody true (c :: rest) else none
  | skipping, '\r' :: '\n' :: rest =>
    if skipping then longBasicBody true rest else before '\n' (longBasicBody false rest)
  | skipping, c :: rest =>
    if skipping && (isSpace c || c == '\n') then longBasicBody true rest
    else if c == '\n' || isLineChar c then before c (longBasicBody false rest)
    else none

/-- The rest of a string in triple apostrophes. Up to two apostrophes before the
closing three belong to the string. -/
def longLiteralBody : List Char → Option (List Char × List Char)
  | [] => none
  | '\'' :: '\'' :: '\'' :: '\'' :: '\'' :: rest => some (['\'', '\''], rest)
  | '\'' :: '\'' :: '\'' :: '\'' :: rest => some (['\''], rest)
  | '\'' :: '\'' :: '\'' :: rest => some ([], rest)
  | '\r' :: '\n' :: rest => before '\n' (longLiteralBody rest)
  | c :: rest => if c == '\n' || isLineChar c then before c (longLiteralBody rest) else none

/-- The text after an end of line, or all of it. -/
def skipNewline (text : List Char) : List Char :=
  (newline? text).getD text

def shortString? : List Char → Option (String × List Char)
  | '"' :: rest => (basicBody rest).map fun (text, rest) => (String.ofList text, rest)
  | '\'' :: rest => (literalBody rest).map fun (text, rest) => (String.ofList text, rest)
  | _ => none

def string? : List Char → Option (String × List Char)
  | '"' :: '"' :: '"' :: rest =>
    (longBasicBody false (skipNewline rest)).map fun (text, rest) => (String.ofList text, rest)
  | '\'' :: '\'' :: '\'' :: rest =>
    (longLiteralBody (skipNewline rest)).map fun (text, rest) => (String.ofList text, rest)
  | text => shortString? text

/-! ## Numbers -/

/-- The digits at the front of a text, where single underscores may stand between
digits. -/
def separatedDigits (isDigit : Char → Bool) : List Char → List Char × List Char
  | '_' :: c :: rest =>
    if isDigit c then
      let (digits, rest) := separatedDigits isDigit rest
      (c :: digits, rest)
    else ([], '_' :: c :: rest)
  | c :: rest =>
    if isDigit c then
      let (digits, rest) := separatedDigits isDigit rest
      (c :: digits, rest)
    else ([], c :: rest)
  | [] => ([], [])

/-- Digits that begin with a digit. -/
def digits? (isDigit : Char → Bool) : List Char → Option (List Char × List Char)
  | c :: rest =>
    if isDigit c then
      let (digits, rest) := separatedDigits isDigit rest
      some (c :: digits, rest)
    else none
  | [] => none

/-- An optional sign: whether it is a minus. -/
def sign : List Char → Bool × List Char
  | '+' :: rest => (false, rest)
  | '-' :: rest => (true, rest)
  | text => (false, text)

/-- Digits of a decimal integer: a zero alone, or digits that begin with another. -/
def wholeDigits? : List Char → Option (List Char × List Char)
  | '0' :: rest => some (['0'], rest)
  | text => digits? Text.isDigit text

/-- An integer of a text in some base. -/
def valueInBase (base : Nat) (digits : List Char) : Nat :=
  digits.foldl (fun value c => value * base + (hexDigit? c).getD 0) 0

/-- Accepts integers of 64 bits. -/
def word? (value : Int) : Option Value :=
  if -0x8000000000000000 ≤ value ∧ value < 0x8000000000000000 then some (.integer value) else none

/-- An integer in base two, eight or sixteen after its mark. -/
def radixInteger? (base : Nat) (text : List Char) : Option (Value × List Char) := do
  let (digits, rest) ← digits? (fun c => (hexDigit? c).any (· < base)) text
  let value ← word? (valueInBase base digits)
  return (value, rest)

def integer? : List Char → Option (Value × List Char)
  | '0' :: 'x' :: rest => radixInteger? 16 rest
  | '0' :: 'o' :: rest => radixInteger? 8 rest
  | '0' :: 'b' :: rest => radixInteger? 2 rest
  | text => do
    let (negative, rest) := sign text
    let (digits, rest) ← wholeDigits? rest
    let magnitude : Int := Text.valueOf digits
    let value ← word? (if negative then -magnitude else magnitude)
    return (value, rest)

/-- The exponent of a float, when there is one. -/
def exponent? : List Char → Option (Int × List Char)
  | c :: rest =>
    if c == 'e' || c == 'E' then do
      let (negative, rest) := sign rest
      let (digits, rest) ← digits? Text.isDigit rest
      let magnitude : Int := Text.valueOf digits
      return (if negative then -magnitude else magnitude, rest)
    else none
  | [] => none

/-- The fraction of a float, when there is one. -/
def fraction? : List Char → Option (List Char × List Char)
  | '.' :: rest => digits? Text.isDigit rest
  | _ => none

/-- Accepts the numbers other than positive infinity, which stands for a decimal
that is out of range. -/
def inRange? (value : Binary64) : Option Value :=
  if value = .infinite false then none else some (.float value)

def decimalFloat? (text : List Char) : Option (Value × List Char) := do
  let (negative, rest) := sign text
  let (whole, rest) ← wholeDigits? rest
  match fraction? rest with
  | some (fraction, rest) =>
    let (exponent, rest) := (exponent? rest).getD (0, rest)
    let value ← inRange?
      (.ofDecimal negative (Text.valueOf (whole ++ fraction)) (exponent - fraction.length))
    return (value, rest)
  | none =>
    let (exponent, rest) ← exponent? rest
    let value ← inRange? (.ofDecimal negative (Text.valueOf whole) exponent)
    return (value, rest)

/-- Reads the words `inf` and `nan` with an optional sign. -/
def specialFloat? (text : List Char) : Option (Value × List Char) :=
  match sign text with
  | (negative, 'i' :: 'n' :: 'f' :: rest) => some (.float (.infinite negative), rest)
  | (negative, 'n' :: 'a' :: 'n' :: rest) => some (.float (.notANumber negative), rest)
  | _ => none

/-! ## Dates and times -/

/-- Reads exactly two digits that denote a number in a range. -/
def twoDigits? (low high : Nat) : List Char → Option (Nat × List Char)
  | a :: b :: rest =>
    if Text.isDigit a && Text.isDigit b then
      let value := Text.valueOf [a, b]
      if low ≤ value ∧ value ≤ high then some (value, rest) else none
    else none
  | _ => none

def char? (expected : Char) : List Char → Option (List Char)
  | c :: rest => if c = expected then some rest else none
  | [] => none

def daysIn (year month : Nat) : Nat :=
  if month = 2 then
    if year % 4 = 0 ∧ (year % 100 ≠ 0 ∨ year % 400 = 0) then 29 else 28
  else if month = 4 ∨ month = 6 ∨ month = 9 ∨ month = 11 then 30
  else 31

/-- A number below one hundred in two digits. -/
def padded (value : Nat) : String :=
  String.ofList [Text.digitOf (value / 10), Text.digitOf (value % 10)]

def date? : List Char → Option (String × List Char)
  | a :: b :: c :: d :: '-' :: rest =>
    if [a, b, c, d].all Text.isDigit then do
      let year := Text.valueOf [a, b, c, d]
      let (month, rest) ← twoDigits? 1 12 rest
      let rest ← char? '-' rest
      let (day, rest) ← twoDigits? 1 (daysIn year month) rest
      return (String.ofList [a, b, c, d] ++ "-" ++ padded month ++ "-" ++ padded day, rest)
    else none
  | _ => none

/-- Reads the fraction of a second, of which nine digits count. -/
def secondFraction (text : List Char) : String × List Char :=
  match text with
  | '.' :: c :: rest =>
    if Text.isDigit c then
      let digits := (c :: rest.takeWhile Text.isDigit).take 9
      let kept := (digits.reverse.dropWhile (· == '0')).reverse
      (if kept.isEmpty then "" else "." ++ String.ofList kept, rest.dropWhile Text.isDigit)
    else ("", text)
  | _ => ("", text)

def time? (text : List Char) : Option (String × List Char) := do
  let (hour, rest) ← twoDigits? 0 23 text
  let rest ← char? ':' rest
  let (minute, rest) ← twoDigits? 0 59 rest
  let rest ← char? ':' rest
  let (second, rest) ← twoDigits? 0 60 rest
  let (fraction, rest) := secondFraction rest
  return (padded hour ++ ":" ++ padded minute ++ ":" ++ padded second ++ fraction, rest)

/-- Reads the distance from universal time. -/
def offset? : List Char → Option (String × List Char)
  | 'Z' :: rest => some ("Z", rest)
  | 'z' :: rest => some ("Z", rest)
  | c :: rest =>
    if c == '+' || c == '-' then do
      let (hour, rest) ← twoDigits? 0 23 rest
      let rest ← char? ':' rest
      let (minute, rest) ← twoDigits? 0 59 rest
      let shown := if c == '-' && 0 < hour * 60 + minute then "-" else "+"
      return (shown ++ padded hour ++ ":" ++ padded minute, rest)
    else none
  | [] => none

/-- Reads the time after a date: a separator, a time and an optional offset. -/
def timeAfterDate? : List Char → Option (String × List Char)
  | c :: rest =>
    if c == 'T' || c == 't' || c == ' ' then do
      let (time, rest) ← time? rest
      let (offset, rest) := (offset? rest).getD ("", rest)
      return ("T" ++ time ++ offset, rest)
    else none
  | [] => none

/-- Reads a date, a time, or a date with a time. -/
def datetime? (text : List Char) : Option (Value × List Char) :=
  match date? text with
  | some (date, rest) =>
    let (time, rest) := (timeAfterDate? rest).getD ("", rest)
    some (.datetime (date ++ time), rest)
  | none => (time? text).map fun (time, rest) => (.datetime time, rest)

def numberOrDate? (text : List Char) : Option (Value × List Char) :=
  datetime? text <|> decimalFloat? text <|> specialFloat? text <|> integer? text

/-- Reads a value that is neither an array nor a table. -/
def scalar? (text : List Char) : Option (Value × List Char) :=
  match text with
  | '"' :: _ => (string? text).map fun (value, rest) => (.string value, rest)
  | '\'' :: _ => (string? text).map fun (value, rest) => (.string value, rest)
  | 't' :: 'r' :: 'u' :: 'e' :: rest => some (.boolean true, rest)
  | 'f' :: 'a' :: 'l' :: 's' :: 'e' :: rest => some (.boolean false, rest)
  | _ => numberOrDate? text

end HomeRules.Toml
