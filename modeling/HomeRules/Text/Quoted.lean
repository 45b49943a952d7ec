import HomeRules.Text.Numeral
import HomeRules.Text.Shown

/-! # Quoted texts

A text between quotation marks, with escapes for the marks themselves and for
characters that are not shown. -/

set_option autoImplicit false

namespace HomeRules.Text

/-- A digit of a code in base sixteen. -/
def lowerHexDigit (value : Nat) : Char :=
  if value < 10 then digitOf value else Char.ofNat ('a'.toNat + (value - 10))

/-- The digits of a number in base sixteen, before those in `behind`. -/
def hexDigitsBefore (number : Nat) (behind : List Char) : List Char :=
  if number < 16 then lowerHexDigit number :: behind
  else hexDigitsBefore (number / 16) (lowerHexDigit (number % 16) :: behind)
termination_by number

/-- How a character appears in a quoted text. -/
def quotedChar (c : Char) : List Char :=
  match c with
  | '\t' => ['\\', 't']
  | '\r' => ['\\', 'r']
  | '\n' => ['\\', 'n']
  | '"' => ['\\', '"']
  | '\\' => ['\\', '\\']
  | c =>
    if c.toNat = 0 then ['\\', '0']
    else if isShown c then [c]
    else ['\\', 'u', '\x7b'] ++ hexDigitsBefore c.toNat [] ++ ['\x7d']

def quoted (text : String) : String :=
  String.ofList ('"' :: text.toList.flatMap quotedChar ++ ['"'])

end HomeRules.Text
