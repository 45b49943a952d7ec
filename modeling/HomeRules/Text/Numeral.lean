/-! # Decimal numerals

Reading and writing natural numbers in base ten. -/

set_option autoImplicit false

namespace HomeRules.Text

/-- Whether a character is one of the ten ASCII digits. -/
def isDigit (c : Char) : Bool :=
  '0' ≤ c && c ≤ '9'

def digitValue (c : Char) : Nat :=
  c.toNat - '0'.toNat

/-- The digit with a value below ten. -/
def digitOf (value : Nat) : Char :=
  Char.ofNat ('0'.toNat + value)

/-- The number that digits denote after those already read as `sofar`. -/
def valueFrom (sofar : Nat) (digits : List Char) : Nat :=
  digits.foldl (fun value c => value * 10 + digitValue c) sofar

def valueOf (digits : List Char) : Nat :=
  valueFrom 0 digits

/-- The digits of a number, most significant first, before those in `behind`. -/
def digitsBefore (number : Nat) (behind : List Char) : List Char :=
  if number < 10 then digitOf number :: behind
  else digitsBefore (number / 10) (digitOf (number % 10) :: behind)
termination_by number

/-- The digits of a number, most significant first and without leading zeros. -/
def digitsOf (number : Nat) : List Char :=
  digitsBefore number []

def numeral (number : Nat) : String :=
  String.ofList (digitsOf number)

/-- An integer in base ten, with a minus sign when it is negative. -/
def integerNumeral : Int → String
  | .ofNat number => numeral number
  | .negSucc number => "-" ++ numeral (number + 1)

/-- Reads a nonempty numeral that fits in 64 bits. -/
def word64? (digits : List Char) : Option Nat :=
  if digits.isEmpty || !digits.all isDigit then none
  else
    let value := valueOf digits
    if value < UInt64.size then some value else none

end HomeRules.Text
