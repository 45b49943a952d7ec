import HomeRules.Text.Blank
import HomeRules.Text.Numeral

/-! # Durations

Lengths of time, and the short form rule authors write them in: a whole number
and a unit, such as `250ms`, `5s`, `2m` or `1h`. -/

set_option autoImplicit false

namespace HomeRules

/-- A length of time, exact to the nanosecond. -/
structure Duration where
  nanoseconds : Nat
  deriving DecidableEq, Repr, Inhabited

namespace Duration

def zero : Duration := ⟨0⟩

def ofMilliseconds (count : Nat) : Duration := ⟨count * 1000000⟩

def ofSeconds (count : Nat) : Duration := ⟨count * 1000000000⟩

/-- The whole milliseconds that fit into a length of time. -/
def toMilliseconds (duration : Duration) : Nat := duration.nanoseconds / 1000000

def isZero (duration : Duration) : Bool := duration.nanoseconds == 0

inductive Scale where
  | millisecond
  | second
  | minute
  | hour
  deriving DecidableEq, Repr

namespace Scale

def milliseconds : Scale → Nat
  | .millisecond => 1
  | .second => 1000
  | .minute => 60000
  | .hour => 3600000

def symbol : Scale → List Char
  | .millisecond => ['m', 's']
  | .second => ['s']
  | .minute => ['m']
  | .hour => ['h']

def ofSymbol? : List Char → Option Scale
  | ['m', 's'] => some .millisecond
  | ['s'] => some .second
  | ['m'] => some .minute
  | ['h'] => some .hour
  | _ => none

/-- The most units a length of time can hold: 64-bit milliseconds, or 64-bit
seconds for the other units. -/
def capacity : Scale → Nat
  | .millisecond => UInt64.size - 1
  | .second => UInt64.size - 1
  | .minute => (UInt64.size - 1) / 60
  | .hour => (UInt64.size - 1) / 3600

end Scale

/-- Reads the short form from trimmed characters. -/
def ofChars? (text : List Char) : Option Duration := do
  let scale ← Scale.ofSymbol? (text.dropWhile Text.isDigit)
  let count ← Text.word64? (text.takeWhile Text.isDigit)
  if count ≤ scale.capacity then some (ofMilliseconds (count * scale.milliseconds)) else none

/-- Reads the short form. Blanks around it are ignored. -/
def parse? (text : String) : Option Duration :=
  ofChars? (Text.trim text.toList)

/-- The largest unit that divides a number of milliseconds. Zero is counted in
seconds. -/
def scaleOf (milliseconds : Nat) : Scale :=
  if milliseconds % 3600000 = 0 ∧ 0 < milliseconds then .hour
  else if milliseconds % 60000 = 0 ∧ 0 < milliseconds then .minute
  else if milliseconds % 1000 = 0 then .second
  else .millisecond

/-- The characters of the short form in the largest unit that is exact. Parts of
a millisecond are dropped. -/
def toChars (duration : Duration) : List Char :=
  let milliseconds := duration.toMilliseconds
  let scale := scaleOf milliseconds
  Text.digitsOf (milliseconds / scale.milliseconds) ++ scale.symbol

/-- The short form in the largest unit that is exact. -/
def render (duration : Duration) : String :=
  String.ofList duration.toChars

/-- The digits of a proper fraction `numerator / 10 ^ places`, without trailing
zeros. -/
def fractionDigits (numerator places : Nat) : List Char :=
  let digits := Text.digitsOf numerator
  let padded := List.replicate (places - digits.length) '0' ++ digits
  (padded.reverse.dropWhile (· == '0')).reverse

/-- A number of units with its fraction after a point, when there is one. -/
def withFraction (whole numerator places : Nat) (symbol : String) : String :=
  if numerator = 0 then Text.numeral whole ++ symbol
  else Text.numeral whole ++ "." ++ String.ofList (fractionDigits numerator places) ++ symbol

/-- The exact decimal form used in reports, in the largest of seconds,
milliseconds, microseconds and nanoseconds that is not above the value. -/
def exact (duration : Duration) : String :=
  let n := duration.nanoseconds
  if 1000000000 ≤ n then withFraction (n / 1000000000) (n % 1000000000) 9 "s"
  else if 1000000 ≤ n then withFraction (n / 1000000) (n % 1000000) 6 "ms"
  else if 1000 ≤ n then withFraction (n / 1000) (n % 1000) 3 "µs"
  else withFraction n 0 0 "ns"

end Duration

end HomeRules
