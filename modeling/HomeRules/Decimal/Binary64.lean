import HomeRules.Text.Numeral

/-! # Double precision numbers

The numbers of the 64-bit binary format as integers times powers of two, the
nearest one to a decimal, and the shortest decimal that denotes one. All
arithmetic is exact. -/

set_option autoImplicit false

namespace HomeRules

/-- A number of the 64-bit binary format. The finite ones are
`significand * 2 ^ exponent`. -/
inductive Binary64 where
  | finite (negative : Bool) (significand : Nat) (exponent : Int)
  | infinite (negative : Bool)
  | notANumber (negative : Bool)
  deriving DecidableEq, Repr, Inhabited

namespace Binary64

def minExponent : Int := -1074

def maxExponent : Int := 971

def leastFull : Nat := 0x10000000000000

structure Ratio where
  numerator : Nat
  denominator : Nat

def Ratio.scale (ratio : Ratio) (base : Nat) (exponent : Int) : Ratio :=
  match exponent with
  | .ofNat e => ⟨ratio.numerator * base.pow e, ratio.denominator⟩
  | .negSucc e => ⟨ratio.numerator, ratio.denominator * base.pow (e + 1)⟩

/-- The nearest natural number to a ratio; a half goes to the even neighbour. -/
def Ratio.round (ratio : Ratio) : Nat :=
  let quotient := ratio.numerator / ratio.denominator
  let rest := ratio.numerator % ratio.denominator
  if 2 * rest < ratio.denominator then quotient
  else if 2 * rest = ratio.denominator then quotient + quotient % 2
  else quotient + 1

/-- The exponent at which a positive ratio has a significand of 53 bits, or the
least exponent when that is greater. -/
def exponentOf (ratio : Ratio) : Int :=
  let guess : Int := (ratio.numerator.log2 : Int) - ratio.denominator.log2 - 52
  let scaled := ratio.scale 2 (-guess)
  let exact := if scaled.numerator < leastFull * scaled.denominator then guess - 1 else guess
  max exact minExponent

/-- The nearest number to a positive ratio. -/
def ofRatio (negative : Bool) (ratio : Ratio) : Binary64 :=
  let exponent := exponentOf ratio
  let significand := (ratio.scale 2 (-exponent)).round
  let (significand, exponent) :=
    if significand = 2 * leastFull then (leastFull, exponent + 1) else (significand, exponent)
  if maxExponent < exponent then .infinite negative
  else .finite negative significand exponent

/-- The nearest number to `digits * 10 ^ scale`. Far outside the range of the
format the answer needs no arithmetic. -/
def ofDecimal (negative : Bool) (digits : Nat) (scale : Int) : Binary64 :=
  if digits = 0 then .finite negative 0 minExponent
  else
    let magnitude : Int := (Text.digitsOf digits).length + scale
    if magnitude < -400 then .finite negative 0 minExponent
    else if 400 < magnitude then .infinite negative
    else ofRatio negative ((Ratio.mk digits 1).scale 10 scale)

/-! ## The shortest decimal -/

/-- How far below a number, in quarters of its last place, the reals that round
to it begin. They end two quarters above it. -/
def lowerGap (significand : Nat) (exponent : Int) : Nat :=
  if significand = leastFull ∧ minExponent < exponent then 1 else 2

/-- Whether `digits * 10 ^ scale` rounds to a positive finite number. -/
def readsBack (significand : Nat) (exponent : Int) (digits : Nat) (scale : Int) : Bool :=
  let decimal := (Ratio.mk digits 1).scale 10 scale
  let value := decimal.scale 2 (2 - exponent)
  let low := (4 * significand - lowerGap significand exponent) * value.denominator
  let high := (4 * significand + 2) * value.denominator
  if significand % 2 = 0 then low ≤ value.numerator && value.numerator ≤ high
  else low < value.numerator && value.numerator < high

/-- The power of ten of the first digit of a positive ratio, plus one. -/
def decimalMagnitude (ratio : Ratio) : Int :=
  let guess : Int :=
    (Text.digitsOf ratio.numerator).length - (Text.digitsOf ratio.denominator).length
  let scaled := ratio.scale 10 (-guess)
  if scaled.numerator < scaled.denominator then guess else guess + 1

/-- The nearest decimal with `count` digits that reads back, if one does. Of two
that are equally near it is the greater. -/
def withDigits? (significand : Nat) (exponent : Int) (count : Nat) : Option (Nat × Int) :=
  let value := (Ratio.mk significand 1).scale 2 exponent
  let scale := decimalMagnitude value - count
  let scaled := value.scale 10 (-scale)
  let below := scaled.numerator / scaled.denominator
  let rest := scaled.numerator % scaled.denominator
  let nearest := if 2 * rest < scaled.denominator then below else below + 1
  let other := if 2 * rest < scaled.denominator then below + 1 else below
  if readsBack significand exponent nearest scale then some (nearest, scale)
  else if readsBack significand exponent other scale then some (other, scale)
  else none

/-- The first decimal that reads back among those with `count`, `count + 1`, …
digits. Seventeen digits always do. -/
def shortestFrom (significand : Nat) (exponent : Int) : Nat → Nat → Nat × Int
  | 0, count => ((withDigits? significand exponent count).getD (0, 0))
  | more + 1, count =>
    match withDigits? significand exponent count with
    | some decimal => decimal
    | none => shortestFrom significand exponent more (count + 1)

/-- The digits and the power of ten of the shortest decimal that denotes a
positive finite number. -/
def shortest (significand : Nat) (exponent : Int) : Nat × Int :=
  shortestFrom significand exponent 16 1

/-- `digits * 10 ^ scale` without an exponent, with a fraction of at least one
digit. -/
def positional (digits : Nat) (scale : Int) : String :=
  match scale with
  | .ofNat zeros =>
    String.ofList (Text.digitsOf digits ++ List.replicate zeros '0') ++ ".0"
  | .negSucc places =>
    let places := places + 1
    let written := Text.digitsOf digits
    let padded := List.replicate (places + 1 - written.length) '0' ++ written
    let whole := padded.take (padded.length - places)
    let fraction := (padded.drop (padded.length - places)).reverse.dropWhile (· == '0')
    String.ofList whole ++ "." ++
      (if fraction.isEmpty then "0" else String.ofList fraction.reverse)

/-- The text of a number: its shortest decimal, or the words `inf` and `nan`. -/
def render : Binary64 → String
  | .finite negative significand exponent =>
    let magnitude :=
      if significand = 0 then "0.0"
      else
        let (digits, scale) := shortest significand exponent
        positional digits scale
    if negative then "-" ++ magnitude else magnitude
  | .infinite negative => if negative then "-inf" else "inf"
  | .notANumber negative => if negative then "-nan" else "nan"

/-- Whether a number is equal to itself. -/
def isOrdered : Binary64 → Bool
  | .notANumber _ => false
  | _ => true

end Binary64

end HomeRules
