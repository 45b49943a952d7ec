import HomeRules.Duration
import HomeRules.Proofs.Text

/-!
# The short form of durations

A text denotes a duration when it is a number and a unit, with blanks around them at most, and
64 bits can hold the milliseconds, or the seconds where the unit is longer. The short form of
every duration that is denoted in this way denotes it too.
-/

set_option autoImplicit false

namespace HomeRules.Duration

open Text

/-! ## What a text denotes -/

/-- What 64 bits can hold: the milliseconds, or the seconds where the unit is longer. -/
def Scale.Fits : Scale → Nat → Prop
  | .millisecond, count => count < 2 ^ 64
  | .second, count => count < 2 ^ 64
  | .minute, count => count * 60 < 2 ^ 64
  | .hour, count => count * 3600 < 2 ^ 64

/-- A numeral and a unit, with nothing between them. -/
inductive Spells : List Char → Duration → Prop where
  | count {digits : List Char} {number : Nat} (scale : Scale) (present : digits ≠ [])
      (decimal : ∀ c ∈ digits, '0' ≤ c ∧ c ≤ '9')
      (value : Nat.ofDigits 10 (digits.reverse.map digitValue) = number)
      (fits : scale.Fits number) :
      Spells (digits ++ scale.symbol) (ofMilliseconds (number * scale.milliseconds))

def Denotes (text : List Char) (duration : Duration) : Prop :=
  ∃ inner, Padded inner text ∧ Spells inner duration

/-! ## Reading -/

theorem Scale.ofSymbol?_eq_some_iff {symbol : List Char} {scale : Scale} :
    ofSymbol? symbol = some scale ↔ symbol = scale.symbol := by
  constructor
  · intro found
    unfold ofSymbol? at found
    split at found <;> cases found <;> rfl
  · rintro rfl
    cases scale <;> rfl

theorem Scale.fits_iff (scale : Scale) (count : Nat) :
    scale.Fits count ↔ count < UInt64.size ∧ count ≤ scale.capacity := by
  cases scale <;> simp only [Fits, capacity, UInt64.size] <;> omega

theorem isDigit_iff (c : Char) : isDigit c = true ↔ '0' ≤ c ∧ c ≤ '9' := by
  rw [isDigit, Bool.and_eq_true, decide_eq_true_eq, decide_eq_true_eq]

theorem word64?_eq_some_iff {digits : List Char} {number : Nat} :
    word64? digits = some number ↔
      (digits ≠ [] ∧ ∀ c ∈ digits, isDigit c = true) ∧ valueOf digits = number ∧
        number < UInt64.size := by
  rw [word64?]
  split
  case isTrue malformed =>
    refine ⟨nofun, fun ⟨⟨present, decimal⟩, _⟩ => ?_⟩
    rw [List.isEmpty_eq_false_iff.mpr present, List.all_eq_true.mpr decimal] at malformed
    cases malformed
  case isFalse formed =>
    have held : digits ≠ [] ∧ ∀ c ∈ digits, isDigit c = true := by simpa using formed
    dsimp only
    split
    case isTrue small =>
      rw [Option.some.injEq]
      exact ⟨fun same => ⟨held, same, same ▸ small⟩, fun found => found.2.1⟩
    case isFalse large =>
      exact ⟨nofun, fun ⟨_, same, small⟩ => absurd (same ▸ small) large⟩

/-- Where the digits of a numeral end. -/
theorem span_symbol {digits : List Char} (decimal : ∀ c ∈ digits, isDigit c = true)
    (scale : Scale) :
    (digits ++ scale.symbol).takeWhile isDigit = digits ∧
      (digits ++ scale.symbol).dropWhile isDigit = scale.symbol := by
  rw [List.takeWhile_append_of_pos decimal, List.dropWhile_append_of_pos decimal]
  cases scale <;> exact ⟨List.append_nil digits, rfl⟩

theorem ofChars?_eq_some_iff {text : List Char} {duration : Duration} :
    ofChars? text = some duration ↔ Spells text duration := by
  constructor
  · intro found
    simp only [ofChars?, Option.bind_eq_bind, Option.bind_eq_some_iff] at found
    obtain ⟨scale, unit, number, count, held⟩ := found
    split at held
    case isFalse => cases held
    case isTrue small =>
      cases held
      obtain ⟨⟨present, decimal⟩, value, word⟩ := word64?_eq_some_iff.mp count
      rw [← List.takeWhile_append_dropWhile (p := isDigit) (l := text),
        Scale.ofSymbol?_eq_some_iff.mp unit]
      refine .count scale present (fun c member => (isDigit_iff c).mp (decimal c member)) ?_
        ((scale.fits_iff number).mpr ⟨word, small⟩)
      rw [← valueOf_eq_ofDigits]
      exact value
  · rintro @⟨digits, number, scale, present, decimal, value, fits⟩
    have digital (c : Char) (member : c ∈ digits) := (isDigit_iff c).mpr (decimal c member)
    obtain ⟨front, back⟩ := span_symbol digital scale
    obtain ⟨word, small⟩ := (scale.fits_iff number).mp fits
    rw [← valueOf_eq_ofDigits] at value
    simp only [ofChars?, front, back, Scale.ofSymbol?_eq_some_iff.mpr rfl,
      word64?_eq_some_iff.mpr ⟨⟨present, digital⟩, value, word⟩, Option.bind_eq_bind,
      Option.bind_some]
    exact if_pos small

theorem digit_not_blank {c : Char} (digit : '0' ≤ c ∧ c ≤ '9') : isBlank c = false := by
  have low : 48 ≤ c.toNat := digit.1
  have high : c.toNat ≤ 57 := digit.2
  simp only [isBlank, Bool.or_eq_false_iff, Bool.and_eq_false_iff, decide_eq_false_iff_not,
    beq_eq_false_iff_ne]
  omega

theorem Spells.bare {text : List Char} {duration : Duration} (spells : Spells text duration) :
    Bare text := by
  obtain @⟨digits, number, scale, present, decimal, -, -⟩ := spells
  constructor
  · intro c first
    obtain ⟨digit, rest, rfl⟩ := List.exists_cons_of_ne_nil present
    cases first
    exact digit_not_blank (decimal _ List.mem_cons_self)
  · intro c last
    rw [List.getLast?_append] at last
    cases scale <;> cases last <;> rfl

theorem Spells.ne_nil {text : List Char} {duration : Duration} (spells : Spells text duration) :
    text ≠ [] := by
  obtain ⟨scale, present, -, -, -⟩ := spells
  exact List.append_ne_nil_of_left_ne_nil present _

theorem parse?_eq_some_iff {text : String} {duration : Duration} :
    parse? text = some duration ↔ Denotes text.toList duration := by
  rw [parse?, ofChars?_eq_some_iff]
  constructor
  · exact fun spells => ⟨_, trim_padded _, spells⟩
  · rintro ⟨inner, padded, spells⟩
    rwa [trim_eq_of_padded padded spells.bare]

/-! ## Writing -/

theorem toMilliseconds_ofMilliseconds (count : Nat) :
    (ofMilliseconds count).toMilliseconds = count :=
  Nat.mul_div_cancel count (by decide)

/-- Of any unit, the milliseconds that fit come in whole larger units that fit. -/
theorem Scale.Fits.scaleOf {scale : Scale} {count : Nat} (fits : scale.Fits count) :
    let total := count * scale.milliseconds
    total / (scaleOf total).milliseconds * (scaleOf total).milliseconds = total ∧
      (Duration.scaleOf total).Fits (total / (Duration.scaleOf total).milliseconds) := by
  intro total
  have bound : total < 2 ^ 64 * 1000 ∧ (total % 1000 = 0 ∨ total < 2 ^ 64) := by
    cases scale <;> simp only [Fits] at fits <;> simp only [total, milliseconds] <;> omega
  clear_value total
  unfold Duration.scaleOf
  split
  case isTrue hours =>
    simp only [Fits, milliseconds]
    omega
  split
  case isTrue minutes =>
    simp only [Fits, milliseconds]
    omega
  split <;> simp only [Fits, milliseconds] <;> omega

/-- The short form of a duration that can be denoted denotes it. -/
theorem Spells.toChars {text : List Char} {duration : Duration} (spells : Spells text duration) :
    Spells duration.toChars duration := by
  obtain @⟨digits, number, scale, -, -, -, fits⟩ := spells
  obtain ⟨whole, held⟩ := fits.scaleOf
  have short := Spells.count _ (digitsOf_ne_nil _)
    (fun c member => (isDigit_iff c).mp (isDigit_digitsOf _ c member))
    ((valueOf_eq_ofDigits _).symm.trans (valueOf_digitsOf _)) held
  rw [whole] at short
  rw [Duration.toChars, toMilliseconds_ofMilliseconds]
  exact short

theorem parse?_render {text : String} {duration : Duration} (read : parse? text = some duration) :
    parse? duration.render = some duration := by
  obtain ⟨inner, -, spells⟩ := parse?_eq_some_iff.mp read
  rw [parse?_eq_some_iff, render, String.toList_ofList]
  exact ⟨_, padded_self _, spells.toChars⟩

end HomeRules.Duration
