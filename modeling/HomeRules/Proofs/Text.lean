import HomeRules.Text.Blank
import HomeRules.Text.Numeral
import HomeRules.Text.Split
import Mathlib.Data.List.TakeWhile
import Mathlib.Data.Nat.Digits.Defs
import Mathlib.Tactic.IntervalCases

/-!
# Cutting, trimming and counting

Cutting texts is what the list library calls it, trimming takes away the blanks around a text
and nothing else, and the digits of a number denote that number again.
-/

set_option autoImplicit false

namespace HomeRules.Text

/-! ## Cutting -/

theorem splitAt_eq (separator : Char) (text : List Char) :
    splitAt separator text = text.splitOn separator := by
  induction text with
  | nil => rfl
  | cons c rest previous =>
      have cut : (c :: rest).splitOn separator =
          if c == separator then [] :: rest.splitOn separator
          else (rest.splitOn separator).modifyHead (c :: ·) :=
        List.splitOnP_cons_eq_if_modifyHead c rest
      rw [splitAt, previous, cut]
      by_cases here : c = separator
      · rw [if_pos here, if_pos (beq_iff_eq.mpr here)]
      · rw [if_neg here, if_neg (mt beq_iff_eq.mp here)]
        cases pieces : rest.splitOn separator with
        | nil => exact absurd pieces (List.splitOnP_ne_nil _ _)
        | cons piece pieces => rfl

theorem cutAt_eq_some_iff {separator : Char} {text before after : List Char} :
    cutAt separator text = some (before, after) ↔
      text = before ++ separator :: after ∧ separator ∉ before := by
  induction text generalizing before with
  | nil => simp [cutAt]
  | cons c rest previous =>
      rw [cutAt]
      by_cases here : c = separator
      · rw [if_pos here, here]
        cases before with
        | nil => simp
        | cons first others =>
            simp only [Option.some.injEq, Prod.mk.injEq, List.cons_append, List.cons.injEq,
              List.mem_cons, not_or]
            constructor
            · rintro ⟨⟨⟩, -⟩
            · rintro ⟨⟨same, -⟩, other, -⟩
              exact absurd same other
      · rw [if_neg here]
        cases before with
        | nil => simp [here, Option.map_eq_some_iff]
        | cons first others =>
            simp only [Option.map_eq_some_iff, Prod.mk.injEq, List.cons.injEq, List.cons_append,
              List.mem_cons, not_or]
            constructor
            · rintro ⟨⟨one, two⟩, found, ⟨rfl, rfl⟩, rfl⟩
              obtain ⟨rfl, absent⟩ := previous.mp found
              exact ⟨⟨rfl, rfl⟩, Ne.symm here, absent⟩
            · rintro ⟨⟨rfl, rfl⟩, -, absent⟩
              exact ⟨(others, after), previous.mpr ⟨rfl, absent⟩, ⟨rfl, rfl⟩, rfl⟩

theorem dropBeginning_eq (beginning text : List Char) :
    dropBeginning beginning text =
      if beginning <+: text then some (text.drop beginning.length) else none := by
  induction beginning generalizing text with
  | nil => simp [dropBeginning]
  | cons b beginning previous =>
      cases text with
      | nil => simp [dropBeginning]
      | cons c text =>
          rw [dropBeginning, previous]
          by_cases same : b = c <;> simp [same, List.cons_prefix_cons]

theorem dropBeginning_eq_some_iff {beginning text rest : List Char} :
    dropBeginning beginning text = some rest ↔ text = beginning ++ rest := by
  rw [dropBeginning_eq]
  constructor
  · intro found
    split at found
    case isTrue begins =>
      obtain ⟨tail, rfl⟩ := begins
      rw [List.drop_left, Option.some.injEq] at found
      rw [found]
    case isFalse => cases found
  · rintro rfl
    rw [if_pos (List.prefix_append _ _), List.drop_left]

/-! ## Trimming -/

/-- A text with blanks around another one. -/
def Padded (inner text : List Char) : Prop :=
  ∃ before behind, text = before ++ inner ++ behind ∧
    (∀ c ∈ before, isBlank c = true) ∧ ∀ c ∈ behind, isBlank c = true

/-- A text that neither begins nor ends with a blank. -/
structure Bare (text : List Char) : Prop where
  first : ∀ c ∈ text.head?, isBlank c = false
  last : ∀ c ∈ text.getLast?, isBlank c = false

theorem padded_self (text : List Char) : Padded text text :=
  ⟨[], [], (List.append_nil text).symm, List.forall_mem_nil _, List.forall_mem_nil _⟩

theorem trim_head (text : List Char) : ∀ c ∈ (trim text).head?, isBlank c = false := by
  intro c first
  have kept : trim text <+: trimStart text := by
    have suffix := List.dropWhile_suffix (l := (trimStart text).reverse) isBlank
    have front := List.reverse_prefix.mpr suffix
    rwa [List.reverse_reverse] at front
  obtain ⟨back, whole⟩ := kept
  have begins : (trimStart text).head? = some c := by
    rw [← whole, List.head?_append, first, Option.some_or]
  have stopped := List.head?_dropWhile_not isBlank text
  rw [← trimStart, begins] at stopped
  exact stopped

theorem trim_bare (text : List Char) : Bare (trim text) := by
  refine ⟨trim_head text, fun c last => ?_⟩
  rw [trim, trimEnd, List.getLast?_reverse] at last
  have stopped := List.head?_dropWhile_not isBlank (trimStart text).reverse
  rw [last] at stopped
  exact stopped

theorem trim_padded (text : List Char) : Padded (trim text) text := by
  refine ⟨text.takeWhile isBlank, ((trimStart text).reverse.takeWhile isBlank).reverse, ?_, ?_, ?_⟩
  · rw [List.append_assoc, trim, trimEnd, ← List.reverse_append, List.takeWhile_append_dropWhile,
      List.reverse_reverse, trimStart, List.takeWhile_append_dropWhile]
  · exact fun c member => List.mem_takeWhile_imp member
  · exact fun c member => List.mem_takeWhile_imp (List.mem_reverse.mp member)

theorem dropWhile_blanks {before : List Char} (blank : ∀ c ∈ before, isBlank c = true)
    {rest : List Char} (first : ∀ c ∈ rest.head?, isBlank c = false) :
    (before ++ rest).dropWhile isBlank = rest := by
  rw [List.dropWhile_append_of_pos blank]
  cases rest with
  | nil => rfl
  | cons c rest => exact List.dropWhile_cons_of_neg (by simp [first c rfl])

theorem trim_eq_of_padded {inner text : List Char} (padded : Padded inner text)
    (bare : Bare inner) : trim text = inner := by
  obtain ⟨before, behind, rfl, blank, blanks⟩ := padded
  cases inner with
  | nil =>
      have none : trimStart (before ++ [] ++ behind) = [] := by
        refine List.dropWhile_eq_nil_iff.mpr ?_
        rw [List.append_nil]
        exact fun c member => (List.mem_append.mp member).elim (blank c) (blanks c)
      rw [trim, none]
      rfl
  | cons c rest =>
      have started : trimStart (before ++ (c :: rest) ++ behind) = (c :: rest) ++ behind := by
        rw [List.append_assoc]
        exact dropWhile_blanks blank fun d first => bare.first d first
      rw [trim, started, trimEnd, List.reverse_append, dropWhile_blanks, List.reverse_reverse]
      · exact fun d member => blanks d (List.mem_reverse.mp member)
      · rw [List.head?_reverse]
        exact bare.last

/-! ## Numerals -/

theorem isDigit_digitOf {value : Nat} (small : value < 10) : isDigit (digitOf value) = true := by
  interval_cases value <;> rfl

theorem digitValue_digitOf {value : Nat} (small : value < 10) :
    digitValue (digitOf value) = value := by
  interval_cases value <;> rfl

theorem digitsBefore_append (number : Nat) (behind : List Char) :
    digitsBefore number behind = digitsOf number ++ behind := by
  induction number using Nat.strongRecOn generalizing behind with
  | ind number previous =>
      rw [digitsOf, digitsBefore, digitsBefore.eq_def number []]
      by_cases small : number < 10
      · rw [if_pos small, if_pos small]
        rfl
      · have smaller : number / 10 < number := by omega
        rw [if_neg small, if_neg small, previous _ smaller, previous _ smaller [_],
          List.append_assoc]
        rfl

/-- The digits of a number are those of its tenth part and one more. -/
theorem digitsOf_eq (number : Nat) :
    digitsOf number =
      if number < 10 then [digitOf number]
      else digitsOf (number / 10) ++ [digitOf (number % 10)] := by
  rw [digitsOf, digitsBefore]
  split
  · rfl
  · exact digitsBefore_append _ _

theorem digitsOf_ne_nil (number : Nat) : digitsOf number ≠ [] := by
  rw [digitsOf_eq]
  split
  · exact List.cons_ne_nil _ _
  · exact List.append_ne_nil_of_right_ne_nil _ (List.cons_ne_nil _ _)

theorem isDigit_digitsOf (number : Nat) : ∀ c ∈ digitsOf number, isDigit c = true := by
  induction number using Nat.strongRecOn with
  | ind number previous =>
      rw [digitsOf_eq]
      split
      case isTrue small =>
        intro c member
        rw [List.mem_singleton.mp member]
        exact isDigit_digitOf small
      case isFalse large =>
        intro c member
        rcases List.mem_append.mp member with front | last
        · exact previous _ (by omega) c front
        · rw [List.mem_singleton.mp last]
          exact isDigit_digitOf (Nat.mod_lt _ (by decide))

/-- Digits denote a number in base ten, the most significant one first. -/
theorem valueOf_eq_ofDigits (digits : List Char) :
    valueOf digits = Nat.ofDigits 10 (digits.reverse.map digitValue) := by
  rw [valueOf, valueFrom, Nat.ofDigits_eq_foldr, List.foldr_map, List.foldr_reverse]
  congr 1
  funext value c
  exact (Nat.add_comm _ _).trans (congrArg _ (Nat.mul_comm _ _))

theorem valueOf_digitsOf (number : Nat) : valueOf (digitsOf number) = number := by
  induction number using Nat.strongRecOn with
  | ind number previous =>
      rw [digitsOf_eq]
      split
      case isTrue small =>
        exact (Nat.zero_add _).trans (digitValue_digitOf small)
      case isFalse large =>
        have last : valueFrom (number / 10) [digitOf (number % 10)] = number := by
          change number / 10 * 10 + digitValue (digitOf (number % 10)) = number
          rw [digitValue_digitOf (Nat.mod_lt _ (by decide))]
          omega
        rw [valueOf, valueFrom, List.foldl_append]
        change valueFrom (valueOf (digitsOf (number / 10))) _ = number
        rw [previous _ (by omega), last]

end HomeRules.Text
