import HomeRules.Event.Key
import HomeRules.Proofs.Duration
import Mathlib.Data.List.Basic

/-!
# What event keys denote

A key is accepted when it is, blanks around it aside, an entity after `state:`, a duration after
`every:` or a name. The key that is shown for an accepted kind denotes this kind again, so that
two keys denote the same kind exactly when the same key is shown for them.
-/

set_option autoImplicit false

namespace HomeRules.EventKind

open Text

/-! ## What a key denotes -/

/-- `a` to `z`, `0` to `9` and the underscore. -/
def Plain (c : Char) : Prop :=
  ('a' ≤ c ∧ c ≤ 'z') ∨ ('0' ≤ c ∧ c ≤ '9') ∨ c = '_'

/-- What a key without blanks around it denotes. -/
inductive Denotes : List Char → EventKind → Prop where
  | state {domain object : List Char} (named : domain ≠ [] ∧ object ≠ [])
      (plain : ∀ c ∈ domain ++ object, Plain c) :
      Denotes ("state:".toList ++ (domain ++ '.' :: object))
        (.stateChanged (String.ofList (domain ++ '.' :: object)))
  | every {text : List Char} {period : Duration} (denotes : Duration.Denotes text period)
      (lasting : period ≠ .zero) : Denotes ("every:".toList ++ text) (.interval period)
  | bus {name : List Char} (named : name ≠ [])
      (plain : ∀ c ∈ name, Plain c ∨ c = '.' ∨ c = '-') : Denotes name (.bus (String.ofList name))

/-! ## Characters -/

theorem isIdentifierChar_iff (c : Char) : isIdentifierChar c = true ↔ Plain c := by
  simp only [isIdentifierChar, isDigit, Plain, Bool.or_eq_true, Bool.and_eq_true,
    decide_eq_true_eq, beq_iff_eq, or_assoc]

theorem isNameChar_iff (c : Char) : isNameChar c = true ↔ Plain c ∨ c = '.' ∨ c = '-' := by
  simp only [isNameChar, Bool.or_eq_true, isIdentifierChar_iff, beq_iff_eq, or_assoc]

theorem isIdentifier_iff (text : List Char) :
    isIdentifier text = true ↔ text ≠ [] ∧ ∀ c ∈ text, Plain c := by
  simp only [isIdentifier, Bool.and_eq_true, Bool.not_eq_true', List.isEmpty_eq_false_iff,
    List.all_eq_true, isIdentifierChar_iff, ne_eq]

theorem isEntityId_iff {text : List Char} :
    isEntityId text = true ↔ ∃ domain object, text = domain ++ '.' :: object ∧
      (domain ≠ [] ∧ object ≠ []) ∧ ∀ c ∈ domain ++ object, Plain c := by
  have undotted {domain : List Char} (plain : ∀ c ∈ domain, Plain c) : '.' ∉ domain := by
    intro member
    rcases plain '.' member with letter | digit | underscore
    · exact absurd letter.1 (by decide)
    · exact absurd digit.1 (by decide)
    · exact absurd underscore (by decide)
  constructor
  · intro accepted
    unfold isEntityId at accepted
    split at accepted
    case h_2 => cases accepted
    case h_1 domain object cut =>
      obtain ⟨first, second⟩ := Bool.and_eq_true_iff.mp accepted
      obtain ⟨one, plain⟩ := (isIdentifier_iff domain).mp first
      obtain ⟨two, simple⟩ := (isIdentifier_iff object).mp second
      refine ⟨domain, object, (cutAt_eq_some_iff.mp cut).1, ⟨one, two⟩, fun c member => ?_⟩
      exact (List.mem_append.mp member).elim (plain c) (simple c)
  · rintro ⟨domain, object, rfl, ⟨one, two⟩, plain⟩
    have front (c : Char) (member : c ∈ domain) := plain c (List.mem_append_left _ member)
    have back (c : Char) (member : c ∈ object) := plain c (List.mem_append_right _ member)
    rw [isEntityId, cutAt_eq_some_iff.mpr ⟨rfl, undotted front⟩]
    exact Bool.and_eq_true_iff.mpr
      ⟨(isIdentifier_iff _).mpr ⟨one, front⟩, (isIdentifier_iff _).mpr ⟨two, back⟩⟩

theorem not_blank_of_name {c : Char} (name : Plain c ∨ c = '.' ∨ c = '-') : isBlank c = false := by
  have code : (97 ≤ c.toNat ∧ c.toNat ≤ 122) ∨ (48 ≤ c.toNat ∧ c.toNat ≤ 57) ∨ c.toNat = 95 ∨
      c.toNat = 46 ∨ c.toNat = 45 := by
    rcases name with (letter | digit | rfl) | rfl | rfl
    · exact .inl letter
    · exact .inr (.inl digit)
    · exact .inr (.inr (.inl rfl))
    · exact .inr (.inr (.inr (.inl rfl)))
    · exact .inr (.inr (.inr (.inr rfl)))
  simp only [isBlank, Bool.or_eq_false_iff, Bool.and_eq_false_iff, decide_eq_false_iff_not,
    beq_eq_false_iff_ne]
  omega

theorem bare_of_not_blank {text : List Char} (none : ∀ c ∈ text, isBlank c = false) : Bare text :=
  ⟨fun c first => none c (List.mem_of_head? first),
    fun c last => none c (List.mem_of_getLast? last)⟩

/-! ## Reading -/

theorem ofChars_denotes {key : List Char} {kind : EventKind} (read : ofChars key = .ok kind) :
    Denotes key kind := by
  unfold ofChars at read
  split at read
  case isTrue => cases read
  case isFalse present =>
    split at read
    case h_1 entity begins =>
      split at read
      case isFalse => cases read
      case isTrue entityId =>
        cases read
        obtain ⟨domain, object, rfl, named, plain⟩ := isEntityId_iff.mp entityId
        rw [dropBeginning_eq_some_iff.mp begins]
        exact .state named plain
    case h_2 =>
      split at read
      case h_1 text begins =>
        rw [dropBeginning_eq_some_iff.mp begins]
        split at read
        case h_1 => cases read
        case h_2 period spelled =>
          split at read
          case isTrue => cases read
          case isFalse lasting =>
            cases read
            refine .every ⟨_, trim_padded text, Duration.ofChars?_eq_some_iff.mp spelled⟩ ?_
            rintro rfl
            exact lasting rfl
      case h_2 =>
        split at read
        case isFalse => cases read
        case isTrue name =>
          cases read
          refine .bus (mt List.isEmpty_iff.mpr present) fun c member => ?_
          exact (isNameChar_iff c).mp (List.all_eq_true.mp name c member)

theorem ofChars_of_denotes {key : List Char} {kind : EventKind} (denotes : Denotes key kind) :
    ofChars key = .ok kind := by
  cases denotes with
  | state named plain =>
      have entity := isEntityId_iff.mpr ⟨_, _, rfl, named, plain⟩
      rw [ofChars, if_neg (by simp), dropBeginning_eq_some_iff.mpr rfl]
      exact if_pos entity
  | @every text period denotes lasting =>
      obtain ⟨inner, padded, spells⟩ := denotes
      have other : dropBeginning "state:".toList ("every:".toList ++ text) = none := rfl
      have some : period.isZero ≠ true := by
        intro zero
        exact lasting (congrArg Duration.mk (beq_iff_eq.mp zero))
      rw [ofChars, if_neg (by simp), other, dropBeginning_eq_some_iff.mpr rfl]
      dsimp only
      rw [trim_eq_of_padded padded spells.bare, Duration.ofChars?_eq_some_iff.mpr spells]
      exact if_neg some
  | bus named plain =>
      have names (c : Char) (member : c ∈ key) := (isNameChar_iff c).mpr (plain c member)
      -- Neither beginning is a name, because of its colon.
      have unbegun (beginning : List Char) (colon : ':' ∈ beginning) :
          dropBeginning beginning key = none := by
        refine Option.eq_none_iff_forall_ne_some.mpr fun rest begins => ?_
        rw [dropBeginning_eq_some_iff.mp begins] at names
        exact absurd (names ':' (List.mem_append_left _ colon)) (by decide)
      rw [ofChars, if_neg (by simpa using named), unbegun _ (by decide), unbegun _ (by decide)]
      exact if_pos (List.all_eq_true.mpr names)

theorem parse_eq_ok_iff {text : String} {kind : EventKind} :
    parse text = .ok kind ↔ ∃ key, Padded key text.toList ∧ Bare key ∧ Denotes key kind := by
  rw [parse]
  constructor
  · exact fun read => ⟨_, trim_padded _, trim_bare _, ofChars_denotes read⟩
  · rintro ⟨key, padded, bare, denotes⟩
    rw [trim_eq_of_padded padded bare]
    exact ofChars_of_denotes denotes

/-! ## Showing -/

theorem toChars_stateChanged (entity : List Char) :
    toChars (.stateChanged (String.ofList entity)) = "state:".toList ++ entity :=
  congrArg ("state:".toList ++ ·) String.toList_ofList

theorem toChars_bus (name : List Char) : toChars (.bus (String.ofList name)) = name :=
  String.toList_ofList

/-- The key that is shown for a kind denotes it, if any key does. -/
theorem Denotes.toChars {key : List Char} {kind : EventKind} (denotes : Denotes key kind) :
    Denotes kind.toChars kind := by
  cases denotes with
  | state named plain =>
      rw [toChars_stateChanged]
      exact .state named plain
  | every denotes lasting =>
      obtain ⟨inner, -, spells⟩ := denotes
      exact .every ⟨_, padded_self _, spells.toChars⟩ lasting
  | bus named plain =>
      rw [toChars_bus]
      exact .bus named plain

theorem Denotes.bare {key : List Char} {kind : EventKind} (denotes : Denotes key kind) :
    Bare kind.toChars := by
  cases denotes with
  | @state domain object named plain =>
      rw [toChars_stateChanged]
      refine ⟨fun c first => by cases first; rfl, fun c last => ?_⟩
      rw [List.append_cons domain, ← List.append_assoc,
        List.getLast?_append_of_ne_nil _ named.2] at last
      exact not_blank_of_name
        (.inl (plain c (List.mem_append_right _ (List.mem_of_getLast? last))))
  | @every text period denotes lasting =>
      obtain ⟨inner, -, spells⟩ := denotes
      have short := spells.toChars
      refine ⟨fun c first => by cases first; rfl, fun c last => short.bare.last c ?_⟩
      change c ∈ ("every:".toList ++ period.toChars).getLast? at last
      rwa [List.getLast?_append_of_ne_nil _ short.ne_nil] at last
  | bus named plain =>
      rw [toChars_bus]
      exact bare_of_not_blank fun c member => not_blank_of_name (plain c member)

theorem parse_render {text : String} {kind : EventKind} (read : parse text = .ok kind) :
    parse kind.render = .ok kind := by
  obtain ⟨key, -, -, denotes⟩ := parse_eq_ok_iff.mp read
  rw [parse_eq_ok_iff, render, String.toList_ofList]
  exact ⟨_, padded_self _, denotes.bare, denotes.toChars⟩

/-- An interval that a key names is a positive number of milliseconds. -/
theorem interval_whole {text : String} {period : Duration}
    (read : parse text = .ok (.interval period)) :
    ∃ count, 0 < count ∧ period = .ofMilliseconds count := by
  obtain ⟨key, -, -, denotes⟩ := parse_eq_ok_iff.mp read
  cases denotes with
  | every denotes lasting =>
      obtain ⟨inner, -, spells⟩ := denotes
      cases spells with
      | @count digits number scale present decimal value fits =>
          refine ⟨number * scale.milliseconds, Nat.pos_of_ne_zero fun none => lasting ?_, rfl⟩
          rw [none]
          rfl

/-- An accepted key is read back from what is shown for its kind, so kinds are told apart by what
is shown for them. The keys that are accepted are those that denote a kind, blanks around them
aside. What is shown for a duration that can be read is read as the same duration. -/
theorem keys_round_trip :
    (∀ text kind, parse text = .ok kind → parse kind.render = .ok kind) ∧
      (∀ one other kind kind', parse one = .ok kind → parse other = .ok kind' →
        (kind = kind' ↔ kind.render = kind'.render)) ∧
      (∀ text kind, parse text = .ok kind ↔
        ∃ key, Padded key text.toList ∧ Bare key ∧ Denotes key kind) ∧
      ∀ text duration, Duration.parse? text = some duration →
        Duration.parse? duration.render = some duration := by
  refine ⟨fun text kind => parse_render, ?_, fun text kind => parse_eq_ok_iff,
    fun text duration => Duration.parse?_render⟩
  intro one other kind kind' first second
  refine ⟨congrArg render, fun shown => ?_⟩
  have read := parse_render first
  rw [shown, parse_render second] at read
  exact (Except.ok.inj read).symm

/-- The longest interval that is a number of hours, given in minutes and in hours. -/
theorem keys_round_trip_longest :
    let hours := EventKind.interval (.ofMilliseconds (5124095576030431 * 3600000))
    let period := Duration.ofMilliseconds (307445734561825860 * 60000)
    (parse "every:5124095576030431h" = .ok hours ∧
        parse "every: 307445734561825860m " = .ok (.interval period) ∧
        Duration.parse? "307445734561825860m" = some period) ∧
      parse (interval period).render = .ok (.interval period) ∧
      (hours = .interval period ↔ hours.render = (interval period).render) ∧
      Duration.parse? period.render = some period := by
  intro hours period
  have first : parse "every:5124095576030431h" = .ok hours := rfl
  have second : parse "every: 307445734561825860m " = .ok (.interval period) := rfl
  have third : Duration.parse? "307445734561825860m" = some period := rfl
  obtain ⟨shown, apart, -, durations⟩ := keys_round_trip
  exact ⟨⟨first, second, third⟩, shown _ _ second, apart _ _ _ _ first second,
    durations _ _ third⟩

end HomeRules.EventKind
