import HomeRules.Condition.Expression
import HomeRules.Proofs.Condition
import HomeRules.Proofs.Faults
import HomeRules.Proofs.Text

/-!
# What a condition expression says

An expression is cut at `|` and its alternatives at `&`. It is accepted when every piece is
a filter or a name once its blanks and marks of negation are taken away, and is then
evaluated from left to right: alternatives until one holds, the pieces of each until one
does not.
-/

set_option autoImplicit false

namespace HomeRules

/-! ## Stopping as soon as the answer is known -/

namespace Verdict

/-- Whether the answer is `value`, so that asking goes on. -/
def isAnswer (value : Bool) (verdict : Verdict) : Bool :=
  match verdict.answer with
  | .ok answer => answer == value
  | .error _ => false

/-- What comes of asking for verdicts one after the other while the answer is `value`: the
first other answer, a failure included. Later verdicts are not asked for. -/
def inTurn (value : Bool) (verdicts : List Verdict) : Verdict where
  answer :=
    match verdicts.find? fun verdict => !verdict.isAnswer value with
    | some verdict => verdict.answer
    | none => .ok value
  asked :=
    (verdicts.take (verdicts.findIdx (fun verdict => !verdict.isAnswer value) + 1)).flatMap
      (·.asked)

theorem inTurn_cons (value : Bool) (verdict : Verdict) (rest : List Verdict) :
    inTurn value (verdict :: rest) = verdict.andThen value (inTurn value rest) := by
  obtain ⟨answer, asked⟩ := verdict
  cases answer with
  | error failure => simp [inTurn, andThen, isAnswer, List.findIdx_cons]
  | ok answer =>
      by_cases same : answer = value
      · simp [inTurn, andThen, isAnswer, same, List.findIdx_cons]
      · simp [inTurn, andThen, isAnswer, same, beq_false_of_ne same, List.findIdx_cons]

theorem inTurn_append (value : Bool) (first second : List Verdict) :
    inTurn value (first ++ second) = (inTurn value first).andThen value (inTurn value second) := by
  induction first with
  | nil => exact (silent_andThen value _).symm
  | cons verdict rest previous =>
      rw [List.cons_append, inTurn_cons, previous, inTurn_cons, andThen_assoc]

theorem inTurn_singleton (value : Bool) (verdict : Verdict) : inTurn value [verdict] = verdict := by
  rw [inTurn_cons]
  exact andThen_silent verdict value

@[simp] theorem negate_negate (verdict : Verdict) : verdict.negate.negate = verdict := by
  obtain ⟨answer, asked⟩ := verdict
  cases answer with
  | error failure => rfl
  | ok answer => simp [negate, Except.map]

end Verdict

namespace Condition

variable (answers : Answers)

theorem evaluateAll_eq (conditions : List Condition) :
    evaluateAll answers conditions = .inTurn true (conditions.map (·.evaluate answers)) := by
  induction conditions with
  | nil => rfl
  | cons condition rest previous =>
      rw [evaluateAll, previous, List.map_cons, Verdict.inTurn_cons]

theorem evaluateAny_eq (conditions : List Condition) :
    evaluateAny answers conditions = .inTurn false (conditions.map (·.evaluate answers)) := by
  induction conditions with
  | nil => rfl
  | cons condition rest previous =>
      rw [evaluateAny, previous, List.map_cons, Verdict.inTurn_cons]

/-- The members that a condition contributes to a disjunction are evaluated as it is. -/
theorem inTurn_disjuncts (condition : Condition) :
    Verdict.inTurn false (condition.disjuncts.map (·.evaluate answers)) =
      condition.evaluate answers := by
  cases condition with
  | any members => rw [disjuncts, evaluate, evaluateAny_eq]
  | leaf probe => exact Verdict.inTurn_singleton false _
  | negation inner => exact Verdict.inTurn_singleton false _
  | all members => exact Verdict.inTurn_singleton false _

theorem evaluate_disjunction (conditions : List Condition) :
    (disjunction conditions).evaluate answers =
      .inTurn false (conditions.map (·.evaluate answers)) := by
  rw [disjunction, evaluate, evaluateAny_eq]
  induction conditions with
  | nil => rfl
  | cons condition rest previous =>
      rw [List.flatMap_cons, List.map_append, Verdict.inTurn_append, previous, inTurn_disjuncts,
        List.map_cons, Verdict.inTurn_cons]

theorem evaluate_not (condition : Condition) :
    condition.not.evaluate answers = (condition.evaluate answers).negate := by
  cases condition with
  | negation inner => simp only [not, evaluate, Verdict.negate_negate]
  | leaf probe => simp only [not, evaluate]
  | all members => simp only [not, evaluate]
  | any members => simp only [not, evaluate]

end Condition

namespace Expression

theorem evaluate_negate (answers : Answers) (count : Nat) (condition : Condition) :
    (negate count condition).evaluate answers =
      if count % 2 = 1 then (condition.evaluate answers).negate
      else condition.evaluate answers := by
  induction count with
  | zero => rfl
  | succ count previous =>
      rw [negate, Condition.evaluate_not, previous]
      by_cases odd : count % 2 = 1
      · rw [if_pos odd, if_neg (by omega), Verdict.negate_negate]
      · rw [if_neg odd, if_pos (by omega)]

/-! ## Pieces -/

/-- The pieces of each alternative of a text. -/
def pieces (text : String) : List (List (List Char)) :=
  (text.toList.splitOn '|').map (·.splitOn '&')

def isMark (c : Char) : Bool :=
  c == '!' || Text.isBlank c

/-- What stands before the term of a piece: marks of negation, with blanks after them. -/
def marks (piece : List Char) : List Char :=
  (Text.trim piece).takeWhile isMark

/-- What a piece is without its blanks and marks. -/
def bare (piece : List Char) : List Char :=
  (Text.trim piece).dropWhile isMark

theorem negations_of_marked (text : List Char) :
    negations true text = ((text.takeWhile isMark).count '!', text.dropWhile isMark) := by
  induction text with
  | nil => rfl
  | cons c rest previous =>
      rw [negations, previous, List.takeWhile_cons, List.dropWhile_cons]
      by_cases mark : c = '!'
      · simp [isMark, mark]
      · by_cases blank : Text.isBlank c
        · simp [isMark, mark, blank]
        · simp [isMark, mark, blank]

theorem negations_trim (piece : List Char) :
    negations false (Text.trim piece) = ((marks piece).count '!', bare piece) := by
  rw [marks, bare, ← negations_of_marked]
  have solid := Text.trim_head piece
  cases trimmed : Text.trim piece with
  | nil => rfl
  | cons c rest =>
      rw [trimmed] at solid
      have first : Text.isBlank c = false := solid c rfl
      simp [negations, first]

inductive Term where
  | blank
  | old (states : List String)
  | new (states : List String)
  | named (name : String)

def listed (list : List Char) : List String :=
  (list.splitOn ',').map fun state => String.ofList (Text.trim state)

def Term.ofBare (term : List Char) : Term :=
  if term = [] then .blank
  else if "old:".toList <+: term then .old (listed (term.drop 4))
  else if "new:".toList <+: term then .new (listed (term.drop 4))
  else .named (String.ofList term)

/-- What is wrong with a term of the expression `text`. -/
def Term.fault? (vocabulary : Vocabulary) (text : String) : Term → Option SchemaError
  | .blank => some (.invalid (.malformedExpression text))
  | .old states => if "" ∈ states then some (.invalid (.emptyStateName text)) else none
  | .new states => if "" ∈ states then some (.invalid (.emptyStateName text)) else none
  | .named name =>
    if vocabulary.conditions.contains name then none else some (.unknownName .condition name)

/-- The condition that a term stands for when nothing is wrong with it. -/
def Term.condition? (vocabulary : Vocabulary) : Term → Option Condition
  | .blank => none
  | .old states => some (.oldStateIn states)
  | .new states => some (.newStateIn states)
  | .named name => vocabulary.conditions.get? name

def faults (vocabulary : Vocabulary) (text : String) : List SchemaError :=
  (pieces text).flatten.flatMap fun piece =>
    ((Term.ofBare (bare piece)).fault? vocabulary text).toList

/-- What a piece answers. -/
def pieceVerdict (vocabulary : Vocabulary) (answers : Answers) (piece : List Char) : Verdict :=
  match (Term.ofBare (bare piece)).condition? vocabulary with
  | some condition =>
    if (marks piece).count '!' % 2 = 1 then (condition.evaluate answers).negate
    else condition.evaluate answers
  | none => .silent false

/-- What a text without faults answers: its alternatives are asked until one holds, the
pieces of each until one does not. -/
def verdict (vocabulary : Vocabulary) (answers : Answers) (text : String) : Verdict :=
  .inTurn false <| (pieces text).map fun alternative =>
    .inTurn true (alternative.map (pieceVerdict vocabulary answers))

/-! ## Reading -/

variable (vocabulary : Vocabulary) (text : String)

private theorem states_reports (list : List Char) :
    Reports (if "" ∈ listed list then [SchemaError.invalid (.emptyStateName text)] else [])
      (· = listed list) (states text list) := by
  have blank : ((Text.splitAt ',' list).map Text.trim).any List.isEmpty = true ↔
      "" ∈ listed list := by
    rw [Text.splitAt_eq, listed, List.any_map, List.any_eq_true, List.mem_map]
    simp
  rw [states]
  by_cases empty : "" ∈ listed list
  · rw [if_pos empty, if_pos (blank.mpr empty)]
    exact .error _
  · rw [if_neg empty, if_neg (mt blank.mp empty), Text.splitAt_eq, List.map_map]
    exact .ok rfl

private theorem filter_reports (list : List Char) (filter : List String → Condition) :
    Reports (if "" ∈ listed list then some (SchemaError.invalid (.emptyStateName text))
        else none).toList
      (fun condition => some (filter (listed list)) = some condition)
      ((states text list).map filter) := by
  rw [apply_ite Option.toList]
  apply (states_reports text list).map
  intro names same
  rw [same]

private theorem atom_reports (term : List Char) :
    Reports ((Term.ofBare term).fault? vocabulary text).toList
      (fun condition => (Term.ofBare term).condition? vocabulary = some condition)
      (atom vocabulary text term) := by
  have found (beginning : List Char) (four : beginning.length = 4) :
      Text.dropBeginning beginning term =
        if beginning <+: term then some (term.drop 4) else none := by
    rw [Text.dropBeginning_eq, four]
  rw [Term.ofBare, atom, found _ rfl, found _ rfl]
  by_cases blank : term = []
  · rw [if_pos blank, if_pos (List.isEmpty_iff.mpr blank)]
    exact .error _
  · rw [if_neg blank, if_neg (mt List.isEmpty_iff.mp blank)]
    by_cases old : "old:".toList <+: term
    · rw [if_pos old, if_pos old]
      exact filter_reports text _ .oldStateIn
    · rw [if_neg old, if_neg old]
      by_cases new : "new:".toList <+: term
      · rw [if_pos new, if_pos new]
        exact filter_reports text _ .newStateIn
      · rw [if_neg new, if_neg new, Vocabulary.condition, Term.fault?, Term.condition?,
          Dictionary.contains]
        cases vocabulary.conditions.get? (String.ofList term) with
        | none => exact .error _
        | some condition => exact .ok rfl

private theorem term_reports (piece : List Char) :
    Reports ((Term.ofBare (bare piece)).fault? vocabulary text).toList
      (fun condition => ∀ answers,
        condition.evaluate answers = pieceVerdict vocabulary answers piece)
      (term vocabulary text piece) := by
  rw [term, negations_trim]
  apply (atom_reports vocabulary text (bare piece)).map
  intro condition stands answers
  rw [pieceVerdict, stands, evaluate_negate]

private theorem verdicts_eq {ι : Type} {items : List ι} {conditions : List Condition}
    {verdict : Answers → ι → Verdict}
    (means : List.Forall₂ (fun item condition => ∀ answers,
      condition.evaluate answers = verdict answers item) items conditions) (answers : Answers) :
    conditions.map (·.evaluate answers) = items.map (verdict answers) := by
  induction means with
  | nil => rfl
  | cons first _ previous => rw [List.map_cons, List.map_cons, first, previous]

private theorem alternative_reports (alternative : List Char) :
    Reports ((alternative.splitOn '&').flatMap fun piece =>
        ((Term.ofBare (bare piece)).fault? vocabulary text).toList)
      (fun condition => ∀ answers, condition.evaluate answers =
        .inTurn true ((alternative.splitOn '&').map (pieceVerdict vocabulary answers)))
      (Expression.alternative vocabulary text alternative) := by
  rw [Expression.alternative, Text.splitAt_eq]
  apply (Reports.mapM (term_reports vocabulary text) _).map
  intro conditions mean answers
  rw [Condition.evaluate_conjunction, Condition.evaluateAll_eq, verdicts_eq mean]

/-- A text that is accepted answers what its pieces answer; one that is not is rejected for
the first piece that is wrong. -/
theorem reports : Reports (faults vocabulary text)
    (fun condition => ∀ answers, condition.evaluate answers = verdict vocabulary answers text)
    (vocabulary.expression text) := by
  rw [Vocabulary.expression, Text.splitAt_eq, faults, pieces, ← List.flatMap_def,
    List.flatMap_assoc, ← List.append_nil (List.flatMap _ _)]
  apply (Reports.mapM (alternative_reports vocabulary text) _).bind
  intro conditions mean
  have answered (answers : Answers) : .inTurn false (conditions.map (·.evaluate answers)) =
      verdict vocabulary answers text := by
    rw [verdicts_eq mean, verdict, pieces, List.map_map]
    rfl
  split
  case h_1 condition single =>
    refine .ok fun answers => ?_
    rw [← answered, List.map_singleton, Verdict.inTurn_singleton]
  case h_2 =>
    refine .ok fun answers => ?_
    rw [Condition.evaluate_disjunction, answered]

end Expression

/-! ## Filters -/

theorem Dictionary.mem_keys_insert {α : Type} {key other : String} {value : α}
    (dictionary : Dictionary α) :
    other ∈ (dictionary.insert key value).keys ↔ other = key ∨ other ∈ dictionary.keys := by
  induction dictionary with
  | nil => simp [insert, keys]
  | cons first rest previous =>
      obtain ⟨k, old⟩ := first
      rw [insert]
      split
      · rename_i same
        simp [keys, same]
      · split
        · simp [keys]
        · rw [keys, List.map_cons, List.mem_cons, ← keys, previous, keys, keys, List.map_cons,
            List.mem_cons]
          exact or_left_comm

theorem Condition.mem_sortedStates (state : String) (states : List String) :
    state ∈ sortedStates states ↔ state ∈ states := by
  have folded (dictionary : Dictionary Unit) :
      state ∈ ((states.map fun state => (state, ())).foldl
        (fun dictionary pair => dictionary.insert pair.1 pair.2) dictionary).keys ↔
          state ∈ states ∨ state ∈ dictionary.keys := by
    induction states generalizing dictionary with
    | nil => simp
    | cons first rest previous =>
        rw [List.map_cons, List.foldl_cons, previous, Dictionary.mem_keys_insert, List.mem_cons,
          or_assoc, or_left_comm]
  rw [sortedStates]
  exact (folded []).trans (or_iff_left List.not_mem_nil)

private theorem any_sortedStates (state : Option String) (states : List String) :
    state.any (Condition.sortedStates states).contains = state.any (· ∈ states) := by
  cases state with
  | none => rfl
  | some state => simp [Condition.mem_sortedStates]

theorem Condition.oldStateIn_answer (states : List String) (world : World) (payload : Payload) :
    ((oldStateIn states).evaluateIn world payload).answer =
      .ok (payload.oldState.any (· ∈ states)) := by
  rw [← any_sortedStates]
  simp only [oldStateIn, evaluateIn, evaluate, Probe.verdict, Sensor.read, Except.mapError]

theorem Condition.newStateIn_answer (states : List String) (world : World) (payload : Payload) :
    ((newStateIn states).evaluateIn world payload).answer =
      .ok (payload.newState.any (· ∈ states)) := by
  rw [← any_sortedStates]
  simp only [newStateIn, evaluateIn, evaluate, Probe.verdict, Sensor.read, Except.mapError]

namespace Expression

/-! ## What is accepted -/

def IsFilter (term : List Char) : Prop :=
  "old:".toList <+: term ∨ "new:".toList <+: term

def Named (vocabulary : Vocabulary) (term : List Char) : Prop :=
  vocabulary.conditions.contains (String.ofList term) = true

/-- Whether a term can be read. One that begins like a filter is never a name. -/
structure Readable (vocabulary : Vocabulary) (term : List Char) : Prop where
  something : term ≠ []
  filter : IsFilter term → "" ∉ listed (term.drop 4)
  name : ¬IsFilter term → Named vocabulary term

theorem fault?_eq_none_iff (vocabulary : Vocabulary) (text : String) (term : List Char) :
    (Term.ofBare term).fault? vocabulary text = none ↔ Readable vocabulary term := by
  rw [Term.ofBare]
  by_cases blank : term = []
  · rw [if_pos blank, Term.fault?]
    exact iff_of_false nofun fun readable => readable.something blank
  rw [if_neg blank]
  have filtered (filter : IsFilter term) :
      (if "" ∈ listed (term.drop 4) then some (SchemaError.invalid (.emptyStateName text))
        else none) = none ↔ Readable vocabulary term := by
    constructor
    · intro none
      have full : "" ∉ listed (term.drop 4) := fun empty => by simp [empty] at none
      exact ⟨blank, fun _ => full, fun other => absurd filter other⟩
    · intro readable
      exact if_neg (readable.filter filter)
  by_cases old : "old:".toList <+: term
  · rw [if_pos old]
    exact filtered (.inl old)
  by_cases new : "new:".toList <+: term
  · rw [if_neg old, if_pos new]
    exact filtered (.inr new)
  rw [if_neg old, if_neg new, Term.fault?]
  have other : ¬IsFilter term := not_or.mpr ⟨old, new⟩
  constructor
  · intro none
    have named : Named vocabulary term := by
      by_contra unknown
      rw [Named] at unknown
      rw [if_neg unknown] at none
      cases none
    exact ⟨blank, fun filter => absurd filter other, fun _ => named⟩
  · intro readable
    exact if_pos (readable.name other)

/-- A text is accepted when all its pieces can be read, and then answers what they answer;
otherwise the first piece that cannot be read is reported. A filter asks for the state that
an entity had or got. -/
theorem read_exactly (vocabulary : Vocabulary) (text : String) :
    ((∃ condition, vocabulary.expression text = .ok condition) ↔
      ∀ piece ∈ (pieces text).flatten, Readable vocabulary (bare piece)) ∧
    Reports (faults vocabulary text)
      (fun condition => ∀ answers, condition.evaluate answers = verdict vocabulary answers text)
      (vocabulary.expression text) ∧
    ∀ states world payload,
      ((Condition.oldStateIn states).evaluateIn world payload).answer =
        .ok (payload.oldState.any (· ∈ states)) ∧
      ((Condition.newStateIn states).evaluateIn world payload).answer =
        .ok (payload.newState.any (· ∈ states)) := by
  have sound := reports vocabulary text
  refine ⟨?_, sound, fun states world payload => ⟨?_, ?_⟩⟩
  · rw [sound.exists_ok_iff, faults, List.flatMap_eq_nil_iff]
    simp only [Option.toList_eq_nil_iff, fault?_eq_none_iff]
  · exact Condition.oldStateIn_answer states world payload
  · exact Condition.newStateIn_answer states world payload

/-- A condition whose name begins like a filter, and is none. -/
def shadowed : Vocabulary :=
  .ofLists [.leaf { name := "old:", arity := .nullary, sensor := .constant true }] []

/-- Not every name in a vocabulary is an expression. -/
theorem filter_shadows_name :
    ¬((∃ condition, shadowed.expression "old:" = .ok condition) ↔
      ∀ piece ∈ (pieces "old:").flatten, bare piece ≠ [] ∧
        (IsFilter (bare piece) ∧ "" ∉ listed ((bare piece).drop 4) ∨
          Named shadowed (bare piece))) := by
  have rejected : shadowed.expression "old:" = .error (.invalid (.emptyStateName "old:")) := by
    cbv
  have only : (pieces "old:").flatten = ["old:".toList] := by
    cbv
  have known : Named shadowed (bare "old:".toList) := by
    cbv
  rw [rejected, only]
  intro accepted
  have impossible := accepted.mpr fun piece member => by
    rw [List.mem_singleton.mp member]
    exact ⟨by decide, .inr known⟩
  cases impossible with
  | intro condition same => cases same

end Expression

end HomeRules
