import HomeRules.Text.Blank
import HomeRules.Vocabulary

/-! # Condition expressions

Conditions as texts: `|` binds loosest, then `&`, then the prefix `!`. A term is
the name of a condition, or a filter `old:` or `new:` with a list of states. -/

set_option autoImplicit false

namespace HomeRules

namespace Expression

/-- The number of leading `!` of a term and what follows them. Blanks after a `!`
are skipped. -/
def negations : Bool → List Char → Nat × List Char
  | _, [] => (0, [])
  | negated, c :: rest =>
    if c = '!' then
      let (count, term) := negations true rest
      (count + 1, term)
    else if negated && Text.isBlank c then negations true rest
    else (0, c :: rest)

/-- Negates a condition several times. -/
def negate : Nat → Condition → Condition
  | 0, condition => condition
  | count + 1, condition => (negate count condition).not

/-- The states of a filter. `expression` is the text a fault is reported for. -/
def states (expression : String) (list : List Char) : Except SchemaError (List String) :=
  let names := (Text.splitAt ',' list).map Text.trim
  if names.any List.isEmpty then .error (.invalid (.emptyStateName expression))
  else .ok (names.map String.ofList)

/-- The condition of a term without negations. -/
def atom (vocabulary : Vocabulary) (expression : String) (term : List Char) :
    Except SchemaError Condition :=
  if term.isEmpty then .error (.invalid (.malformedExpression expression))
  else
    match Text.dropBeginning "old:".toList term with
    | some list => (states expression list).map Condition.oldStateIn
    | none =>
      match Text.dropBeginning "new:".toList term with
      | some list => (states expression list).map Condition.newStateIn
      | none => vocabulary.condition (String.ofList term)

/-- The condition of a term between operators. -/
def term (vocabulary : Vocabulary) (expression : String) (text : List Char) :
    Except SchemaError Condition :=
  let (count, rest) := negations false (Text.trim text)
  (atom vocabulary expression rest).map (negate count)

/-- The condition of terms joined by `&`. -/
def alternative (vocabulary : Vocabulary) (expression : String) (text : List Char) :
    Except SchemaError Condition :=
  ((Text.splitAt '&' text).mapM (term vocabulary expression)).map Condition.conjunction

end Expression

def Vocabulary.expression (vocabulary : Vocabulary) (text : String) :
    Except SchemaError Condition := do
  let alternatives ←
    (Text.splitAt '|' text.toList).mapM (Expression.alternative vocabulary text)
  match alternatives with
  | [condition] => return condition
  | conditions => return Condition.disjunction conditions

end HomeRules
