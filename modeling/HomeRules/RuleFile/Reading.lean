import HomeRules.RuleFile
import HomeRules.Toml.Decode
import HomeRules.Toml.Grammar

/-! # Reading rule files

The syntax of the whole file is checked first; then it is decoded in document
order. -/

set_option autoImplicit false

namespace HomeRules

open Toml

/-- Reads an action list, whose entries are looked at later. -/
def decodeActions : Value → Except DecodeError (List Value) :=
  decodeList decodeAny

/-- The fields of a branch whose inner branches are read by `inner`. -/
def branchFields (inner : Value → Except DecodeError BranchSpec) :
    List (RecordField BranchSpec) := [
  { name := "condition", required := true
    store := fun value spec =>
      (decodeString value).map fun condition => .mk condition spec.actions spec.branches },
  { name := "actions"
    store := fun value spec =>
      (decodeActions value).map fun actions => .mk spec.condition (some actions) spec.branches },
  { name := "when", defaulted := true
    store := fun value spec =>
      (decodeList inner value).map fun branches => .mk spec.condition spec.actions branches }]

/-- Reads a branch with at most as many levels as the first argument says. -/
def decodeBranchWithin : Nat → Value → Except DecodeError BranchSpec
  | 0, _ => .error .mismatch
  | levels + 1, value =>
    decodeRecord (branchFields (decodeBranchWithin levels)) true (.mk "" none []) value

def decodeBranch (value : Value) : Except DecodeError BranchSpec :=
  decodeBranchWithin (value.levels + 1) value

def ruleFields : List (RecordField RuleSpec) := [
  { name := "event", required := true
    store := fun value spec => (decodeString value).map ({ spec with event := · }) },
  { name := "actions"
    store := fun value spec => (decodeActions value).map ({ spec with actions := some · }) },
  { name := "first_match", defaulted := true
    store := fun value spec => (decodeBoolean value).map ({ spec with firstMatch := · }) },
  { name := "restart", defaulted := true
    store := fun value spec => (decodeBoolean value).map ({ spec with restart := · }) },
  { name := "when", defaulted := true
    store := fun value spec =>
      (decodeList decodeBranch value).map ({ spec with branches := · }) }]

def triggerFields : List (RecordField TriggerSpec) := [
  { name := "entity", required := true
    store := fun value spec => (decodeString value).map ({ spec with entity := · }) },
  { name := "from", defaulted := true
    store := fun value spec =>
      (decodeList decodeString value).map ({ spec with comingFrom := · }) },
  { name := "to", defaulted := true
    store := fun value spec =>
      (decodeList decodeString value).map ({ spec with goingTo := · }) },
  { name := "condition"
    store := fun value spec => (decodeString value).map ({ spec with condition := some · }) }]

def decodeTriggers : Value → Except DecodeError (List TriggerSpec) :=
  decodeList (decodeRecord triggerFields true {})

def stateFields : List (RecordField StateSpec) := [
  { name := "name", required := true
    store := fun value spec => (decodeString value).map ({ spec with name := · }) },
  { name := "condition", required := true
    store := fun value spec => (decodeString value).map ({ spec with condition := · }) },
  { name := "actions"
    store := fun value spec => (decodeActions value).map ({ spec with actions := some · }) },
  { name := "activated_by", defaulted := true
    store := fun value spec => (decodeTriggers value).map ({ spec with activatedBy := · }) },
  { name := "affect_by", defaulted := true
    store := fun value spec => (decodeTriggers value).map ({ spec with affectedBy := · }) },
  { name := "depend_on", defaulted := true
    store := fun value spec =>
      (decodeList (decodeList decodeString) value).map ({ spec with dependsOn := · }) }]

def ruleFileFields : List (RecordField RuleFile) := [
  { name := "script"
    store := fun value file => (decodeString value).map ({ file with script := some · }) },
  { name := "settings", defaulted := true
    store := fun value file =>
      (decodeTable decodeAny value).map ({ file with settings := · }) },
  { name := "groups", defaulted := true
    store := fun value file =>
      (decodeTable decodeActions value).map ({ file with groups := · }) },
  { name := "rules", defaulted := true
    store := fun value file =>
      (decodeList (decodeRecord ruleFields true {}) value).map ({ file with rules := · }) },
  { name := "states", defaulted := true
    store := fun value file =>
      (decodeList (decodeRecord stateFields true {}) value).map ({ file with states := · }) }]

/-- Why a text is not a rule file: its syntax, or the form of its contents. -/
inductive ReadingError where
  | grammar
  | form (cause : DecodeError)
  deriving DecidableEq, Repr

/-- The wording of a problem that belongs to rule files rather than to TOML. -/
def ReadingError.detail : ReadingError → Option String
  | .grammar => none
  | .form cause => cause.detail

def RuleFile.read (text : String) : Except ReadingError RuleFile :=
  match parse? text with
  | none => .error .grammar
  | some entries =>
    (decodeRecord ruleFileFields true {} (.table entries)).mapError .form

end HomeRules
