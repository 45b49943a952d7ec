import HomeRules.Decimal.Binary64
import HomeRules.Dictionary

/-! # TOML values

The values of the configuration language. The entries of a table are in the
order of the document until they are sorted by key. -/

set_option autoImplicit false

namespace HomeRules.Toml

/-- A TOML value. A date or time is kept as its normal text. -/
inductive Value where
  | string (text : String)
  | integer (value : Int)
  | float (value : Binary64)
  | boolean (value : Bool)
  | datetime (text : String)
  | array (items : List Value)
  | table (entries : List (String × Value))
  deriving BEq, Repr, Inhabited

/-- A table with its keys in order. -/
abbrev Table := Dictionary Value

namespace Value

/-- The word for the sort of a value. -/
def sort : Value → String
  | .string _ => "string"
  | .integer _ => "integer"
  | .float _ => "float"
  | .boolean _ => "boolean"
  | .datetime _ => "datetime"
  | .array _ => "array"
  | .table _ => "table"

mutual

/-- Whether a value is equal to itself, which a number that is none is not. -/
def isReflexive : Value → Bool
  | .float value => value.isOrdered
  | .array items => areReflexive items
  | .table entries => entriesReflexive entries
  | _ => true

/-- Whether values are equal to themselves. -/
def areReflexive : List Value → Bool
  | [] => true
  | item :: rest => item.isReflexive && areReflexive rest

/-- Whether the values of entries are equal to themselves. -/
def entriesReflexive : List (String × Value) → Bool
  | [] => true
  | (_, value) :: rest => value.isReflexive && entriesReflexive rest

end

mutual

/-- The number of levels of arrays and tables in a value. -/
def levels : Value → Nat
  | .array items => itemsLevels items + 1
  | .table entries => entriesLevels entries + 1
  | _ => 0

/-- The number of levels of the deepest of several values. -/
def itemsLevels : List Value → Nat
  | [] => 0
  | item :: rest => max item.levels (itemsLevels rest)

/-- The number of levels of the deepest of several entries. -/
def entriesLevels : List (String × Value) → Nat
  | [] => 0
  | (_, value) :: rest => max value.levels (entriesLevels rest)

end

def text? : Value → Option String
  | .string text => some text
  | _ => none

def boolean? : Value → Option Bool
  | .boolean value => some value
  | _ => none

def table? : Value → Option Table
  | .table entries => some entries
  | _ => none

end Value

end HomeRules.Toml
