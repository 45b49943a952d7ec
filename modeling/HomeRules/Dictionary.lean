/-! # Dictionaries

Finite maps from texts to values, kept as pairs in increasing order of their
keys. Inserting under a key that is present replaces its value. -/

set_option autoImplicit false

namespace HomeRules

/-- Pairs of keys and values, sorted by key. -/
abbrev Dictionary (α : Type) := List (String × α)

namespace Dictionary

variable {α β : Type}

def get? (key : String) : Dictionary α → Option α
  | [] => none
  | (k, value) :: rest => if k = key then some value else get? key rest

/-- Puts a value under a key, replacing the one that was there. -/
def insert (key : String) (value : α) : Dictionary α → Dictionary α
  | [] => [(key, value)]
  | (k, old) :: rest =>
    if key = k then (key, value) :: rest
    else if key < k then (key, value) :: (k, old) :: rest
    else (k, old) :: insert key value rest

/-- The dictionary of a list of pairs; of two pairs with one key the later wins. -/
def ofList (pairs : List (String × α)) : Dictionary α :=
  pairs.foldl (fun dictionary (key, value) => dictionary.insert key value) []

def erase (key : String) (dictionary : Dictionary α) : Dictionary α :=
  dictionary.filter (·.1 != key)

def contains (key : String) (dictionary : Dictionary α) : Bool :=
  (dictionary.get? key).isSome

def keys (dictionary : Dictionary α) : List String :=
  dictionary.map (·.1)

/-- Adds the pairs of `more` whose keys are absent. -/
def extend (dictionary more : Dictionary α) : Dictionary α :=
  more.foldl
    (fun result (key, value) => if result.contains key then result else result.insert key value)
    dictionary

end Dictionary

end HomeRules
