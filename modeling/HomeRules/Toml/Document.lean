import HomeRules.Toml.Value

/-! # Assembling TOML documents

A document is a sequence of assignments and headers. Assembling them keeps, for
each table, whether it was only implied by a longer path and whether dotted keys
made it, because that decides what may still be added to it. A header that names
an implied table moves it behind the tables read so far. -/

set_option autoImplicit false

namespace HomeRules.Toml

/-- A part of a document under construction. -/
inductive Node where
  | leaf (value : Value)
  | table (isImplied isDotted : Bool) (entries : List (String × Node))
  | tables (items : List (List (String × Node)))
  deriving Inhabited

/-- The entries of a table under construction, in order. -/
abbrev Entries := List (String × Node)

namespace Entries

def get? (key : String) : Entries → Option Node
  | [] => none
  | (k, node) :: rest => if k = key then some node else get? key rest

def replace (key : String) (node : Node) (entries : Entries) : Entries :=
  entries.map fun (k, old) => if k = key then (k, node) else (k, old)

def remove (key : String) (entries : Entries) : Entries :=
  entries.filter (·.1 != key)

def changeLast {α β : Type} (change : α → Option (β × α)) : List α → Option (β × List α)
  | [] => none
  | [last] => (change last).map fun (result, last) => (result, [last])
  | first :: rest => (changeLast change rest).map fun (result, rest) => (result, first :: rest)

/-- Changes the table at the end of a path, and implies the tables on the way
that are missing. A dotted path does not enter tables that were written out. The
change is told whether its table is dotted. -/
def within {α : Type} (dotted : Bool) (change : Bool → Entries → Option (α × Entries)) :
    List String → Bool → Entries → Option (α × Entries)
  | [], isDotted, entries => change isDotted entries
  | key :: path, _, entries =>
    match get? key entries with
    | none => do
      let (result, inner) ← within dotted change path dotted []
      return (result, entries ++ [(key, .table true dotted inner)])
    | some (.leaf _) => none
    | some (.tables items) => do
      let (result, items) ← changeLast (within dotted change path false) items
      return (result, replace key (.tables items) entries)
    | some (.table isImplied isDotted inner) =>
      if dotted && !isImplied then none
      else do
        let (result, inner) ← within dotted change path isDotted inner
        return (result, replace key (.table isImplied isDotted inner) entries)

def assign (path : List String) (key : String) (value : Value) (entries : Entries) :
    Option Entries :=
  let change (isDotted : Bool) (inner : Entries) : Option (Unit × Entries) :=
    if isDotted == path.isEmpty || (get? key inner).isSome then none
    else some ((), inner ++ [(key, .leaf value)])
  (within true change path false entries).map (·.2)

end Entries

mutual

def Node.toValue : Node → Value
  | .leaf value => value
  | .table _ _ entries => .table (valuesOf entries)
  | .tables items => .array (tablesOf items)

def valuesOf : List (String × Node) → List (String × Value)
  | [] => []
  | (key, node) :: rest => (key, node.toValue) :: valuesOf rest

def tablesOf : List (List (String × Node)) → List Value
  | [] => []
  | entries :: rest => .table (valuesOf entries) :: tablesOf rest

end

inductive Statement where
  | assign (path : List String) (key : String) (value : Value)
  | header (path : List String) (key : String)
  | arrayHeader (path : List String) (key : String)

/-- A document under construction: the finished tables, and the table being
filled with the header it belongs under. -/
structure Assembly where
  root : Entries := []
  current : Entries := []
  header : Option (List String × String × Bool) := none

namespace Assembly

/-- Puts the table being filled into its place. -/
def finish (assembly : Assembly) : Option Entries :=
  match assembly.header with
  | none => some assembly.current
  | some (path, key, isArray) =>
    let change (_ : Bool) (entries : Entries) : Option (Unit × Entries) :=
      match Entries.get? key entries with
      | none =>
        let node : Node :=
          if isArray then .tables [assembly.current] else .table false false assembly.current
        some ((), entries ++ [(key, node)])
      | some (.tables items) =>
        if isArray then some ((), entries.replace key (.tables (items ++ [assembly.current])))
        else none
      | some _ => none
    (Entries.within false change path false assembly.root).map (·.2)

def startTable (root : Entries) (path : List String) (key : String) : Option Assembly := do
  let change (_ : Bool) (entries : Entries) : Option (Entries × Entries) :=
    match Entries.get? key entries with
    | none => some ([], entries)
    | some (.table true false inner) => some (inner, entries.remove key)
    | some _ => none
  let (current, root) ← Entries.within false change path false root
  return { root, current, header := some (path, key, false) }

/-- Starts the next table of an array of tables. -/
def startArrayTable (root : Entries) (path : List String) (key : String) : Option Assembly := do
  let change (_ : Bool) (entries : Entries) : Option (Unit × Entries) :=
    match Entries.get? key entries with
    | none => some ((), entries ++ [(key, .tables [])])
    | some (.tables _) => some ((), entries)
    | some _ => none
  let (_, root) ← Entries.within false change path false root
  return { root, current := [], header := some (path, key, true) }

def add (assembly : Assembly) : Statement → Option Assembly
  | .assign path key value => do
    let current ← assembly.current.assign path key value
    return { assembly with current }
  | .header path key => do
    let root ← assembly.finish
    startTable root path key
  | .arrayHeader path key => do
    let root ← assembly.finish
    startArrayTable root path key

end Assembly

/-- The entries of a document, in order. -/
def assemble (statements : List Statement) : Option (List (String × Value)) := do
  let assembly ← statements.foldlM Assembly.add {}
  let root ← assembly.finish
  return valuesOf root

end HomeRules.Toml
