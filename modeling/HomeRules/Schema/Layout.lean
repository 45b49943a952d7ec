import HomeRules.Schema

/-! # The layout of a schema

One line per event, guard and leaf action, each level indented by two. -/

set_option autoImplicit false

namespace HomeRules

def layoutLine (indent : Nat) (text : String) : String :=
  String.ofList (List.replicate indent ' ') ++ text ++ "\n"

def layoutActions (indent : Nat) (actions : List Action) : String :=
  if actions.isEmpty then layoutLine indent "(nothing)"
  else String.join ((Action.flatNames actions).map fun name => layoutLine indent ("- " ++ name))

/-- The lines of the actions of an entry. -/
def ConditionSchema.layoutAt (indent : Nat) : ConditionSchema → String
  | .unconditional actions => layoutActions indent actions
  | .conditional items exclusive =>
    (if exclusive then layoutLine indent "(first match)" else "") ++
      String.join (items.map fun item =>
        layoutLine indent ("when " ++ item.condition.name ++ ":") ++
          layoutActions (indent + 2) item.actions)

/-- The lines of the actions of an entry on their own. -/
def ConditionSchema.layout (schema : ConditionSchema) : String :=
  schema.layoutAt 0

def SchemaEntry.layout (entry : SchemaEntry) : String :=
  (match entry.mode with
    | .restart => layoutLine 0 (entry.kind.render ++ ":")
    | .parallel => layoutLine 0 (entry.kind.render ++ " (parallel):")) ++
    entry.body.layoutAt 2

def EventSchema.layout (schema : EventSchema) : String :=
  String.join (schema.entries.map SchemaEntry.layout)

end HomeRules
