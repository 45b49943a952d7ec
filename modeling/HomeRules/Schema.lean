import HomeRules.Action
import HomeRules.Condition

/-! # Schemas

What a script does about events: an ordered map from kinds of events to guarded
action lists. An entry whose kind is dispatched either restarts its owner, which
drops the owner's pending work, or runs in parallel to it. -/

set_option autoImplicit false

namespace HomeRules

/-- What a matching event does to work its owner still has pending. -/
inductive TriggerMode where
  | restart
  | parallel
  deriving DecidableEq, Repr, Inhabited

structure GuardedActions where
  condition : Condition
  actions : List Action
  deriving Repr, Inhabited

/-- The actions of an entry: one list without a guard, or guarded lists in
declaration order, of which an exclusive mapping runs the first that matches. -/
inductive ConditionSchema where
  | unconditional (actions : List Action)
  | conditional (items : List GuardedActions) (exclusive : Bool)
  deriving Repr, Inhabited

/-- The names of all leaf actions, whatever their conditions. -/
def ConditionSchema.flatNames : ConditionSchema → List String
  | .unconditional actions => Action.flatNames actions
  | .conditional items _ => items.flatMap fun item => Action.flatNames item.actions

/-- What a script does about one kind of event. -/
structure SchemaEntry where
  kind : EventKind
  body : ConditionSchema
  mode : TriggerMode
  deriving Repr, Inhabited

/-- The entries of a script, and the owner whose pending work they restart. -/
structure EventSchema where
  owner : Option String := none
  entries : List SchemaEntry := []
  deriving Repr, Inhabited

namespace EventSchema

def entry? (schema : EventSchema) (kind : EventKind) : Option SchemaEntry :=
  schema.entries.find? (·.kind = kind)

/-- The kinds of events a schema is bound to, in order. -/
def kinds (schema : EventSchema) : List EventKind :=
  schema.entries.map (·.kind)

/-- The same entries in the hands of an owner. -/
def withOwner (schema : EventSchema) (owner : String) : EventSchema :=
  { schema with owner := some owner }

end EventSchema

end HomeRules
