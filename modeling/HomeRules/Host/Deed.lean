import HomeRules.Host.Supervisor

/-! # Deeds

What a host did with the rules and the tasks of its generations. Nothing that runs
reads the deeds; they are kept so that statements about whole runs can name them. -/

set_option autoImplicit false

namespace HomeRules

inductive Deed where
  /-- Evaluated a guard of a schema registered under a generation. -/
  | asked (generation : Generation)
  /-- Began a call, or asked a task for its work, of an action registered under a
  generation. -/
  | called (generation : Generation) (action : String)
  /-- Accepted work under a generation as a task. -/
  | accepted (generation : Generation) (task : TaskId)
  /-- Gave control to a task of a generation. -/
  | resumed (generation : Generation) (task : TaskId)
  /-- Moved the counter of generations to a number. -/
  | advanced (current : Generation)
  /-- Finished stopping all that belongs to generations before a number. -/
  | halted (current : Generation)
  deriving DecidableEq, Repr, Inhabited

/-- The generation under which something was registered or handed over that a deed
starts. -/
def Deed.started? : Deed → Option Generation
  | .asked generation => some generation
  | .called generation _ => some generation
  | .accepted generation _ => some generation
  | _ => none

end HomeRules
