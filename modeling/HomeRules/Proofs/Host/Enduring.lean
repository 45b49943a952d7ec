import HomeRules.Proofs.Host.Upholding

/-!
# Facts that endure

A fact that does not depend on what managers own, and that the changes keep with which a host
serves events and loads and unloads scripts, endures whatever is done to the host outside the
turns of its tasks and loops.
-/

set_option autoImplicit false

namespace HomeRules.Host

structure Enduring (fact : Host → Prop) : Prop extends Managing fact where
  beside : ∀ host world journal requests, fact host → fact { host with world, journal, requests }
  mark : ∀ deed, deed.turn? = none → Keeps fact (mark deed)
  request : Keeps fact requestReload
  cancelOwner : ∀ owner, Keeps fact (cancelOwner owner)
  dropTasks : ∀ host, fact host → fact { host with supervisor := host.supervisor.cancelAll.1 }

namespace Enduring

variable {fact : Host → Prop} (enduring : Enduring fact)
include enduring

/-- What endures is upheld, whatever it is that managers do. -/
theorem upholding : Upholding fact where
  toStriking := enduring.booking.toStriking
  beside := enduring.beside
  mark := enduring.mark
  request := enduring.request
  spawn := enduring.spawn
  cancel := enduring.cancel
  cancelOwner := enduring.cancelOwner
  dropTasks := enduring.dropTasks
  enter _ _ _ _ := enduring.changeGate _ _ _
  leave _ := enduring.changeGate _ _
  needManager := enduring.needManager
  subscribe manager _ _ _ := enduring.subscribe manager _ _
  resumeManager := enduring.resumeManager
  resumeRegistry generation := by
    refine .get fun host holds => ?_
    split
    · refine Keeps.forM enduring.resumeManager _ _ ?_
      exact enduring.still host host.bus host.gates _ host.journal holds
    · exact holds
  stopManager := enduring.stopManager
  clear host _ := enduring.still host host.bus host.gates _ host.journal

/-- What is done to a host beside its loops and cycles, also where a schema is subscribed to
events to which it has no entry. -/
theorem operate {operation : Operation} (aside : operation.aside)
    (written : ∀ host tree, fact host → fact { host with tree }) :
    Keeps fact (operate operation) := by
  cases operation with
  | subscribe manager kind schema => exact enduring.subscribe manager kind schema
  | _ => exact enduring.upholding.operate aside trivial written

end Enduring

/-! ## Facts that nothing breaks -/

/-- A fact that endures, and that neither the turns of tasks and loops nor the passing of time and
of generations break. -/
structure Unbroken (fact : Host → Prop) : Prop extends Enduring fact where
  looping : Looping fact
  runTask : ∀ id, Keeps fact (runTask id)
  advanceGeneration : Keeps fact advanceGeneration
  pass : ∀ host clock agenda, fact host → fact { host with clock, agenda }
  written : ∀ host tree, fact host → fact { host with tree }

namespace Unbroken

variable {fact : Host → Prop} (unbroken : Unbroken fact)
include unbroken

theorem unfailing : Unfailing fact where
  toUpholding := unbroken.upholding
  looping := unbroken.looping
  runTask := unbroken.runTask
  advanceGeneration := unbroken.advanceGeneration
  pass := unbroken.pass
  written := unbroken.written

theorem operate (operation : Operation) : Keeps fact (operate operation) := by
  cases operation with
  | subscribe manager kind schema => exact unbroken.subscribe manager kind schema
  | _ => exact unbroken.unfailing.operate trivial

end Unbroken

end HomeRules.Host
