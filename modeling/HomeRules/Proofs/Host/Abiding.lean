import HomeRules.Proofs.Host.Enduring

/-!
# Facts that abide

A fact that endures, and that the turns of tasks and loops keep as well, abides: it is kept by
everything that is done to a host outside its load cycles, and by the part of a cycle that stops
what goes on.
-/

set_option autoImplicit false

namespace HomeRules.Host

structure Abiding (fact : Host → Prop) : Prop extends Enduring fact where
  agenda : ∀ host agenda, fact host → fact { host with agenda }
  resume : ∀ generation id, Keeps fact (Host.mark (.resumed generation id))
  turn : ∀ id, Keeps fact (continueLoop id)
  progress : ∀ id point, Keeps fact (progress id point)

namespace Abiding

variable {fact : Host → Prop} (abiding : Abiding fact)
include abiding

theorem tending : Tending fact where
  toUpholding := abiding.upholding
  agenda := abiding.agenda
  resume := abiding.resume
  progress := abiding.progress

theorem runReady (budget : Nat) : Keeps fact (runReady budget) := by
  have taken : Keeps fact takeBesideCycle :=
    fun host holds => abiding.agenda host _ holds
  exact runReady_keeps taken.leads abiding.tending.runTask abiding.turn
    (fun _ _ holds => holds) budget

theorem stop (budget : Nat) : Keeps fact (stop budget) :=
  abiding.upholding.stop abiding.runReady budget

end Abiding

end HomeRules.Host
