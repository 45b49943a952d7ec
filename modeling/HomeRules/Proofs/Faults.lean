import Mathlib.Data.List.Forall2

/-!
# The first fault

Readers go over what an author wrote in order and stop at the first thing that is wrong
with it. A list of everything that is wrong, in the same order, says which fault that is,
and that there is a value when nothing is. Where there is a value, each part that was read
has given one.
-/

set_option autoImplicit false

namespace HomeRules

theorem ok_of_bind {ε α β : Type} {result : Except ε α} {next : α → Except ε β}
    {value : β} (done : result >>= next = .ok value) :
    ∃ middle, result = .ok middle ∧ next middle = .ok value := by
  cases result with
  | error error => cases done
  | ok middle => exact ⟨middle, rfl, done⟩

theorem ok_of_map {ε α β : Type} {result : Except ε α} {change : α → β} {value : β}
    (done : result.map change = .ok value) :
    ∃ middle, result = .ok middle ∧ change middle = value := by
  cases result with
  | error error => cases done
  | ok middle => exact ⟨middle, rfl, Except.ok.inj done⟩

/-- A result reports the first of the faults, or there is none and its value is as it
should be. -/
def Reports {ε α : Type} (faults : List ε) (good : α → Prop) : Except ε α → Prop
  | .ok value => faults = [] ∧ good value
  | .error fault => faults.head? = some fault

namespace Reports

variable {ε α β : Type} {good : α → Prop} {better : β → Prop}

theorem ok {value : α} (holds : good value) : Reports (ε := ε) [] good (.ok value) :=
  ⟨rfl, holds⟩

theorem error (fault : ε) : Reports [fault] good (.error fault) :=
  rfl

theorem exists_ok_iff {faults : List ε} {result : Except ε α}
    (reports : Reports faults good result) : (∃ value, result = .ok value) ↔ faults = [] := by
  cases result with
  | error fault =>
      refine iff_of_false nofun fun none => ?_
      rw [none] at reports
      cases reports
  | ok value => exact iff_of_true ⟨value, rfl⟩ reports.1

/-- Faults of a first part come before those of what is done with its value. -/
theorem bind {first later : List ε} {result : Except ε α} {next : α → Except ε β}
    (reports : Reports first good result)
    (continues : ∀ value, good value → Reports later better (next value)) :
    Reports (first ++ later) better (result >>= next) := by
  cases result with
  | error fault =>
      simp only [Reports] at reports
      show (first ++ later).head? = some fault
      rw [List.head?_append, reports, Option.some_or]
  | ok value =>
      obtain ⟨none, holds⟩ := reports
      rw [none, List.nil_append]
      exact continues value holds

theorem map {faults : List ε} {result : Except ε α} {change : α → β}
    (reports : Reports faults good result)
    (changes : ∀ value, good value → better (change value)) :
    Reports faults better (result.map change) := by
  cases result with
  | error fault => exact reports
  | ok value => exact ⟨reports.1, changes value reports.2⟩

theorem bind_pure {faults : List ε} {result : Except ε α} {change : α → β}
    (reports : Reports faults good result)
    (changes : ∀ value, good value → better (change value)) :
    Reports faults better (result >>= fun value => pure (change value)) :=
  reports.map changes

theorem imp {other : α → Prop} {faults : List ε} {result : Except ε α}
    (reports : Reports faults good result) (weaker : ∀ value, good value → other value) :
    Reports faults other result := by
  cases result with
  | error fault => exact reports
  | ok value => exact ⟨reports.1, weaker value reports.2⟩

/-- The items of a list are read one after the other. -/
theorem mapM {ι : Type} {faults : ι → List ε} {good : ι → α → Prop} {read : ι → Except ε α}
    (reports : ∀ item, Reports (faults item) (good item) (read item)) (items : List ι) :
    Reports (items.flatMap faults) (List.Forall₂ good items) (items.mapM read) := by
  induction items with
  | nil => exact ok .nil
  | cons item rest previous =>
      rw [List.flatMap_cons, List.mapM_cons]
      apply bind (reports item)
      intro value holds
      exact bind_pure previous fun values hold => .cons holds hold

end Reports

end HomeRules
