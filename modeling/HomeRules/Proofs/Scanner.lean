import HomeRules.Proofs.Discovery
import HomeRules.Scanner
import Mathlib.Data.List.GetD
import Mathlib.Data.Set.Card

/-!
# What scans report

A scan reports the difference between the script files that were there at the scan before it
and those that are there now, and nothing else. So one knows what is there after any number of
scans from what was there at first and from what each of them reported. A result gives the
names of new files without their times; these are looked up where the files were found.
-/

set_option autoImplicit false

namespace HomeRules

/-! ## Script files and their times -/

/-- When what stands under a name in a directory was last modified. -/
def FileTree.modified? (tree : FileTree) (directory name : String) : Option Nat :=
  ((tree.listing directory).get? name).map (·.modified)

/-- The map from the script files of a directory to the times they were last modified. -/
def FileTree.scriptTimes (tree : FileTree) (directory : String) (extensions : List String)
    (name : String) : Option Nat :=
  if Scanner.watches extensions name then tree.modified? directory name else none

namespace ScanResult

/-- A result is the difference between two maps from script files to times. -/
structure Tells (result : ScanResult) (before after : String → Option Nat) : Prop where
  changed : ∀ name time, (name, time) ∈ result.changed ↔
    ∃ old, before name = some old ∧ after name = some time ∧ old ≠ time
  added : ∀ name, name ∈ result.added ↔ before name = none ∧ (after name).isSome
  removed : ∀ name, name ∈ result.removed ↔ (before name).isSome ∧ after name = none
  /-- No name is reported twice, neither in one list nor in two of them. -/
  once : (result.changed.map (·.1) ++ result.added ++ result.removed).Nodup

/-- The map that a result leads to: what it reports as removed is gone, what it reports as
changed has its new time, and what it reports as added has the time it was found with. -/
def apply (result : ScanResult) (found before : String → Option Nat) (name : String) :
    Option Nat :=
  if name ∈ result.removed then none
  else if name ∈ result.added then found name
  else (Dictionary.get? name result.changed).or (before name)

section Tells

variable {result : ScanResult} {before after : String → Option Nat}

theorem Tells.changed_eq_none (tells : result.Tells before after) {name : String}
    (same : before name = after name ∨ before name = none) :
    Dictionary.get? name result.changed = none := by
  refine Option.eq_none_iff_forall_ne_some.mpr fun time found => ?_
  obtain ⟨old, was, is, moved⟩ := (tells.changed name time).mp (Dictionary.mem_of_get? found)
  rcases same with same | absent
  · rw [was, is] at same
    exact moved (Option.some.inj same)
  · rw [absent] at was
    cases was

theorem Tells.changed_eq_some (tells : result.Tells before after) {name : String} {old time : Nat}
    (was : before name = some old) (is : after name = some time) (moved : old ≠ time) :
    Dictionary.get? name result.changed = some time := by
  have member : name ∈ Dictionary.keys result.changed :=
    List.mem_map.mpr ⟨_, (tells.changed name time).mpr ⟨old, was, is, moved⟩, rfl⟩
  obtain ⟨other, found⟩ :=
    Option.isSome_iff_exists.mp (Dictionary.contains_iff_mem_keys.mpr member)
  obtain ⟨_, _, now, _⟩ := (tells.changed name other).mp (Dictionary.mem_of_get? found)
  rw [found, ← now, is]

/-- A result leads from the map before it to the map after it. -/
theorem Tells.apply_eq (tells : result.Tells before after) {found : String → Option Nat}
    (placed : ∀ name ∈ result.added, found name = after name) :
    result.apply found before = after := by
  funext name
  unfold apply
  cases is : after name with
  | none =>
      have notAdded : name ∉ result.added := by simp [tells.added, is]
      cases was : before name with
      | none =>
          have notRemoved : name ∉ result.removed := by simp [tells.removed, was]
          rw [if_neg notRemoved, if_neg notAdded, tells.changed_eq_none (.inr was)]
          rfl
      | some old => exact if_pos ((tells.removed name).mpr ⟨by simp [was], is⟩)
  | some time =>
      have notRemoved : name ∉ result.removed := by simp [tells.removed, is]
      rw [if_neg notRemoved]
      cases was : before name with
      | none =>
          have added : name ∈ result.added := (tells.added name).mpr ⟨was, by simp [is]⟩
          rw [if_pos added, placed name added, is]
      | some old =>
          have notAdded : name ∉ result.added := by simp [tells.added, was]
          rw [if_neg notAdded]
          by_cases moved : old = time
          · rw [tells.changed_eq_none (.inl (by rw [was, is, moved])), moved]
            rfl
          · rw [tells.changed_eq_some was is moved]
            rfl

theorem Tells.quiet_iff (tells : result.Tells before after) :
    result.hasChanges = false ↔ before = after := by
  have quiet : result.hasChanges = false ↔
      result.changed = [] ∧ result.added = [] ∧ result.removed = [] := by
    simp [hasChanges, and_assoc]
  rw [quiet]
  constructor
  · rintro ⟨unchanged, none, noneRemoved⟩
    have led := tells.apply_eq (fun name _ => (rfl : after name = after name))
    rw [← led]
    funext name
    simp [apply, unchanged, none, noneRemoved, Dictionary.get?]
  · rintro rfl
    refine ⟨?_, ?_, ?_⟩
    · refine List.eq_nil_iff_forall_not_mem.mpr ?_
      rintro ⟨name, time⟩ member
      obtain ⟨old, was, is, moved⟩ := (tells.changed name time).mp member
      exact moved (Option.some.inj (was.symm.trans is))
    · refine List.eq_nil_iff_forall_not_mem.mpr fun name member => ?_
      obtain ⟨was, is⟩ := (tells.added name).mp member
      simp [was] at is
    · refine List.eq_nil_iff_forall_not_mem.mpr fun name member => ?_
      obtain ⟨was, is⟩ := (tells.removed name).mp member
      simp [is] at was

end Tells

end ScanResult

namespace Scanner

/-! ## One scan -/

theorem timesIn_sorted (tree : FileTree) (directory : String) (extensions : List String) :
    (timesIn tree directory extensions).Sorted :=
  List.pairwise_map.mpr ((tree.listing_sorted directory).filter _)

theorem timesIn_get? (tree : FileTree) (directory : String) (extensions : List String) :
    (Dictionary.get? · (timesIn tree directory extensions)) =
      tree.scriptTimes directory extensions := by
  funext name
  refine Option.ext fun time => ?_
  have listed (entry : FileEntry) :
      Dictionary.get? name (tree.listing directory) = some entry ↔
        (name, entry) ∈ tree.listing directory :=
    (tree.listing_sorted directory).get?_eq_some_iff
  rw [(timesIn_sorted tree directory extensions).get?_eq_some_iff, FileTree.scriptTimes]
  by_cases watched : watches extensions name
  · simp only [timesIn, List.mem_map, List.mem_filter, Prod.mk.injEq, Prod.exists,
      if_pos watched, FileTree.modified?, Option.map_eq_some_iff, listed]
    constructor
    · rintro ⟨_, entry, ⟨member, _⟩, rfl, modified⟩
      exact ⟨entry, member, modified⟩
    · rintro ⟨entry, member, modified⟩
      exact ⟨name, entry, ⟨member, watched⟩, rfl, modified⟩
  · simp [timesIn, watched]

private theorem contains_eq_false {name : String} {times : FileTimes} :
    times.contains name = false ↔ times.get? name = none := by
  simp [Dictionary.contains]

theorem difference_tells {old new : FileTimes} (sortedOld : old.Sorted) (sorted : new.Sorted) :
    (difference old new).Tells (old.get? ·) (new.get? ·) := by
  have changed (name : String) (time : Nat) : (name, time) ∈ (difference old new).changed ↔
      ∃ before, old.get? name = some before ∧ new.get? name = some time ∧ before ≠ time := by
    rw [difference, List.mem_filter, ← sorted.get?_eq_some_iff]
    cases was : old.get? name <;> simp [was]
  have added (name : String) : name ∈ (difference old new).added ↔
      old.get? name = none ∧ (new.get? name).isSome := by
    rw [← Dictionary.contains, Dictionary.contains_iff_mem_keys]
    simp [difference, Dictionary.keys, contains_eq_false, and_comm]
  have removed (name : String) : name ∈ (difference old new).removed ↔
      (old.get? name).isSome ∧ new.get? name = none := by
    rw [← Dictionary.contains, Dictionary.contains_iff_mem_keys]
    simp [difference, Dictionary.keys, contains_eq_false]
  refine ⟨changed, added, removed, ?_⟩
  have onceOf {times : FileTimes} (ordered : times.Sorted) (kept : String × Nat → Bool) :
      (Dictionary.keys (times.filter kept)).Nodup :=
    Dictionary.Sorted.nodup_keys (List.Pairwise.filter _ ordered)
  refine List.nodup_append'.mpr ⟨List.nodup_append'.mpr ⟨onceOf sorted _, onceOf sorted _, ?_⟩,
    onceOf sortedOld _, ?_⟩
  · intro name moved fresh
    obtain ⟨⟨_, time⟩, member, rfl⟩ := List.mem_map.mp moved
    obtain ⟨before, was, -⟩ := (changed _ time).mp member
    rw [((added _).mp fresh).1] at was
    cases was
  · intro name here gone
    obtain ⟨was, isNot⟩ := (removed name).mp gone
    rcases List.mem_append.mp here with moved | fresh
    · obtain ⟨⟨_, time⟩, member, rfl⟩ := List.mem_map.mp moved
      obtain ⟨_, _, is, _⟩ := (changed _ time).mp member
      rw [isNot] at is
      cases is
    · have is := ((added name).mp fresh).2
      rw [isNot] at is
      cases is

section Scan

variable (directory : String) (extensions : List String) (before after : FileTree)

/-- After a scan the scanner knows what is there, as one that was made just then does. -/
theorem scan_create : (create before directory extensions).scan after =
    (create after directory extensions,
      difference (timesIn before directory extensions) (timesIn after directory extensions)) :=
  rfl

theorem scan_tells :
    ((create before directory extensions).scan after).2.Tells
      (before.scriptTimes directory extensions) (after.scriptTimes directory extensions) := by
  rw [scan_create, ← timesIn_get?, ← timesIn_get?]
  exact difference_tells (timesIn_sorted _ _ _) (timesIn_sorted _ _ _)

theorem scan_apply :
    ((create before directory extensions).scan after).2.apply (after.modified? directory)
      (before.scriptTimes directory extensions) = after.scriptTimes directory extensions := by
  have tells := scan_tells directory extensions before after
  refine tells.apply_eq fun name member => ?_
  obtain ⟨-, present⟩ := (tells.added name).mp member
  unfold FileTree.scriptTimes at present ⊢
  split
  · rfl
  · rename_i unwatched
    rw [if_neg unwatched] at present
    cases present

theorem known_create : (create after directory extensions).known.length =
    {name | (after.scriptTimes directory extensions name).isSome}.ncard := by
  have names : {name | (after.scriptTimes directory extensions name).isSome} =
      ((timesIn after directory extensions).keys.toFinset : Set String) := by
    ext name
    rw [← timesIn_get?, Set.mem_ofPred_eq, ← Dictionary.contains,
      Dictionary.contains_iff_mem_keys, List.coe_toFinset]
    rfl
  rw [names, Set.ncard_coe_finset,
    List.toFinset_card_of_nodup (timesIn_sorted after directory extensions).nodup_keys]
  exact (List.length_map _).symm

end Scan

/-! ## Many scans -/

/-- Scans a directory again and again, and gives what each scan reports. -/
def scanAll (scanner : Scanner) : List FileTree → Scanner × List ScanResult
  | [] => (scanner, [])
  | tree :: later =>
    let (next, result) := scanner.scan tree
    let (last, results) := next.scanAll later
    (last, result :: results)

/-- A directory that had the contents `first` when its scanner was made and the contents `trees`
at the scans after that: each scan reports the difference to the contents at the scan before,
and that there is none if there is none. The reports in turn lead from the first map of script
files to the present one, and the scanner knows as many files as there are in it. -/
theorem scans_report (directory : String) (extensions : List String) (first : FileTree)
    (trees : List FileTree) :
    let scripts (tree : FileTree) := tree.scriptTimes directory extensions
    let scanned := (create first directory extensions).scanAll trees
    let present := trees.getLastD first
    List.Forall₂
        (fun result (before, after) => result.Tells (scripts before) (scripts after) ∧
          (result.hasChanges = false ↔ scripts before = scripts after))
        scanned.2 ((first :: trees).zip trees) ∧
      (scanned.2.zip trees).foldl
        (fun times (result, tree) => result.apply (tree.modified? directory) times)
        (scripts first) = scripts present ∧
      scanned.1.known.length = {name | (scripts present name).isSome}.ncard := by
  intro scripts scanned present
  induction trees generalizing first with
  | nil => exact ⟨.nil, rfl, known_create directory extensions first⟩
  | cons tree later previous =>
      obtain ⟨told, led, known⟩ := previous tree
      have tells := scan_tells directory extensions first tree
      have last : present = later.getLastD tree := List.getLastD_cons
      rw [last]
      refine ⟨.cons ⟨tells, tells.quiet_iff⟩ told, ?_, known⟩
      have step := scan_apply directory extensions first tree
      simp only [scanned, scanAll, List.zip_cons_cons, List.foldl_cons, scripts, step]
      exact led

end Scanner

end HomeRules
