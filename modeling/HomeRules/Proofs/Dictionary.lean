import HomeRules.Dictionary
import Mathlib.Data.List.Nodup

/-!
# Dictionaries in order

A dictionary that is built from pairs has its keys in increasing order, and each key once. In a
dictionary with its keys in order, what is found under a key is what is listed with it. The same is
true of lists that are searched for a member with a key, where no two members have the same.
-/

set_option autoImplicit false

namespace HomeRules

/-! ## Members with keys -/

section Members

variable {α κ : Type} [DecidableEq κ] {key : α → κ} {items : List α} {item : α}

theorem of_find?_key {wanted : κ} (found : items.find? (key · = wanted) = some item) :
    item ∈ items ∧ key item = wanted :=
  ⟨List.mem_of_find?_eq_some found, by simpa using List.find?_some found⟩

/-- Where keys differ, every member is found by its own. -/
theorem find?_key (distinct : (items.map key).Nodup) (member : item ∈ items) :
    items.find? (key · = key item) = some item := by
  cases found : items.find? (key · = key item) with
  | none => exact absurd (decide_eq_true rfl) (List.find?_eq_none.mp found item member)
  | some other =>
      obtain ⟨present, same⟩ := of_find?_key found
      rw [List.inj_on_of_nodup_map distinct present member same]

end Members

namespace Dictionary

variable {α : Type}

/-! ## Order -/

def Sorted (dictionary : Dictionary α) : Prop :=
  dictionary.Pairwise fun first second => first.1 < second.1

theorem mem_insert {key : String} {value : α} {dictionary : Dictionary α} {entry : String × α}
    (member : entry ∈ dictionary.insert key value) : entry.1 = key ∨ entry ∈ dictionary := by
  induction dictionary with
  | nil => exact .inl (List.mem_singleton.mp member ▸ rfl)
  | cons first rest previous =>
      unfold insert at member
      split at member
      · rcases List.mem_cons.mp member with rfl | later
        · exact .inl rfl
        · exact .inr (List.mem_cons_of_mem _ later)
      split at member
      · rcases List.mem_cons.mp member with rfl | later
        · exact .inl rfl
        · exact .inr later
      · rcases List.mem_cons.mp member with rfl | later
        · exact .inr List.mem_cons_self
        · exact (previous later).imp_right (List.mem_cons_of_mem _)

theorem Sorted.insert {dictionary : Dictionary α} (sorted : dictionary.Sorted) (key : String)
    (value : α) : Sorted (dictionary.insert key value) := by
  induction sorted with
  | nil => exact List.pairwise_singleton _ _
  | @cons first rest before sorted previous =>
      unfold Dictionary.insert
      split
      case isTrue same => exact .cons (fun other member => same ▸ before other member) sorted
      case isFalse different =>
        split
        case isTrue earlier =>
          refine .cons (fun other member => ?_) (.cons before sorted)
          rcases List.mem_cons.mp member with rfl | later
          · exact earlier
          · exact String.lt_trans earlier (before other later)
        case isFalse late =>
          have after : first.1 < key := Decidable.byContradiction fun unordered =>
            different (String.le_antisymm (String.not_lt.mp unordered) (String.not_lt.mp late))
          refine .cons (fun other member => ?_) previous
          rcases mem_insert member with named | old
          · exact named ▸ after
          · exact before other old

theorem sorted_ofList (pairs : List (String × α)) : Sorted (ofList pairs) := by
  have folded (dictionary : Dictionary α) (sorted : dictionary.Sorted) :
      Sorted (pairs.foldl (fun dictionary pair => dictionary.insert pair.1 pair.2)
        dictionary) := by
    induction pairs generalizing dictionary with
    | nil => exact sorted
    | cons pair rest previous => exact previous _ (sorted.insert pair.1 pair.2)
  exact folded [] .nil

theorem Sorted.nodup_keys {dictionary : Dictionary α} (sorted : dictionary.Sorted) :
    dictionary.keys.Nodup := by
  refine List.pairwise_map.mpr (sorted.imp fun {first second} before same => ?_)
  rw [same] at before
  exact String.lt_irrefl _ before

/-! ## Keys -/

theorem mem_of_get? {key : String} {value : α} {dictionary : Dictionary α}
    (found : dictionary.get? key = some value) : (key, value) ∈ dictionary := by
  induction dictionary with
  | nil => cases found
  | cons first rest previous =>
      unfold get? at found
      split at found
      case isTrue here =>
        cases found
        exact here ▸ List.mem_cons_self
      case isFalse => exact List.mem_cons_of_mem _ (previous found)

theorem Sorted.get?_eq_some_iff {key : String} {value : α} {dictionary : Dictionary α}
    (sorted : dictionary.Sorted) :
    dictionary.get? key = some value ↔ (key, value) ∈ dictionary := by
  refine ⟨mem_of_get?, fun member => ?_⟩
  induction sorted with
  | nil => cases member
  | @cons first rest before sorted previous =>
      rcases List.mem_cons.mp member with rfl | later
      · exact if_pos rfl
      · have other : first.1 ≠ key := fun same =>
          String.lt_irrefl _ (same ▸ before _ later)
        exact (if_neg other).trans (previous later)

theorem contains_iff_mem_keys {key : String} {dictionary : Dictionary α} :
    dictionary.contains key = true ↔ key ∈ dictionary.keys := by
  unfold contains
  induction dictionary with
  | nil => simp [get?, keys]
  | cons first rest previous =>
      by_cases here : first.1 = key
      · simp [get?, keys, here]
      · simp only [get?, if_neg here, previous, keys, List.map_cons, List.mem_cons]
        exact ⟨.inr, fun member => member.resolve_left (Ne.symm here)⟩

end Dictionary

end HomeRules
