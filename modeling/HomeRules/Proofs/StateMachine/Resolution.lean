import HomeRules.StateMachine.Resolution
import Mathlib.Data.List.Forall2
import Mathlib.Data.List.InsertIdx
import Mathlib.Logic.Equiv.Defs

/-!
# Resolution finds the least solution

Which states can become active is a least fixed point, and the triggers of those that can
are the one solution of the equations that their declarations make. Resolution finds both:
it saturates a table that only grows, so it ends, and the order in which the states were
declared does not show in what it finds.
-/

set_option autoImplicit false

namespace HomeRules

/-- The state with the states that it refers to in other places. -/
def State.placed (place : StateId → StateId) (state : State) : State :=
  { state with
    dependsOn := state.dependsOn.map (·.map place)
    inverseOf := state.inverseOf.map place }

namespace StateMachine

/-! ## What a machine declares -/

/-- A state can become active when the state its triggers come from has triggers, or has
groups all of whose members can. -/
inductive Grounded (machine : StateMachine) : StateId → Prop where
  | activated {id : StateId} {source : State}
      (found : machine.get? (machine.source id) = some source)
      (triggers : source.activatedBy ≠ []) : Grounded machine id
  | affected {id : StateId} {source : State}
      (found : machine.get? (machine.source id) = some source)
      (triggers : source.affectedBy ≠ []) : Grounded machine id
  | dependent {id : StateId} {source : State}
      (found : machine.get? (machine.source id) = some source)
      (groups : source.dependsOn ≠ [])
      (members : ∀ group ∈ source.dependsOn, ∀ member ∈ group, Grounded machine member) :
      Grounded machine id

/-- The triggers that a group gives: those of each member in turn, guarded by the
conditions in the other positions of the group. -/
def groupDeclares (machine : StateMachine) (triggers : StateId → List StateTrigger)
    (group : List StateId) : List StateTrigger :=
  group.zipIdx.flatMap fun (member, position) =>
    (triggers member).map (·.guarded (machine.guardOf (group.eraseIdx position)))

/-- The triggers that a state gets from its declaration when `triggers` are those of the
states that it depends on. -/
def declares (machine : StateMachine) (triggers : StateId → List StateTrigger) (id : StateId) :
    List StateTrigger :=
  match machine.get? id, machine.get? (machine.source id) with
  | some state, some source =>
    if source.activatedBy ≠ [] then source.activatedBy
    else if source.affectedBy ≠ [] then source.affectedBy.map (·.when state.condition)
    else source.dependsOn.flatMap (machine.groupDeclares triggers)
  | _, _ => []

/-- Triggers for every state that agree with all declarations. -/
def Solves (machine : StateMachine) (triggers : StateId → List StateTrigger) : Prop :=
  ∀ id < machine.size, triggers id = machine.declares triggers id

/-! ## Saturation -/

def unresolved (resolved : Resolved) : Nat :=
  resolved.countP (·.isNone)

/-- Passes over the states for as long as a pass resolves another one. -/
def saturate (machine : StateMachine) (resolved : Resolved) : Resolved :=
  if unresolved (machine.pass resolved) < unresolved resolved then
    saturate machine (machine.pass resolved)
  else resolved
termination_by unresolved resolved

def Grows : Resolved → Resolved → Prop :=
  List.Forall₂ fun before after => before = none ∨ before = after

namespace Grows

variable {earlier middle later : Resolved}

protected theorem refl (resolved : Resolved) : Grows resolved resolved :=
  List.forall₂_same.mpr fun _ _ => .inr rfl

protected theorem trans (first : Grows earlier middle) (next : Grows middle later) :
    Grows earlier later := by
  unfold Grows at *
  induction first generalizing later with
  | nil => exact next
  | cons head tail previous =>
      cases next with
      | cons further rest =>
          refine .cons ?_ (previous rest)
          rcases head with absent | rfl
          · exact .inl absent
          · exact further

theorem length_eq (grows : Grows earlier later) : earlier.length = later.length :=
  List.Forall₂.length_eq grows

theorem known (grows : Grows earlier later) {id : StateId} {triggers : List StateTrigger}
    (known : known? earlier id = some triggers) : known? later id = some triggers := by
  unfold Grows at grows
  induction grows generalizing id with
  | nil => cases known
  | cons head tail previous =>
      cases id with
      | zero =>
          rcases head with rfl | rfl
          · cases known
          · exact known
      | succ id => exact previous known

theorem eq_or_lt (grows : Grows earlier later) :
    earlier = later ∨ unresolved later < unresolved earlier := by
  unfold Grows at grows
  induction grows with
  | nil => exact .inl rfl
  | @cons before after _ _ head tail previous =>
      simp only [unresolved, List.countP_cons] at previous ⊢
      rcases head with rfl | rfl
      · cases after with
        | none =>
            rcases previous with rfl | fewer
            · exact .inl rfl
            · exact .inr (Nat.add_lt_add_right fewer _)
        | some triggers =>
            rcases previous with rfl | fewer
            · exact .inr (by simp)
            · exact .inr (by simp; omega)
      · rcases previous with rfl | fewer
        · exact .inl rfl
        · exact .inr (Nat.add_lt_add_right fewer _)

theorem set {resolved : Resolved} {id : StateId} (unknown : known? resolved id = none)
    (triggers : Option (List StateTrigger)) : Grows resolved (resolved.set id triggers) := by
  induction resolved generalizing id with
  | nil => exact .nil
  | cons first rest previous =>
      cases id with
      | zero => exact .cons (.inl unknown) (Grows.refl rest)
      | succ id => exact .cons (.inr rfl) (previous unknown)

end Grows

section Tables

variable {machine : StateMachine} {resolved : Resolved}

/-! ## Trying to resolve a state -/

def lookup (resolved : Resolved) (id : StateId) : List StateTrigger :=
  (known? resolved id).getD []

/-- A state has triggers of its own, or groups all of whose members are known. -/
def Ready (machine : StateMachine) (known : StateId → Prop) (id : StateId) : Prop :=
  ∃ source, machine.get? (machine.source id) = some source ∧
    (source.activatedBy ≠ [] ∨ source.affectedBy ≠ [] ∨
      source.dependsOn ≠ [] ∧ ∀ group ∈ source.dependsOn, ∀ member ∈ group, known member)

theorem grounded_iff {id : StateId} :
    machine.Grounded id ↔ machine.Ready machine.Grounded id := by
  constructor
  · intro grounded
    cases grounded with
    | activated found triggers => exact ⟨_, found, .inl triggers⟩
    | affected found triggers => exact ⟨_, found, .inr (.inl triggers)⟩
    | dependent found groups members => exact ⟨_, found, .inr (.inr ⟨groups, members⟩)⟩
  · rintro ⟨source, found, triggers | triggers | ⟨groups, members⟩⟩
    · exact .activated found triggers
    · exact .affected found triggers
    · exact .dependent found groups members

theorem get?_of_source {id : StateId} {source : State}
    (found : machine.get? (machine.source id) = some source) :
    ∃ state, machine.get? id = some state := by
  cases own : machine.get? id with
  | some state => exact ⟨state, rfl⟩
  | none =>
      have itself : machine.source id = id := by simp [StateMachine.source, own]
      rw [itself, own] at found
      cases found

theorem declares_congr {known : StateId → Prop} {first second : StateId → List StateTrigger}
    {id : StateId} (ready : machine.Ready known id)
    (same : ∀ member, known member → first member = second member) :
    machine.declares first id = machine.declares second id := by
  obtain ⟨source, found, way⟩ := ready
  obtain ⟨state, own⟩ := get?_of_source found
  simp only [declares, own, found]
  split
  · rfl
  split
  · rfl
  rename_i activated affected
  obtain ⟨-, members⟩ := (way.resolve_left activated).resolve_left affected
  refine List.flatMap_congr fun group inside => List.flatMap_congr ?_
  rintro ⟨member, position⟩ present
  dsimp only
  rw [same member (members group inside member (List.fst_mem_of_mem_zipIdx present))]

theorem memberTriggers_eq (before : List StateId) {rest : List StateId}
    (members : ∀ member ∈ rest, (known? resolved member).isSome) :
    machine.memberTriggers resolved before rest =
      some ((rest.zipIdx before.length).flatMap fun (member, position) =>
        (lookup resolved member).map
          (·.guarded (machine.guardOf ((before ++ rest).eraseIdx position)))) := by
  induction rest generalizing before with
  | nil => rfl
  | cons member rest previous =>
      obtain ⟨triggers, known⟩ := Option.isSome_iff_exists.mp (members member List.mem_cons_self)
      have later := previous (before ++ [member])
        fun other inside => members other (List.mem_cons_of_mem _ inside)
      have erased : (before ++ member :: rest).eraseIdx before.length = before ++ rest := by
        rw [List.eraseIdx_append_of_length_le (Nat.le_refl _), Nat.sub_self,
          List.eraseIdx_cons_zero]
      rw [List.append_assoc, List.singleton_append, List.length_append] at later
      rw [memberTriggers, known, later]
      simp [List.zipIdx_cons, erased, lookup, known]

theorem memberTriggers_known {before rest : List StateId} {triggers : List StateTrigger}
    (given : machine.memberTriggers resolved before rest = some triggers) :
    ∀ member ∈ rest, (known? resolved member).isSome := by
  induction rest generalizing before triggers with
  | nil => exact fun _ member => absurd member List.not_mem_nil
  | cons first rest previous =>
      obtain ⟨own, known, later, given, -⟩ :
          ∃ own, known? resolved first = some own ∧ ∃ later,
            machine.memberTriggers resolved (before ++ [first]) rest = some later ∧ True := by
        rw [memberTriggers] at given
        obtain ⟨own, known, rest⟩ := Option.bind_eq_some_iff.mp given
        obtain ⟨later, given, -⟩ := Option.bind_eq_some_iff.mp rest
        exact ⟨own, known, later, given, trivial⟩
      intro member inside
      rcases List.mem_cons.mp inside with rfl | inside
      · exact Option.isSome_iff_exists.mpr ⟨own, known⟩
      · exact previous given member inside

theorem groupTriggers_eq_some_iff {groups : List (List StateId)} {triggers : List StateTrigger} :
    machine.groupTriggers resolved groups = some triggers ↔
      (∀ group ∈ groups, ∀ member ∈ group, (known? resolved member).isSome) ∧
        groups.flatMap (machine.groupDeclares (lookup resolved)) = triggers := by
  induction groups generalizing triggers with
  | nil => simp [groupTriggers]
  | cons group rest previous =>
      rw [groupTriggers]
      constructor
      · intro given
        obtain ⟨own, members, given⟩ := Option.bind_eq_some_iff.mp given
        obtain ⟨later, others, given⟩ := Option.bind_eq_some_iff.mp given
        cases given
        obtain ⟨known, rfl⟩ := previous.mp others
        have inside := memberTriggers_known members
        rw [memberTriggers_eq [] inside] at members
        cases members
        exact ⟨List.forall_mem_cons.mpr ⟨inside, known⟩, rfl⟩
      · rintro ⟨known, rfl⟩
        obtain ⟨inside, others⟩ := List.forall_mem_cons.mp known
        rw [memberTriggers_eq [] inside, previous.mpr ⟨others, rfl⟩]
        rfl

/-- A state is resolved when what it needs is known, to what it declares then. -/
theorem tryResolve_eq_some_iff {id : StateId} {triggers : List StateTrigger} :
    machine.tryResolve resolved id = some triggers ↔
      machine.Ready (fun member => (known? resolved member).isSome) id ∧
        machine.declares (lookup resolved) id = triggers := by
  cases found : machine.get? (machine.source id) with
  | none =>
      have unready : ¬ machine.Ready (fun member => (known? resolved member).isSome) id := by
        rintro ⟨source, there, -⟩
        cases found.symm.trans there
      simp [tryResolve, found, unready]
  | some source =>
      obtain ⟨state, own⟩ := get?_of_source found
      simp only [tryResolve, own, found, Option.bind_eq_bind, Option.bind_some, triggers?, Ready,
        declares, Option.some.injEq, exists_eq_left']
      by_cases activated : source.activatedBy = []
      · by_cases affected : source.affectedBy = []
        · by_cases groups : source.dependsOn = []
          · simp [activated, affected, groups]
          · simp [activated, affected, groups, groupTriggers_eq_some_iff]
        · simp [activated, affected, StateTrigger.guarded]
      · simp [activated]

theorem Grows.tryResolve {later : Resolved} (grows : Grows resolved later) {id : StateId}
    {triggers : List StateTrigger} (given : machine.tryResolve resolved id = some triggers) :
    machine.tryResolve later id = some triggers := by
  obtain ⟨⟨source, found, way⟩, rfl⟩ := tryResolve_eq_some_iff.mp given
  refine tryResolve_eq_some_iff.mpr ⟨?_, ?_⟩
  · refine ⟨source, found, way.imp_right (Or.imp_right (And.imp_right ?_))⟩
    intro known group inside member present
    obtain ⟨own, same⟩ := Option.isSome_iff_exists.mp (known group inside member present)
    exact Option.isSome_iff_exists.mpr ⟨own, grows.known same⟩
  · refine (declares_congr ⟨source, found, way⟩ fun member known => ?_).symm
    obtain ⟨own, same⟩ := Option.isSome_iff_exists.mp known
    rw [lookup, lookup, same, grows.known same]

/-! ## One pass -/

/-- A table of a machine holds for each known state what resolving it gives now, and nothing
for a state that cannot become active. -/
structure Supports (machine : StateMachine) (resolved : Resolved) : Prop where
  length_eq : resolved.length = machine.size
  justified : ∀ id triggers, known? resolved id = some triggers →
    machine.tryResolve resolved id = some triggers
  grounded : ∀ id triggers, known? resolved id = some triggers → machine.Grounded id

theorem grows_resolveAt (machine : StateMachine) (resolved : Resolved) (id : StateId) :
    Grows resolved (machine.resolveAt resolved id) := by
  unfold resolveAt
  cases found : known? resolved id with
  | some triggers => exact .refl resolved
  | none => exact .set found _

theorem known?_set {id other : StateId} {triggers : Option (List StateTrigger)}
    {own : List StateTrigger} (known : known? (resolved.set id triggers) other = some own) :
    known? resolved other = some own ∨ other = id ∧ triggers = some own := by
  rw [known?, List.getElem?_set] at known
  split at known
  · rename_i same
    subst same
    split at known
    · exact .inr ⟨rfl, known⟩
    · cases known
  · exact .inl known

theorem Supports.resolveAt (supports : machine.Supports resolved) (id : StateId) :
    machine.Supports (machine.resolveAt resolved id) := by
  have grows := grows_resolveAt machine resolved id
  have origin (other : StateId) (triggers : List StateTrigger)
      (known : known? (machine.resolveAt resolved id) other = some triggers) :
      machine.tryResolve resolved other = some triggers := by
    unfold StateMachine.resolveAt at known
    split at known
    · exact supports.justified other triggers known
    · rcases known?_set known with before | ⟨rfl, now⟩
      · exact supports.justified other triggers before
      · exact now
  refine ⟨grows.length_eq ▸ supports.length_eq, ?_, ?_⟩
  · exact fun other triggers known => grows.tryResolve (origin other triggers known)
  · intro other triggers known
    obtain ⟨⟨source, found, way⟩, -⟩ := tryResolve_eq_some_iff.mp (origin other triggers known)
    refine grounded_iff.mpr ⟨source, found, way.imp_right (Or.imp_right (And.imp_right ?_))⟩
    intro known group inside member present
    obtain ⟨own, same⟩ := Option.isSome_iff_exists.mp (known group inside member present)
    exact supports.grounded member own same

theorem grows_fold (ids : List StateId) (resolved : Resolved) :
    Grows resolved (ids.foldl machine.resolveAt resolved) := by
  induction ids generalizing resolved with
  | nil => exact .refl resolved
  | cons id rest previous => exact (grows_resolveAt machine resolved id).trans (previous _)

theorem grows_pass (machine : StateMachine) (resolved : Resolved) :
    Grows resolved (machine.pass resolved) :=
  grows_fold _ resolved

theorem Supports.pass (supports : machine.Supports resolved) :
    machine.Supports (machine.pass resolved) := by
  have each (ids : List StateId) (resolved : Resolved) (supports : machine.Supports resolved) :
      machine.Supports (ids.foldl machine.resolveAt resolved) := by
    induction ids generalizing resolved with
    | nil => exact supports
    | cons id rest previous => exact previous _ (supports.resolveAt id)
  exact each _ resolved supports

theorem known_pass (length_eq : resolved.length = machine.size) {id : StateId}
    {triggers : List StateTrigger} (given : machine.tryResolve resolved id = some triggers) :
    (known? (machine.pass resolved) id).isSome := by
  have inside : id < machine.size := by
    obtain ⟨⟨source, found, -⟩, -⟩ := tryResolve_eq_some_iff.mp given
    obtain ⟨state, own⟩ := get?_of_source found
    exact (List.getElem?_eq_some_iff.mp own).1
  have each (ids : List StateId) (resolved : Resolved)
      (length_eq : resolved.length = machine.size) (member : id ∈ ids)
      (given : machine.tryResolve resolved id = some triggers) :
      (known? (ids.foldl machine.resolveAt resolved) id).isSome := by
    induction ids generalizing resolved with
    | nil => cases member
    | cons first rest previous =>
        have grows := grows_resolveAt machine resolved first
        rcases List.mem_cons.mp member with rfl | later
        · have now : (known? (machine.resolveAt resolved id) id).isSome := by
            unfold StateMachine.resolveAt
            cases found : known? resolved id with
            | some triggers => simp [found]
            | none => simp [known?, length_eq, inside, given]
          obtain ⟨own, known⟩ := Option.isSome_iff_exists.mp now
          exact Option.isSome_iff_exists.mpr ⟨own, (grows_fold rest _).known known⟩
        · exact previous _ (grows.length_eq ▸ length_eq) later (grows.tryResolve given)
  exact each _ resolved length_eq (List.mem_range.mpr inside) given

end Tables

section Saturating

variable (machine : StateMachine)

/-! ## All passes -/

theorem pass_saturate (resolved : Resolved) :
    machine.pass (machine.saturate resolved) = machine.saturate resolved := by
  fun_induction saturate machine resolved with
  | case1 resolved more previous => exact previous
  | case2 resolved done =>
      rcases (grows_pass machine resolved).eq_or_lt with same | fewer
      · exact same.symm
      · exact absurd fewer done

theorem passes_of_pass {resolved : Resolved} (same : machine.pass resolved = resolved)
    (count : Nat) : machine.passes count resolved = resolved := by
  induction count with
  | zero => rfl
  | succ count previous => rw [passes, same, previous]

/-- As many passes as there are states to resolve saturate a table. -/
theorem passes_eq_saturate {resolved : Resolved} {count : Nat}
    (enough : unresolved resolved ≤ count) :
    machine.passes count resolved = machine.saturate resolved := by
  -- Each pass resolves another state, or no later pass does.
  induction count generalizing resolved with
  | zero => rw [passes, saturate, if_neg (by omega)]
  | succ count previous =>
      rw [saturate]
      split
      · rename_i fewer
        exact previous (by omega)
      · rename_i done
        rcases (grows_pass machine resolved).eq_or_lt with same | fewer
        · exact machine.passes_of_pass same.symm _
        · exact absurd fewer done

def blank : Resolved :=
  List.replicate machine.size none

theorem settled_eq_saturate : machine.settled = machine.saturate machine.blank := by
  have all : unresolved machine.blank ≤ machine.size :=
    Nat.le_trans List.countP_le_length (Nat.le_of_eq List.length_replicate)
  exact machine.passes_eq_saturate all

theorem pass_settled : machine.pass machine.settled = machine.settled := by
  rw [settled_eq_saturate, pass_saturate]

theorem settled_supports : machine.Supports machine.settled := by
  have unknown (id : StateId) : known? machine.blank id = none := by
    rw [known?, blank, List.getElem?_replicate]
    split <;> rfl
  have start : machine.Supports machine.blank := by
    refine ⟨List.length_replicate, ?_, ?_⟩
    · intro id triggers known
      cases (unknown id).symm.trans known
    · intro id triggers known
      cases (unknown id).symm.trans known
  have each (count : Nat) (resolved : Resolved) (supports : machine.Supports resolved) :
      machine.Supports (machine.passes count resolved) := by
    induction count generalizing resolved with
    | zero => exact supports
    | succ count previous => exact previous _ supports.pass
  exact each machine.size _ start

/-- In the end exactly the states that can become active are resolved. -/
theorem known_settled_iff {id : StateId} :
    (known? machine.settled id).isSome ↔ machine.Grounded id := by
  have supports := machine.settled_supports
  constructor
  · intro known
    obtain ⟨triggers, known⟩ := Option.isSome_iff_exists.mp known
    exact supports.grounded id triggers known
  · intro grounded
    -- Where all that a state needs is known, the next pass would resolve it, but there is none.
    have enough {id : StateId}
        (ready : machine.Ready (fun member => (known? machine.settled member).isSome) id) :
        (known? machine.settled id).isSome := by
      have known := known_pass supports.length_eq (tryResolve_eq_some_iff.mpr ⟨ready, rfl⟩)
      rwa [pass_settled] at known
    induction grounded with
    | activated found triggers => exact enough ⟨_, found, .inl triggers⟩
    | affected found triggers => exact enough ⟨_, found, .inr (.inl triggers)⟩
    | dependent found groups members previous =>
        exact enough ⟨_, found, .inr (.inr ⟨groups, previous⟩)⟩

/-- What a state that can become active is resolved to is what it declares. -/
theorem lookup_settled {id : StateId} (grounded : machine.Grounded id) :
    lookup machine.settled id = machine.declares (lookup machine.settled) id := by
  obtain ⟨triggers, known⟩ :=
    Option.isSome_iff_exists.mp (machine.known_settled_iff.mpr grounded)
  have given := machine.settled_supports.justified id triggers known
  rw [(tryResolve_eq_some_iff.mp given).2, lookup, known, Option.getD_some]

/-- Whether a state can become active is found by resolving. -/
instance : DecidablePred machine.Grounded :=
  fun _ => decidable_of_iff _ machine.known_settled_iff

/-! ## What resolution gives -/

/-- The names of the states that cannot become active, in the order of the states. -/
def ungrounded : List String :=
  (machine.states.zipIdx.filter fun (_, id) => ¬ machine.Grounded id).map (·.1.name)

private theorem stuck_from (states : List State) (resolved : Resolved) (start : StateId)
    (unknown : StateId → Prop) [DecidablePred unknown] (length_eq : resolved.length = states.length)
    (agrees : ∀ index < states.length,
      ((known? resolved index).isNone ↔ unknown (start + index))) :
    ((states.zip resolved).filterMap fun (state, triggers) =>
        if triggers.isNone then some state.name else none) =
      ((states.zipIdx start).filter fun (_, id) => unknown id).map (·.1.name) := by
  induction states generalizing resolved start with
  | nil => rfl
  | cons state rest previous =>
      cases resolved with
      | nil => cases length_eq
      | cons triggers others =>
          have first := agrees 0 (Nat.zero_lt_succ _)
          have later := previous others (start + 1) (Nat.succ.inj length_eq)
            fun index inside => by
              have next := agrees (index + 1) (Nat.succ_lt_succ inside)
              have place : start + (index + 1) = start + 1 + index := by
                rw [Nat.add_comm index 1, Nat.add_assoc]
              rwa [place] at next
          simp only [List.zip_cons_cons, List.zipIdx_cons, List.filterMap_cons, List.filter_cons]
          rw [later]
          by_cases absent : unknown start
          · simp [absent, show triggers.isNone from first.mpr absent]
          · have present : triggers.isNone = false :=
              Bool.eq_false_iff.mpr fun missing => absent (first.mp missing)
            simp [absent, present]

theorem stuck_settled : machine.stuck machine.settled = machine.ungrounded := by
  refine stuck_from _ _ 0 (fun id => ¬ machine.Grounded id) machine.settled_supports.length_eq
    fun id _ => ?_
  rw [Nat.zero_add, ← machine.known_settled_iff, Option.not_isSome_iff_eq_none,
    Option.isNone_iff_eq_none]

theorem ungrounded_eq_nil_iff :
    machine.ungrounded = [] ↔ ∀ id < machine.size, machine.Grounded id := by
  rw [ungrounded, List.map_eq_nil_iff, List.filter_eq_nil_iff]
  constructor
  · intro none id inside
    have member : (machine.states[id], id) ∈ machine.states.zipIdx :=
      List.mk_mem_zipIdx_iff_getElem?.mpr (List.getElem?_eq_getElem inside)
    simpa using none _ member
  · rintro all ⟨state, id⟩ member
    have inside := (List.getElem?_eq_some_iff.mp (List.mk_mem_zipIdx_iff_getElem?.mp member)).1
    simpa using all id inside

theorem settled_eq_map (all : ∀ id < machine.size, machine.Grounded id) :
    ∃ triggers : List (List StateTrigger), machine.settled = triggers.map some := by
  have length_eq := machine.settled_supports.length_eq
  refine ⟨(List.range machine.size).map fun id => lookup machine.settled id, ?_⟩
  refine List.ext_getElem (by simp [length_eq]) fun id inside _ => ?_
  have grounded := all id (length_eq ▸ inside)
  obtain ⟨triggers, known⟩ := Option.isSome_iff_exists.mp (machine.known_settled_iff.mpr grounded)
  simp only [List.getElem_map, List.getElem_range, lookup, known, Option.getD_some]
  rwa [known?, List.getElem?_eq_getElem inside, Option.join_some] at known

theorem resolve_solves (all : ∀ id < machine.size, machine.Grounded id) :
    ∃ triggers, machine.resolve = .ok triggers ∧ triggers.length = machine.size ∧
      machine.Solves fun id => triggers.getD id [] := by
  obtain ⟨triggers, settled⟩ := machine.settled_eq_map all
  have none : machine.stuck machine.settled = [] := by
    rw [stuck_settled, ungrounded_eq_nil_iff]
    exact all
  have found : lookup machine.settled = fun id => triggers.getD id [] := by
    funext id
    rw [lookup, known?, settled, List.getElem?_map, List.getD_eq_getElem?_getD]
    cases triggers[id]? <;> rfl
  refine ⟨triggers, ?_, ?_, fun id inside => ?_⟩
  · simp only [resolve, none]
    rw [settled, List.filterMap_map]
    exact congrArg _ (List.filterMap_some ..)
  · rw [← machine.settled_supports.length_eq, settled, List.length_map]
  · rw [← found]
    exact machine.lookup_settled (all id inside)

theorem resolve_eq_error (some : ∃ id < machine.size, ¬ machine.Grounded id) :
    machine.resolve = .error (.invalid (.ungroundedStates machine.ungrounded)) := by
  obtain ⟨id, inside, ungrounded⟩ := some
  cases names : machine.stuck machine.settled with
  | nil =>
      rw [stuck_settled, ungrounded_eq_nil_iff] at names
      exact absurd (names id inside) ungrounded
  | cons first rest =>
      rw [← stuck_settled]
      simp only [resolve, names]

/-- A machine that resolves gives every state what it declares. -/
theorem grounded_of_resolve {triggers : List (List StateTrigger)}
    (resolved : machine.resolve = .ok triggers) :
    (∀ id < machine.size, machine.Grounded id) ∧ triggers.length = machine.size ∧
      machine.Solves fun id => triggers.getD id [] := by
  have all : ∀ id < machine.size, machine.Grounded id := by
    by_contra some
    obtain ⟨id, inside, ungrounded⟩ : ∃ id < machine.size, ¬ machine.Grounded id := by
      simpa using some
    cases (machine.resolve_eq_error ⟨id, inside, ungrounded⟩).symm.trans resolved
  obtain ⟨others, same, length_eq, solves⟩ := machine.resolve_solves all
  cases same.symm.trans resolved
  exact ⟨all, length_eq, solves⟩

end Saturating

/-! ## One solution, whatever the order -/

section Solutions

variable {machine other : StateMachine}

theorem Grounded.lt_size {id : StateId} (grounded : machine.Grounded id) : id < machine.size := by
  obtain ⟨source, found, -⟩ := grounded_iff.mp grounded
  obtain ⟨state, own⟩ := get?_of_source found
  exact (List.getElem?_eq_some_iff.mp own).1

/-- Two solutions agree on every state that can become active. -/
theorem Solves.unique {first second : StateId → List StateTrigger} (one : machine.Solves first)
    (two : machine.Solves second) {id : StateId} (grounded : machine.Grounded id) :
    first id = second id := by
  have declared (id : StateId) (grounded : machine.Grounded id)
      (ready : machine.Ready (fun member => first member = second member) id) :
      first id = second id := by
    rw [one id grounded.lt_size, two id grounded.lt_size]
    exact declares_congr ready fun _ same => same
  induction grounded with
  | activated found triggers =>
      exact declared _ (.activated found triggers) ⟨_, found, .inl triggers⟩
  | affected found triggers =>
      exact declared _ (.affected found triggers) ⟨_, found, .inr (.inl triggers)⟩
  | dependent found groups members previous =>
      exact declared _ (.dependent found groups members) ⟨_, found, .inr (.inr ⟨groups, previous⟩)⟩

/-- Another machine has the same states in another order: each is where `place` puts it. -/
def Reordered (machine other : StateMachine) (place : Equiv.Perm StateId) : Prop :=
  ∀ id, other.get? (place id) = (machine.get? id).map (State.placed place)

variable {place : Equiv.Perm StateId}

theorem Reordered.source (same : machine.Reordered other place) (id : StateId) :
    other.source (place id) = place (machine.source id) := by
  rw [StateMachine.source, StateMachine.source, same id]
  cases machine.get? id with
  | none => rfl
  | some state => cases inverse : state.inverseOf <;> simp [State.placed, inverse]

theorem Reordered.grounded (same : machine.Reordered other place) {id : StateId}
    (grounded : machine.Grounded id) : other.Grounded (place id) := by
  have source {id : StateId} {source : State}
      (found : machine.get? (machine.source id) = some source) :
      other.get? (other.source (place id)) = some (source.placed place) := by
    rw [same.source, same, found, Option.map_some]
  induction grounded with
  | activated found triggers => exact .activated (source found) triggers
  | affected found triggers => exact .affected (source found) triggers
  | dependent found groups members previous =>
      refine .dependent (source found) (mt List.map_eq_nil_iff.mp groups) ?_
      intro group inside member present
      obtain ⟨own, declared, rfl⟩ := List.mem_map.mp inside
      obtain ⟨original, contained, rfl⟩ := List.mem_map.mp present
      exact previous own declared original contained

theorem Reordered.guardOf (same : machine.Reordered other place) (others : List StateId) :
    other.guardOf (others.map place) = machine.guardOf others := by
  have conditions : other.conditionsOf (others.map place) = machine.conditionsOf others := by
    rw [conditionsOf, conditionsOf, List.filterMap_map]
    refine List.filterMap_congr fun id _ => ?_
    rw [Function.comp_apply, same id, Option.map_map]
    rfl
  rw [StateMachine.guardOf, StateMachine.guardOf, conditions, List.isEmpty_map]

theorem Reordered.declares (same : machine.Reordered other place)
    (triggers : StateId → List StateTrigger) (id : StateId) :
    other.declares (triggers ∘ place.symm) (place id) = machine.declares triggers id := by
  have groups (group : List StateId) :
      other.groupDeclares (triggers ∘ place.symm) (group.map place) =
        machine.groupDeclares triggers group := by
    rw [groupDeclares, groupDeclares, List.zipIdx_map, List.flatMap_map]
    refine List.flatMap_congr fun (member, position) _ => ?_
    simp [List.eraseIdx_map, same.guardOf]
  rw [StateMachine.declares, StateMachine.declares, same.source, same, same]
  cases machine.get? id with
  | none => rfl
  | some state =>
      cases machine.get? (machine.source id) with
      | none => rfl
      | some source => simp [State.placed, List.flatMap_map, groups]

theorem Reordered.lt_size_iff (same : machine.Reordered other place) {id : StateId} :
    place id < other.size ↔ id < machine.size := by
  have absent : other.get? (place id) = none ↔ machine.get? id = none := by
    rw [same id, Option.map_eq_none_iff]
  rw [StateMachine.get?, StateMachine.get?, List.getElem?_eq_none_iff,
    List.getElem?_eq_none_iff] at absent
  have present := not_congr absent
  rw [Nat.not_le, Nat.not_le] at present
  exact present

theorem Reordered.solves (same : machine.Reordered other place)
    {triggers : StateId → List StateTrigger} (solves : machine.Solves triggers) :
    other.Solves (triggers ∘ place.symm) := by
  intro id inside
  obtain ⟨id, rfl⟩ := place.surjective id
  rw [same.declares, Function.comp_apply, Equiv.symm_apply_apply]
  exact solves id (same.lt_size_iff.mp inside)

end Solutions

/-- What the triggers of a machine are, when all of its states can become active: the one
solution of its declarations, in whatever order they were made. -/
structure Resolution (machine : StateMachine) (triggers : List (List StateTrigger)) : Prop where
  length_eq : triggers.length = machine.size
  solves : machine.Solves fun id => triggers.getD id []
  unique : ∀ other, machine.Solves other → ∀ id < machine.size, other id = triggers.getD id []
  ordered : ∀ other place, machine.Reordered other place → ∃ others, other.resolve = .ok others ∧
    ∀ id < machine.size, others[place id]? = triggers[id]?

/-- Resolving makes passes until one changes nothing. It gives every state its triggers if
every state can become active, and otherwise names the states that cannot. -/
theorem resolve_least (machine : StateMachine) :
    machine.settled = machine.saturate machine.blank ∧
      ((∀ id < machine.size, machine.Grounded id) →
        ∃ triggers, machine.resolve = .ok triggers ∧ machine.Resolution triggers) ∧
      ((∃ id < machine.size, ¬ machine.Grounded id) →
        machine.resolve = .error (.invalid (.ungroundedStates machine.ungrounded))) := by
  refine ⟨machine.settled_eq_saturate, fun all => ?_, machine.resolve_eq_error⟩
  obtain ⟨triggers, resolved, length_eq, solves⟩ := machine.resolve_solves all
  refine ⟨triggers, resolved, length_eq, solves, ?_, ?_⟩
  · exact fun other solved id inside => solved.unique solves (all id inside)
  · intro other place same
    have others : ∀ id < other.size, other.Grounded id := by
      intro id inside
      obtain ⟨id, rfl⟩ := place.surjective id
      exact same.grounded (all id (same.lt_size_iff.mp inside))
    obtain ⟨others, resolved, size, solved⟩ := other.resolve_solves others
    refine ⟨others, resolved, fun id inside => ?_⟩
    have equal := solved.unique (same.solves solves) (same.grounded (all id inside))
    have there : place id < others.length := size ▸ same.lt_size_iff.mpr inside
    have here : id < triggers.length := length_eq ▸ inside
    simpa [List.getElem?_eq_getElem, there, here] using equal

end StateMachine

end HomeRules
