import HomeRules.Bus.Exchange
import Mathlib.Data.List.Nodup
import Mathlib.Logic.Relation

/-!
# What a bus delivers

A publish starts the listeners that are there when it begins, in any order, and what it starts
may listen, unlisten and publish in turn. So publishes nest or run beside each other, and the
table changes while they are under way. Each publish starts each listener to the kind of its
event once and no other listener. A listener that was removed is not started by any publish that
begins later, but still by those that were under way when it was removed.
-/

set_option autoImplicit false

namespace HomeRules

/-! ## Histories -/

/-- What can happen on a bus. Publishes are numbered in the order in which they begin. -/
inductive Incident where
  | listened (id : Nat) (kind : EventKind)
  /-- A removal, also one of a listener that is not there. -/
  | unlistened (id : Nat)
  | began (publish : Nat) (event : Event)
  | started (publish : Nat) (listener : Nat)
  | ended (publish : Nat)
  deriving DecidableEq, Repr

namespace Incident

def publish? : Incident → Option Nat
  | .began number _ | .started number _ | .ended number => some number
  | .listened _ _ | .unlistened _ => none

def listener? : Incident → Option Nat
  | .started _ id => some id
  | _ => none

/-- After a history, latest first, a listener is registered for a kind of event. -/
def Listens (id : Nat) (kind : EventKind) : List Incident → Prop
  | [] => False
  | last :: earlier => last = .listened id kind ∨ last ≠ .unlistened id ∧ Listens id kind earlier

/-- An incident comes after a history as it should: ids and numbers are new, and a publish
starts each listener that was registered for the kind of its event when it began, once and
before it ends, and no other. -/
def Follows (earlier : List Incident) : Incident → Prop
  | .listened id _ => ∀ kind, .listened id kind ∉ earlier
  | .unlistened _ => True
  | .began number _ => ∀ incident ∈ earlier, incident.publish? ≠ some number
  | .started number id => .started number id ∉ earlier ∧ .ended number ∉ earlier ∧
      ∃ event since before, earlier = since ++ .began number event :: before ∧
        Listens id event.kind before
  | .ended number => .ended number ∉ earlier ∧
      ∃ event since before, earlier = since ++ .began number event :: before ∧
        ∀ id, Listens id event.kind before → .started number id ∈ since

/-- Each incident of a history comes after those before it as it should. -/
def Orderly : List Incident → Prop
  | [] => True
  | last :: earlier => last.Follows earlier ∧ Orderly earlier

section Histories

variable {id : Nat} {kind : EventKind} {history later earlier : List Incident}

theorem Listens.listened (listens : Listens id kind history) : .listened id kind ∈ history := by
  induction history with
  | nil => cases listens
  | cons last earlier previous =>
      rcases listens with rfl | ⟨-, listens⟩
      · exact List.mem_cons_self
      · exact List.mem_cons_of_mem _ (previous listens)

theorem Orderly.follows {incident : Incident}
    (orderly : Orderly (later ++ incident :: earlier)) : incident.Follows earlier := by
  induction later with
  | nil => exact orderly.1
  | cons last later previous => exact previous orderly.2

theorem Orderly.before (orderly : Orderly (later ++ earlier)) : Orderly earlier := by
  induction later with
  | nil => exact orderly
  | cons last later previous => exact previous orderly.2

/-- An id is given to one listener. -/
theorem Orderly.kind_eq (orderly : Orderly history) {other : EventKind}
    (one : .listened id kind ∈ history) (two : .listened id other ∈ history) : kind = other := by
  induction history with
  | nil => cases one
  | cons last earlier previous =>
      rcases List.mem_cons.mp one with rfl | before
      · rcases List.mem_cons.mp two with same | old
        · exact (Incident.listened.inj same).2.symm
        · exact absurd old (orderly.1 other)
      · rcases List.mem_cons.mp two with rfl | old
        · exact absurd before (orderly.1 kind)
        · exact previous orderly.2 before old

/-- A listener that was removed is registered for nothing any more. -/
theorem Orderly.not_listens (orderly : Orderly (later ++ .unlistened id :: earlier))
    {given : EventKind} (registered : .listened id given ∈ earlier) :
    ¬Listens id kind (later ++ .unlistened id :: earlier) := by
  induction later with
  | nil =>
      rintro (same | ⟨other, -⟩)
      · cases same
      · exact other rfl
  | cons last later previous =>
      rintro (rfl | ⟨-, listens⟩)
      · exact orderly.1 given
          (List.mem_append_right _ (List.mem_cons_of_mem _ registered))
      · exact previous orderly.2 listens

end Histories

end Incident

/-! ## Publishes under way -/

/-- A publish that is under way, and the listeners it has still to start. -/
structure Round (τ : Type) where
  number : Nat
  event : Event
  waiting : List (Listener τ)

/-- A bus, the publishes that are under way on it, and what happened so far, latest first. -/
structure Traffic (τ : Type) where
  bus : Bus τ := {}
  rounds : List (Round τ) := []
  begun : Nat := 0
  history : List Incident := []

namespace Traffic

open Incident

variable {τ : Type}

/-- What can happen next. Nothing says who does it: a listener that is running, at any depth, or
someone outside. A publish takes the listeners to its kind out of the table as it begins, and
visits them in any order. -/
inductive Step : Traffic τ → Traffic τ → Prop where
  | listen {traffic : Traffic τ} (kind : EventKind) (target : τ) :
      Step traffic { traffic with
        bus := (traffic.bus.listen kind target).1
        history := .listened (traffic.bus.listen kind target).2 kind :: traffic.history }
  | unlisten {traffic : Traffic τ} (id : Nat) :
      Step traffic { traffic with
        bus := (traffic.bus.unlisten id).1
        history := .unlistened id :: traffic.history }
  | publish {traffic : Traffic τ} (event : Event) {order : List (Listener τ)}
      (listeners : order.Perm (traffic.bus.listenersTo event.kind)) :
      Step traffic { traffic with
        rounds := ⟨traffic.begun, event, order⟩ :: traffic.rounds
        begun := traffic.begun + 1
        history := .began traffic.begun event :: traffic.history }
  | start {traffic : Traffic τ} {front back : List (Round τ)} {number : Nat} {event : Event}
      {listener : Listener τ} {waiting : List (Listener τ)}
      (under : traffic.rounds = front ++ ⟨number, event, listener :: waiting⟩ :: back) :
      Step traffic { traffic with
        rounds := front ++ ⟨number, event, waiting⟩ :: back
        history := .started number listener.id :: traffic.history }
  | finish {traffic : Traffic τ} {front back : List (Round τ)} {number : Nat} {event : Event}
      (under : traffic.rounds = front ++ ⟨number, event, []⟩ :: back) :
      Step traffic { traffic with
        rounds := front ++ back
        history := .ended number :: traffic.history }

abbrev Run : Traffic τ → Traffic τ → Prop :=
  Relation.ReflTransGen Step

/-! ## Invariants -/

/-- What a publish that is under way has to do with the history: it has begun and not ended,
and it has still to start just those that were registered for its kind when it began and that
it has not started yet. -/
structure Proceeds (history : List Incident) (round : Round τ) : Prop where
  unended : .ended round.number ∉ history
  distinct : (round.waiting.map (·.id)).Nodup
  unstarted : ∀ listener ∈ round.waiting, .started round.number listener.id ∉ history
  begun : ∃ since before, history = since ++ .began round.number round.event :: before ∧
    (∀ listener ∈ round.waiting, Listens listener.id round.event.kind before) ∧
    ∀ id, Listens id round.event.kind before →
      .started round.number id ∈ since ∨ id ∈ round.waiting.map (·.id)

/-- The table of a bus holds just those that are registered after a history. -/
structure Tables (history : List Incident) (bus : Bus τ) : Prop where
  holds : ∀ id kind, (∃ target, ⟨id, kind, target⟩ ∈ bus.listeners) ↔ Listens id kind history
  distinct : (bus.listeners.map (·.id)).Nodup
  issued : ∀ id kind, .listened id kind ∈ history → id < bus.nextId

structure Sound (traffic : Traffic τ) : Prop where
  orderly : Orderly traffic.history
  tables : Tables traffic.history traffic.bus
  numbered : ∀ incident ∈ traffic.history, ∀ number, incident.publish? = some number →
    number < traffic.begun
  apart : (traffic.rounds.map (·.number)).Nodup
  proceeds : ∀ round ∈ traffic.rounds, Proceeds traffic.history round

section Keeping

variable {traffic later : Traffic τ} {history : List Incident} {round : Round τ}
  {incident : Incident} {bus : Bus τ}

/-- What a publish does leaves the table alone. -/
theorem Tables.beside (tables : Tables history bus) {number : Nat}
    (publish : incident.publish? = some number) : Tables (incident :: history) bus := by
  refine ⟨fun id kind => ?_, tables.distinct, fun id kind listened => ?_⟩
  · rw [tables.holds]
    refine ⟨fun listens => .inr ⟨?_, listens⟩, ?_⟩
    · rintro rfl
      cases publish
    · rintro (rfl | ⟨-, listens⟩)
      · cases publish
      · exact listens
  · rcases List.mem_cons.mp listened with rfl | before
    · cases publish
    · exact tables.issued id kind before

theorem Tables.fresh (tables : Tables history bus) (kind : EventKind) :
    .listened bus.nextId kind ∉ history := fun listened =>
  Nat.lt_irrefl _ (tables.issued _ kind listened)

theorem Tables.listen (tables : Tables history bus) (kind : EventKind) (target : τ) :
    Tables (.listened bus.nextId kind :: history) (bus.listen kind target).1 := by
  refine ⟨fun id other => ?_, ?_, fun id other listened => ?_⟩
  · simp only [Bus.listen, List.mem_append, List.mem_singleton, Listens, exists_or,
      ← tables.holds]
    constructor
    · rintro (present | ⟨_, same⟩)
      · exact .inr ⟨nofun, present⟩
      · cases same
        exact .inl rfl
    · rintro (same | ⟨-, present⟩)
      · cases same
        exact .inr ⟨target, rfl⟩
      · exact .inl present
  · simp only [Bus.listen, List.map_append, List.map_cons, List.map_nil]
    refine List.nodup_append'.mpr ⟨tables.distinct, List.nodup_singleton _, ?_⟩
    intro id member new
    obtain ⟨listener, present, rfl⟩ := List.mem_map.mp member
    have listens := (tables.holds listener.id listener.kind).mp ⟨listener.target, present⟩
    have old := tables.issued _ _ listens.listened
    exact Nat.ne_of_lt old (List.mem_singleton.mp new)
  · rcases List.mem_cons.mp listened with same | before
    · cases same
      exact Nat.lt_succ_self _
    · exact Nat.lt_succ_of_lt (tables.issued id other before)

theorem Tables.unlisten (tables : Tables history bus) (id : Nat) :
    Tables (.unlistened id :: history) (bus.unlisten id).1 := by
  refine ⟨fun other kind => ?_, ?_, fun other kind listened => ?_⟩
  · simp only [Bus.unlisten, List.mem_filter, Listens, ← tables.holds]
    grind
  · exact tables.distinct.sublist (List.filter_sublist.map _)
  · exact tables.issued other kind ((List.mem_cons.mp listened).resolve_left nofun)

/-- A publish is left alone by all that it does not do itself. -/
theorem Proceeds.beside (proceeds : Proceeds history round)
    (other : incident.publish? ≠ some round.number) :
    Proceeds (incident :: history) round := by
  obtain ⟨unended, distinct, unstarted, since, before, rfl, waiting, whole⟩ := proceeds
  refine ⟨?_, distinct, ?_, incident :: since, before, rfl, waiting, ?_⟩
  · rintro (_ | ⟨_, ended⟩)
    · exact other rfl
    · exact unended ended
  · rintro listener member (_ | ⟨_, started⟩)
    · exact other rfl
    · exact unstarted listener member started
  · exact fun id listens => (whole id listens).imp_left (List.mem_cons_of_mem _)

theorem Sound.number_lt (sound : traffic.Sound) (member : round ∈ traffic.rounds) :
    round.number < traffic.begun := by
  obtain ⟨since, before, past, -⟩ := (sound.proceeds round member).begun
  refine sound.numbered (.began round.number round.event) ?_ _ rfl
  rw [past]
  exact List.mem_append_right _ List.mem_cons_self

theorem Sound.numbered_cons (sound : traffic.Sound) {bound : Nat} (grown : traffic.begun ≤ bound)
    (new : ∀ number, incident.publish? = some number → number < bound) :
    ∀ other ∈ incident :: traffic.history, ∀ number, other.publish? = some number →
      number < bound := by
  intro other member number given
  rcases List.mem_cons.mp member with rfl | old
  · exact new number given
  · exact Nat.lt_of_lt_of_le (sound.numbered other old number given) grown

theorem Sound.listen (sound : traffic.Sound) (kind : EventKind) (target : τ) :
    Sound { traffic with
      bus := (traffic.bus.listen kind target).1
      history := .listened (traffic.bus.listen kind target).2 kind :: traffic.history } where
  orderly := ⟨sound.tables.fresh, sound.orderly⟩
  tables := sound.tables.listen kind target
  numbered := sound.numbered_cons (Nat.le_refl _) nofun
  apart := sound.apart
  proceeds round member := (sound.proceeds round member).beside nofun

theorem Sound.unlisten (sound : traffic.Sound) (id : Nat) :
    Sound { traffic with
      bus := (traffic.bus.unlisten id).1
      history := .unlistened id :: traffic.history } where
  orderly := ⟨trivial, sound.orderly⟩
  tables := sound.tables.unlisten id
  numbered := sound.numbered_cons (Nat.le_refl _) nofun
  apart := sound.apart
  proceeds round member := (sound.proceeds round member).beside nofun

theorem Sound.publish (sound : traffic.Sound) (event : Event) {order : List (Listener τ)}
    (listeners : order.Perm (traffic.bus.listenersTo event.kind)) :
    Sound { traffic with
      rounds := ⟨traffic.begun, event, order⟩ :: traffic.rounds
      begun := traffic.begun + 1
      history := .began traffic.begun event :: traffic.history } := by
  have new : ∀ incident ∈ traffic.history, incident.publish? ≠ some traffic.begun :=
    fun incident member given => Nat.lt_irrefl _ (sound.numbered _ member _ given)
  have listed (listener : Listener τ) : listener ∈ order ↔
      listener ∈ traffic.bus.listeners ∧ listener.kind = event.kind := by
    rw [listeners.mem_iff, Bus.listenersTo, List.mem_filter, decide_eq_true_eq]
  constructor
  case orderly => exact ⟨new, sound.orderly⟩
  case tables => exact sound.tables.beside rfl
  case numbered =>
    refine sound.numbered_cons (Nat.le_succ _) fun number given => ?_
    exact Option.some.inj given ▸ Nat.lt_succ_self _
  case apart =>
    refine List.nodup_cons.mpr ⟨fun member => ?_, sound.apart⟩
    obtain ⟨round, under, same⟩ := List.mem_map.mp member
    exact Nat.ne_of_lt (sound.number_lt under) same
  case proceeds =>
    rintro round (_ | ⟨_, member⟩)
    · refine ⟨?_, ?_, ?_, [], traffic.history, rfl, ?_, ?_⟩
      · exact fun ended => new _ ((List.mem_cons.mp ended).resolve_left nofun) rfl
      · exact (listeners.map _).nodup_iff.mpr
          (sound.tables.distinct.sublist (List.filter_sublist.map _))
      · exact fun listener _ started =>
          new _ ((List.mem_cons.mp started).resolve_left nofun) rfl
      · intro listener member
        obtain ⟨present, same⟩ := (listed listener).mp member
        rw [← same]
        exact (sound.tables.holds _ _).mp ⟨listener.target, present⟩
      · intro id listens
        obtain ⟨target, present⟩ := (sound.tables.holds id event.kind).mpr listens
        exact .inr (List.mem_map.mpr ⟨_, (listed _).mpr ⟨present, rfl⟩, rfl⟩)
    · refine (sound.proceeds round member).beside fun same => ?_
      exact Nat.ne_of_gt (sound.number_lt member) (Option.some.inj same)

section Under

variable {front back : List (Round τ)} {number : Nat} {event : Event}

private theorem Sound.other {waiting : List (Listener τ)} (sound : traffic.Sound)
    (under : traffic.rounds = front ++ ⟨number, event, waiting⟩ :: back)
    (member : round ∈ front ++ back) :
    round ∈ traffic.rounds ∧ some number ≠ some round.number := by
  have apart := sound.apart
  rw [under, (List.perm_middle.map _).nodup_iff] at apart
  refine ⟨?_, fun same => ?_⟩
  · rw [under, List.perm_middle.mem_iff]
    exact List.mem_cons_of_mem _ member
  · have numbers := (List.nodup_cons.mp apart).1
    exact numbers (List.mem_map.mpr ⟨round, member, (Option.some.inj same).symm⟩)

theorem Sound.start {listener : Listener τ} {waiting : List (Listener τ)} (sound : traffic.Sound)
    (under : traffic.rounds = front ++ ⟨number, event, listener :: waiting⟩ :: back) :
    Sound { traffic with
      rounds := front ++ ⟨number, event, waiting⟩ :: back
      history := .started number listener.id :: traffic.history } := by
  have member : ⟨number, event, listener :: waiting⟩ ∈ traffic.rounds := by
    rw [under]
    exact List.mem_append_right _ List.mem_cons_self
  obtain ⟨unended, distinct, unstarted, since, before, past, registered, whole⟩ :=
    sound.proceeds _ member
  obtain ⟨once, distinct⟩ := List.nodup_cons.mp distinct
  constructor
  case orderly =>
    exact ⟨⟨unstarted listener List.mem_cons_self, unended, event, since, before, past,
      registered listener List.mem_cons_self⟩, sound.orderly⟩
  case tables => exact sound.tables.beside rfl
  case numbered =>
    refine sound.numbered_cons (Nat.le_refl _) fun other given => ?_
    exact Option.some.inj given ▸ sound.number_lt member
  case apart =>
    have apart := sound.apart
    rw [under] at apart
    simpa using apart
  case proceeds =>
    intro round here
    rcases List.mem_cons.mp (List.perm_middle.mem_iff.mp here) with rfl | beside
    · refine ⟨?_, distinct, ?_, .started number listener.id :: since, before, ?_, ?_, ?_⟩
      · exact fun ended => unended ((List.mem_cons.mp ended).resolve_left nofun)
      · intro other later started
        rcases List.mem_cons.mp started with same | old
        · exact once (List.mem_map.mpr ⟨other, later, (Incident.started.inj same).2⟩)
        · exact unstarted other (List.mem_cons_of_mem _ later) old
      · exact congrArg _ past
      · exact fun other later => registered other (List.mem_cons_of_mem _ later)
      · intro id listens
        rcases whole id listens with started | here | later
        · exact .inl (List.mem_cons_of_mem _ started)
        · exact .inl List.mem_cons_self
        · exact .inr (by assumption)
    · obtain ⟨present, other⟩ := sound.other under beside
      exact (sound.proceeds round present).beside other

theorem Sound.finish (sound : traffic.Sound)
    (under : traffic.rounds = front ++ ⟨number, event, []⟩ :: back) :
    Sound { traffic with
      rounds := front ++ back
      history := .ended number :: traffic.history } := by
  have member : ⟨number, event, []⟩ ∈ traffic.rounds := by
    rw [under]
    exact List.mem_append_right _ List.mem_cons_self
  obtain ⟨unended, -, -, since, before, past, -, whole⟩ := sound.proceeds _ member
  constructor
  case orderly =>
    exact ⟨⟨unended, event, since, before, past,
      fun id listens => (whole id listens).resolve_right List.not_mem_nil⟩, sound.orderly⟩
  case tables => exact sound.tables.beside rfl
  case numbered =>
    refine sound.numbered_cons (Nat.le_refl _) fun other given => ?_
    exact Option.some.inj given ▸ sound.number_lt member
  case apart =>
    have apart := sound.apart
    rw [under, (List.perm_middle.map _).nodup_iff] at apart
    exact (List.nodup_cons.mp apart).2
  case proceeds =>
    intro round here
    obtain ⟨present, other⟩ := sound.other under here
    exact (sound.proceeds round present).beside other

end Under

theorem Step.sound (step : Step traffic later) (sound : traffic.Sound) : later.Sound := by
  cases step with
  | listen kind target => exact sound.listen kind target
  | unlisten id => exact sound.unlisten id
  | publish event listeners => exact sound.publish event listeners
  | start under => exact sound.start under
  | finish under => exact sound.finish under

theorem Run.sound (run : Run {} traffic) : traffic.Sound := by
  induction run with
  | refl =>
      exact {
        orderly := trivial
        tables := ⟨fun _ _ => ⟨nofun, nofun⟩, .nil, nofun⟩
        numbered := nofun
        apart := .nil
        proceeds := nofun }
  | tail _ step previous => exact step.sound previous

end Keeping

end Traffic

/-! ## What a history shows -/

namespace Incident.Orderly

variable {later earlier : List Incident} {number id : Nat}

theorem started_once (orderly : Orderly (later ++ .started number id :: earlier)) :
    .started number id ∉ later ∧ .started number id ∉ earlier := by
  refine ⟨fun again => ?_, orderly.follows.1⟩
  obtain ⟨after, between, rfl⟩ := List.append_of_mem again
  rw [List.append_assoc] at orderly
  exact orderly.follows.1 (List.mem_append_right _ List.mem_cons_self)

/-- Only a publish that was under way when a listener was removed starts it afterwards. -/
theorem under_way (orderly : Orderly (later ++ .unlistened id :: earlier)) {kind : EventKind}
    (registered : .listened id kind ∈ earlier) (started : .started number id ∈ later) :
    (∃ event, .began number event ∈ earlier) ∧ .ended number ∉ earlier := by
  obtain ⟨after, between, rfl⟩ := List.append_of_mem started
  rw [List.append_assoc] at orderly
  obtain ⟨-, unended, event, since, before, past, listens⟩ := orderly.follows
  refine ⟨⟨event, ?_⟩, fun ended =>
    unended (List.mem_append_right _ (List.mem_cons_of_mem _ ended))⟩
  rcases List.append_eq_append_iff.mp past with ⟨inner, -, old⟩ | ⟨inner, rfl, new⟩
  · cases inner with
    | nil => cases old
    | cons first inner =>
        rw [(List.cons.inj old).2]
        exact List.mem_append_right _ List.mem_cons_self
  · cases inner with
    | nil => cases new
    | cons first inner =>
        -- The publish would have begun after the removal, when the listener was gone.
        rw [(List.cons.inj new).2] at listens
        have rest : after ++ .started number id :: (since ++ first :: inner ++
            .unlistened id :: earlier) = (after ++ .started number id :: (since ++ [first])) ++
              (inner ++ .unlistened id :: earlier) := by simp
        have whole : Orderly (after ++ .started number id :: (since ++ first :: inner ++
            .unlistened id :: earlier)) := orderly
        rw [rest] at whole
        exact absurd listens (whole.before.not_listens registered)

end Incident.Orderly

/-! ## Exchanges -/

namespace Exchange

open Traffic

/-- What an exchange does, told of its bus: later it has the bus of `after`, and since then just
those have heard something that were started on the way there. -/
structure Told (exchange later : Exchange) (traffic after : Traffic Reactor) : Prop where
  run : Run traffic after
  bus : after.bus = later.bus
  heard : ∃ since, after.history = since ++ traffic.history ∧
    later.heard.map (·.listener) =
      since.filterMap Incident.listener? ++ exchange.heard.map (·.listener)

/-- A change of an exchange is a run on its bus, after which no other publishes are under way
than before. -/
def Mirrored (change : Exchange → Option Exchange) : Prop :=
  ∀ {exchange later : Exchange}, change exchange = some later →
    ∀ traffic : Traffic Reactor, traffic.bus = exchange.bus →
      ∃ after, Told exchange later traffic after ∧ after.rounds = traffic.rounds

section Mirrored

variable {exchange between later : Exchange} {traffic middle after : Traffic Reactor}
  {publish : Event → Exchange → Option Exchange} {event : Event}

theorem Told.refl (same : traffic.bus = exchange.bus) : Told exchange exchange traffic traffic :=
  ⟨.refl, same, [], rfl, rfl⟩

theorem Told.trans (first : Told exchange between traffic middle)
    (second : Told between later middle after) : Told exchange later traffic after := by
  obtain ⟨firstRun, -, old, past, told⟩ := first
  obtain ⟨secondRun, bus, new, next, telling⟩ := second
  refine ⟨firstRun.trans secondRun, bus, new ++ old, ?_, ?_⟩
  · rw [next, past, List.append_assoc]
  · rw [telling, told, List.filterMap_append, List.append_assoc]

theorem Mirrored.foldlM {α : Type} {change : Exchange → α → Option Exchange}
    (each : ∀ item, Mirrored (change · item)) (items : List α) :
    Mirrored (items.foldlM change) := by
  intro exchange later changed traffic same
  induction items generalizing exchange traffic with
  | nil =>
      cases changed
      exact ⟨traffic, .refl same, rfl⟩
  | cons item items previous =>
      obtain ⟨between, first, rest⟩ := Option.bind_eq_some_iff.mp changed
      obtain ⟨middle, told, rounds⟩ := each item first traffic same
      obtain ⟨after, telling, kept⟩ := previous rest middle told.bus
      exact ⟨after, told.trans telling, kept.trans rounds⟩

theorem react_mirrored (nested : ∀ event, Mirrored (publish event)) (self : Nat)
    (reaction : Reaction) : Mirrored (react publish self · reaction) := by
  intro exchange later reacted traffic same
  have unlistened (id : Nat) : ∃ after, Told exchange
      { exchange with bus := (exchange.bus.unlisten id).1 } traffic after ∧
        after.rounds = traffic.rounds :=
    ⟨_, ⟨.single (.unlisten id), congrArg (fun bus => (Bus.unlisten bus id).1) same,
      [.unlistened id], rfl, rfl⟩, rfl⟩
  cases reaction with
  | unlistenSelf =>
      cases reacted
      exact unlistened self
  | unlisten id =>
      cases reacted
      exact unlistened id
  | listen name kind reactions =>
      cases reacted
      exact ⟨_, ⟨.single (.listen kind ⟨name, reactions⟩),
        congrArg (fun bus => (Bus.listen bus kind (⟨name, reactions⟩ : Reactor)).1) same,
        [.listened _ kind], rfl, rfl⟩, rfl⟩
  | publish event => exact nested event reacted traffic same

theorem deliver_told (nested : ∀ event, Mirrored (publish event)) {listener : Listener Reactor}
    (delivered : deliver publish event exchange listener = some later)
    (same : traffic.bus = exchange.bus) {number : Nat} {waiting : List (Listener Reactor)}
    {back : List (Round Reactor)}
    (under : traffic.rounds = ⟨number, event, listener :: waiting⟩ :: back) :
    ∃ after, Told exchange later traffic after ∧
      after.rounds = ⟨number, event, waiting⟩ :: back := by
  let begun : Traffic Reactor := { traffic with
    rounds := ⟨number, event, waiting⟩ :: back
    history := .started number listener.id :: traffic.history }
  have start : Step traffic begun := @Step.start _ _ [] _ _ _ _ _ under
  have first : Told exchange { exchange with
      heard := ⟨listener.id, listener.target.name, event⟩ :: exchange.heard } traffic begun :=
    ⟨.single start, same, [.started number listener.id], rfl, rfl⟩
  obtain ⟨after, told, rounds⟩ := Mirrored.foldlM (react_mirrored nested listener.id)
    listener.target.reactions delivered begun same
  exact ⟨after, first.trans told, rounds⟩

theorem deliver_all_told (nested : ∀ event, Mirrored (publish event))
    {listeners : List (Listener Reactor)}
    (delivered : listeners.foldlM (deliver publish event) exchange = some later)
    (same : traffic.bus = exchange.bus) {number : Nat} {back : List (Round Reactor)}
    (under : traffic.rounds = ⟨number, event, listeners⟩ :: back) :
    ∃ after, Told exchange later traffic after ∧ after.rounds = ⟨number, event, []⟩ :: back := by
  induction listeners generalizing exchange traffic with
  | nil =>
      cases delivered
      exact ⟨traffic, .refl same, under⟩
  | cons listener listeners previous =>
      obtain ⟨between, first, rest⟩ := Option.bind_eq_some_iff.mp delivered
      obtain ⟨middle, told, rounds⟩ := deliver_told nested first same under
      obtain ⟨after, telling, ended⟩ := previous rest told.bus rounds
      exact ⟨after, told.trans telling, ended⟩

/-- A publish on an exchange is a run on its bus that visits the listeners in the order in which
they were added. -/
theorem publish_mirrored (depth : Nat) (event : Event) :
    Mirrored (Exchange.publish depth event) := by
  induction depth generalizing event with
  | zero => exact nofun
  | succ depth previous =>
      intro exchange later published traffic same
      obtain ⟨between, delivered, sent⟩ := Option.bind_eq_some_iff.mp published
      cases sent
      let order := exchange.bus.listenersTo event.kind
      have listed : order.Perm (traffic.bus.listenersTo event.kind) := by
        rw [same]
      let begun : Traffic Reactor := { traffic with
        rounds := ⟨traffic.begun, event, order⟩ :: traffic.rounds
        begun := traffic.begun + 1
        history := .began traffic.begun event :: traffic.history }
      have began : Told exchange exchange traffic begun :=
        ⟨.single (.publish event listed), same, [.began traffic.begun event], rfl, rfl⟩
      have under : begun.rounds = ⟨traffic.begun, event, order⟩ :: traffic.rounds := rfl
      have kept : begun.bus = exchange.bus := same
      obtain ⟨done, told, rounds⟩ := deliver_all_told previous delivered kept under
      let after : Traffic Reactor := { done with
        rounds := traffic.rounds
        history := .ended traffic.begun :: done.history }
      have finish : Step done after := @Step.finish _ _ [] _ _ _ rounds
      have ended : Told between
          { between with channel := between.channel.send event } done after :=
        ⟨.single finish, told.bus, [.ended traffic.begun], rfl, rfl⟩
      exact ⟨after, (began.trans told).trans ended, rfl⟩

end Mirrored

end Exchange

/-! ## Deliveries -/

namespace Traffic

open Incident

/-- Whatever the listeners do, each publish starts only listeners that were registered for the
kind of its event when it began, each of them once, and all of them before it ends. A listener
that was removed is never registered again, and only a publish that was under way at its removal
starts it afterwards. The publishes of an exchange are such runs, in which those are started
that hear. -/
theorem deliveries_follow {τ : Type} {traffic : Traffic τ} (run : Run {} traffic) :
    (∀ later number id earlier, traffic.history = later ++ .started number id :: earlier →
      .started number id ∉ later ∧ .started number id ∉ earlier ∧
        ∃ event since before, earlier = since ++ .began number event :: before ∧
          Listens id event.kind before ∧
          ∀ kind, .listened id kind ∈ traffic.history → kind = event.kind) ∧
      (∀ later number earlier, traffic.history = later ++ .ended number :: earlier →
        ∃ event since before, earlier = since ++ .began number event :: before ∧
          ∀ id, Listens id event.kind before → .started number id ∈ since) ∧
      (∀ later id earlier, traffic.history = later ++ .unlistened id :: earlier →
        (∃ kind, .listened id kind ∈ earlier) → (∀ kind, .listened id kind ∉ later) ∧
          ∀ number, .started number id ∈ later →
            (∃ event, .began number event ∈ earlier) ∧ .ended number ∉ earlier) ∧
      ∀ depth event, Exchange.Mirrored (Exchange.publish depth event) := by
  have orderly := run.sound.orderly
  refine ⟨?_, ?_, ?_, Exchange.publish_mirrored⟩
  · intro later number id earlier past
    have whole := orderly
    rw [past] at whole
    obtain ⟨neverLater, neverEarlier⟩ := whole.started_once
    obtain ⟨-, -, event, since, before, began, listens⟩ := whole.follows
    refine ⟨neverLater, neverEarlier, event, since, before, began, listens, ?_⟩
    intro kind listened
    refine orderly.kind_eq listened ?_
    rw [past, began]
    simp [listens.listened]
  · intro later number earlier past
    rw [past] at orderly
    exact orderly.follows.2
  · rintro later id earlier past ⟨kind, registered⟩
    rw [past] at orderly
    refine ⟨fun other again => ?_, fun number => orderly.under_way registered⟩
    obtain ⟨after, between, rfl⟩ := List.append_of_mem again
    rw [List.append_assoc] at orderly
    exact orderly.follows kind (List.mem_append_right _ (List.mem_cons_of_mem _ registered))

def motion : Event := ⟨.bus "motion", .bus []⟩

/-- Two listeners, each of which removes the other one. -/
def rivals : Bus Reactor :=
  ((({} : Bus Reactor).listen motion.kind ⟨"first", [.unlisten 1]⟩).1.listen motion.kind
    ⟨"second", [.unlisten 0]⟩).1

/-- What happens when an event is published to rivals: the first removes the second, which is
started then all the same. -/
def rivalry : List Incident := [.ended 0, .unlistened 0, .started 0 1, .unlistened 1,
  .started 0 0, .began 0 motion, .listened 1 motion.kind, .listened 0 motion.kind]

theorem rivals_run : ∃ traffic : Traffic Reactor, Run {} traffic ∧ traffic.history = rivalry := by
  have listened : Run ({} : Traffic Reactor) {
      bus := rivals, history := [.listened 1 motion.kind, .listened 0 motion.kind] } :=
    .tail (.single (.listen _ _)) (.listen _ _)
  have first := (listened.tail (.publish motion (.refl _))).tail (@Step.start _ _ [] _ _ _ _ _ rfl)
  have second := (first.tail (.unlisten 1)).tail (@Step.start _ _ [] _ _ _ _ _ rfl)
  exact ⟨_, (second.tail (.unlisten 0)).tail (@Step.finish _ _ [] _ _ _ rfl), rfl⟩

theorem deliveries_follow_rivals : ∃ traffic : Traffic Reactor, Run {} traffic ∧
    traffic.history = rivalry ∧ Incident.started 0 1 ∉ rivalry.take 2 ∧
      (∃ event, .began 0 event ∈ rivalry.drop 4) ∧ .ended 0 ∉ rivalry.drop 4 := by
  obtain ⟨traffic, run, past⟩ := rivals_run
  obtain ⟨starts, -, removals, -⟩ := deliveries_follow run
  obtain ⟨once, -⟩ := starts (rivalry.take 2) 0 1 (rivalry.drop 3) past
  obtain ⟨-, underWay⟩ :=
    removals (rivalry.take 3) 1 (rivalry.drop 4) past ⟨motion.kind, by decide⟩
  exact ⟨traffic, run, past, once, underWay 0 (by decide)⟩

/-- A listener that was removed can still be started. -/
theorem removed_still_started :
    ((Exchange.publish 1 motion { bus := rivals, channel := .create 1 }).map fun later =>
        (later.heard.map (·.listener), later.bus.kinds)) = some ([1, 0], []) ∧
      ¬∀ traffic : Traffic Reactor, Run {} traffic →
        ∀ later id earlier, traffic.history = later ++ .unlistened id :: earlier →
          (∃ kind, .listened id kind ∈ earlier) → ∀ number, .started number id ∉ later := by
  refine ⟨rfl, fun kept => ?_⟩
  obtain ⟨traffic, run, past⟩ := rivals_run
  exact kept traffic run (rivalry.take 3) 1 (rivalry.drop 4) past ⟨motion.kind, by decide⟩ 0
    (by decide)

end Traffic

end HomeRules
