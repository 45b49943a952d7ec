import HomeRules.Event.Line
import HomeRules.Proofs.Event.Key

/-!
# What event lines tell

A line that carries an event tells a state change of the entity it names, or a named event. The
kind of a state change has a key. The name of an event is only checked to be a key of any kind:
where it is that of an entity or of an interval, the event is of a kind that no key denotes, and
no rule can be bound to it.
-/

set_option autoImplicit false

namespace HomeRules

namespace Text

/-! ## Words -/

private theorem unblank_wordsFrom {run text word : List Char}
    (unblank : ∀ c ∈ run, isBlank c = false) (member : word ∈ wordsFrom run text) :
    ∀ c ∈ word, isBlank c = false := by
  have whole : ∀ c ∈ run.reverse, isBlank c = false := fun c inside =>
    unblank c (List.mem_reverse.mp inside)
  induction text generalizing run with
  | nil =>
      unfold wordsFrom at member
      split at member
      · cases member
      · exact List.mem_singleton.mp member ▸ whole
  | cons first rest previous =>
      unfold wordsFrom at member
      split at member
      case isTrue =>
        split at member
        · exact previous (List.forall_mem_nil _) member (List.forall_mem_nil _)
        · rcases List.mem_cons.mp member with rfl | later
          · exact whole
          · exact previous (List.forall_mem_nil _) later (List.forall_mem_nil _)
      case isFalse letter =>
        have extended : ∀ c ∈ first :: run, isBlank c = false := by
          intro c inside
          rcases List.mem_cons.mp inside with rfl | old
          · exact Bool.not_eq_true _ ▸ letter
          · exact unblank c old
        exact previous extended member fun c inside => extended c (List.mem_reverse.mp inside)

theorem unblank_words {text word : List Char} (member : word ∈ words text) :
    ∀ c ∈ word, isBlank c = false :=
  unblank_wordsFrom (List.forall_mem_nil _) member

theorem trim_unblank {text : List Char} (unblank : ∀ c ∈ text, isBlank c = false) :
    trim text = text :=
  trim_eq_of_padded (padded_self text) (EventKind.bare_of_not_blank unblank)

end Text

namespace EventKind

/-! ## Kinds with a key -/

/-- Some key denotes a kind of event, so that a rule can be bound to it. -/
def Nameable (kind : EventKind) : Prop :=
  ∃ key, parse key = .ok kind

theorem nameable_iff {kind : EventKind} : kind.Nameable ↔ parse kind.render = .ok kind :=
  ⟨fun ⟨_, read⟩ => parse_render read, fun read => ⟨_, read⟩⟩

/-- A name of an event is one or more plain characters, points and dashes. -/
def IsName (name : List Char) : Prop :=
  name ≠ [] ∧ ∀ c ∈ name, Plain c ∨ c = '.' ∨ c = '-'

theorem nameable_bus_iff {name : List Char} :
    (EventKind.bus (String.ofList name)).Nameable ↔ IsName name := by
  constructor
  · rintro ⟨key, read⟩
    obtain ⟨inner, -, -, denotes⟩ := parse_eq_ok_iff.mp read
    generalize same : EventKind.bus (String.ofList name) = kind at denotes
    cases denotes with
    | state | every => cases same
    | bus named plain =>
        have equal := String.ofList_injective (EventKind.bus.inj same)
        exact equal ▸ ⟨named, plain⟩
  · rintro ⟨named, plain⟩
    rw [nameable_iff, parse, render, String.toList_ofList, toChars_bus]
    rw [Text.trim_unblank fun c member => not_blank_of_name (plain c member)]
    exact ofChars_of_denotes (.bus named plain)

/-- A key is the name of an event unless it says that it is something else. -/
theorem isName_iff_of_key {key : List Char} {kind : EventKind} (read : ofChars key = .ok kind) :
    IsName key ↔ ¬"state:".toList <+: key ∧ ¬"every:".toList <+: key := by
  constructor
  · rintro ⟨-, plain⟩
    have unbegun (beginning : List Char) (colon : ':' ∈ beginning) : ¬beginning <+: key := by
      intro begins
      exact absurd (plain ':' (begins.subset colon)) (by simp [Plain])
    exact ⟨unbegun _ (by decide), unbegun _ (by decide)⟩
  · rintro ⟨unstated, uneven⟩
    cases ofChars_denotes read with
    | state => exact absurd (List.prefix_append _ _) unstated
    | every => exact absurd (List.prefix_append _ _) uneven
    | bus named plain => exact ⟨named, plain⟩

theorem ofChars_state {entity : List Char} {kind : EventKind}
    (read : ofChars ("state:".toList ++ entity) = .ok kind) :
    kind = .stateChanged (String.ofList entity) := by
  rw [ofChars, if_neg (by simp), Text.dropBeginning_eq_some_iff.mpr rfl] at read
  split at read
  case h_2 => contradiction
  case h_1 other same =>
    cases same
    split at read
    · exact (Except.ok.inj read).symm
    · cases read

end EventKind

namespace Event

open EventKind Text

/-! ## Lines -/

/-- The words of a line tell of an event, a state change or a named event, where its key, or what
stands for it, denotes a kind. The data of a named event are those of the words after its name. -/
inductive Tells : List (List Char) → Event → Prop where
  | state {entity old new : List Char} {kind : EventKind}
      (checked : ofChars (trim ("state:".toList ++ entity)) = .ok kind) :
      Tells ["state".toList, entity, old, new]
        ⟨.stateChanged (String.ofList entity),
          .state (String.ofList entity) (stateOfWord old) (stateOfWord new)⟩
  | bus {name : List Char} {pairs : List (List Char)} {data : Dictionary String}
      {kind : EventKind} (paired : dataOfWords [] pairs = .ok data)
      (checked : ofChars (trim name) = .ok kind) :
      Tells ("bus".toList :: name :: pairs) ⟨.bus (String.ofList name), .bus data⟩
  | bare {name : List Char} {kind : EventKind} (checked : ofChars (trim name) = .ok kind) :
      Tells [name] ⟨.bus (String.ofList name), .bus []⟩

theorem stateOfWords_tells {words : List (List Char)} {event : Event}
    (read : stateOfWords words = .ok event) : Tells ("state".toList :: words) event := by
  unfold stateOfWords at read
  split at read
  case h_2 => cases read
  case h_1 entity old new =>
    split at read
    case h_2 => cases read
    case h_1 kind checked =>
      cases read
      exact .state checked

theorem busOfWord_eq_ok {name : List Char} {data : Dictionary String} {event : Event}
    (read : busOfWord name data = .ok event) : event = ⟨.bus (String.ofList name), .bus data⟩ ∧
      ∃ kind, ofChars (trim name) = .ok kind := by
  unfold busOfWord at read
  split at read
  case h_1 kind checked =>
    cases read
    exact ⟨rfl, kind, checked⟩
  case h_2 => cases read

private theorem map_some_eq_ok {ε α : Type} {result : Except ε α} {value : α}
    (mapped : result.map some = .ok (some value)) : result = .ok value := by
  cases result with
  | error => cases mapped
  | ok given =>
      cases mapped
      rfl

theorem ofWords_tells {words : List (List Char)} {event : Event}
    (read : ofWords words = .ok (some event)) : Tells words event := by
  unfold ofWords at read
  split at read
  case h_1 => cases read
  case h_2 first rest =>
    split at read
    case isTrue => cases read
    split at read
    case isTrue state =>
      subst state
      exact stateOfWords_tells (map_some_eq_ok read)
    split at read
    case isTrue bus =>
      subst bus
      split at read
      case h_1 => cases read
      case h_2 name pairs =>
        cases paired : dataOfWords [] pairs with
        | error cause =>
            rw [paired] at read
            cases read
        | ok data =>
            rw [paired] at read
            change (busOfWord name data >>= fun event => pure (some event)) = _ at read
            cases made : busOfWord name data with
            | error cause =>
                rw [made] at read
                cases read
            | ok other =>
                rw [made] at read
                cases read
                obtain ⟨rfl, kind, checked⟩ := busOfWord_eq_ok made
                exact .bus paired checked
    case isFalse =>
      split at read
      case h_1 =>
        obtain ⟨rfl, kind, checked⟩ := busOfWord_eq_ok (map_some_eq_ok read)
        exact .bare checked
      case h_2 => cases read

/-- A line that is read as an event tells the state change of an entity, with the entity in the
payload, or a named event. A state change is of a kind that is read back from its key. A named
event is so just if its name begins neither like the key of an entity nor like that of an
interval, and then its name is the name of an event. No key denotes any other kind. -/
theorem lines_tell {line : String} {event : Event} (read : ofLine line = .ok (some event)) :
    (event.kind.Nameable ↔ EventKind.parse event.kind.render = .ok event.kind) ∧
      ((∃ entity old new, words line.toList = ["state".toList, entity, old, new] ∧
          event = ⟨.stateChanged (String.ofList entity),
            .state (String.ofList entity) (stateOfWord old) (stateOfWord new)⟩ ∧
          event.kind.Nameable) ∨
        ∃ name data, (words line.toList = [name] ∨
            ∃ pairs, words line.toList = "bus".toList :: name :: pairs) ∧
          event = ⟨.bus (String.ofList name), .bus data⟩ ∧
          (event.kind.Nameable ↔ IsName name) ∧
          (IsName name ↔ ¬"state:".toList <+: name ∧ ¬"every:".toList <+: name)) := by
  have told := ofWords_tells read
  have unblank (word : List Char) (member : word ∈ words line.toList) :=
    Text.unblank_words member
  refine ⟨nameable_iff, ?_⟩
  generalize words line.toList = given at told unblank
  cases told with
  | @state entity old new kind checked =>
      have letters : ("state:".toList.all fun c => !isBlank c) = true := rfl
      have whole : ∀ c ∈ "state:".toList ++ entity, isBlank c = false := by
        intro c member
        rcases List.mem_append.mp member with front | behind
        · simpa using List.all_eq_true.mp letters c front
        · exact unblank entity (by simp) c behind
      have key : EventKind.parse (EventKind.stateChanged (String.ofList entity)).render =
          .ok kind := by
        rw [EventKind.parse, render, String.toList_ofList, toChars_stateChanged, checked]
      rw [Text.trim_unblank whole] at checked
      rw [ofChars_state checked] at key
      exact .inl ⟨entity, old, new, rfl, rfl, _, key⟩
  | @bus name pairs data kind paired checked =>
      rw [Text.trim_unblank (unblank name (by simp))] at checked
      exact .inr ⟨name, data, .inr ⟨pairs, rfl⟩, rfl, nameable_bus_iff, isName_iff_of_key checked⟩
  | @bare name kind checked =>
      rw [Text.trim_unblank (unblank name (by simp))] at checked
      exact .inr ⟨name, [], .inl rfl, rfl, nameable_bus_iff, isName_iff_of_key checked⟩

theorem lines_tell_garage :
    let name := "door_opened".toList
    let event : Event := ⟨.bus "door_opened", .bus [("by", "me"), ("door", "garage")]⟩
    ofLine " bus door_opened  door=garage by=me" = .ok (some event) ∧ IsName name ∧
      EventKind.parse event.kind.render = .ok event.kind := by
  intro name event
  have read : ofLine " bus door_opened  door=garage by=me" = .ok (some event) := rfl
  obtain ⟨shown, ⟨_, _, _, -, same, -⟩ | ⟨other, data, -, same, nameable, valid⟩⟩ :=
    lines_tell read
  · have kinds : EventKind.bus "door_opened" = .stateChanged _ := congrArg Event.kind same
    cases kinds
  · have equal : other = name :=
      (String.ofList_injective (EventKind.bus.inj (congrArg Event.kind same))).symm
    subst equal
    have named : IsName name := valid.mpr (by decide)
    exact ⟨read, named, shown.mp (nameable.mpr named)⟩

/-- A line may tell of an event whose name is the key of an interval. Its kind has no key. -/
theorem interval_line_unbound :
    ofLine "bus every:5s" = .ok (some ⟨.bus "every:5s", .bus []⟩) ∧
      EventKind.parse (EventKind.bus "every:5s").render =
        .ok (.interval (.ofMilliseconds 5000)) ∧
      ¬(EventKind.bus "every:5s").Nameable ∧ ¬IsName "every:5s".toList := by
  have unnamed : ¬IsName "every:5s".toList := fun named =>
    absurd (named.2 ':' (by decide)) (by simp [Plain])
  refine ⟨rfl, rfl, fun nameable => ?_, unnamed⟩
  exact unnamed (nameable_bus_iff.mp nameable)

end Event

end HomeRules
