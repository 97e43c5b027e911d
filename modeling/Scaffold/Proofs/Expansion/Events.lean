import Mathlib.Data.String.Basic
import Scaffold.Proofs.Expansion.Declared

/-!
# Events

An event that the author does not declare comes from the commands that emit it.  These may
be several, bound to different entities and with different outcomes.  They are met in the
order of their names, and an event is only registered where none stands, so it is the first
command that says what the event is.

## Main definitions

* `Spec.eventNamed?` — the event of a name that a command brings.
* `Declaration.FirstEmits` — the first command that emits an event.

## Main results

* `Declaration.reaching_event` — the additions that reach an event, in their order.
* `Declaration.find?_assemble_event_of_none`,
  `Declaration.CommandsBound.exists_firstEmits` — an event that is not declared.
* `Domain.event_of_emitted` — the events of commands in a blueprint.
-/

namespace Scaffold

/-- The event of a name that a command brings, if it is bound and emits it. -/
def Spec.eventNamed? (command : Spec) (event : String) : Option Spec :=
  command.entity.bind fun entity => (command.events.get? event).map
    (Declaration.eventSpec entity command)

namespace Declaration

variable {d : Declaration} {event : String}

/-! ### The additions that reach an event -/

/-- A command brings one event of a name, or none. -/
private theorem filter_event_commandAdditions (name : String) (command : Spec) :
    (d.commandAdditions name command).filter (Addition.reaches .event event)
      = (command.eventNamed? event).toList.map (.variant .event event) := by
  unfold commandAdditions Spec.eventNamed?
  cases command.entity with
  | none => rfl
  | some entity =>
    have hother (e : String × EventOutcome) (he : e.1 ≠ event) :
        (d.eventAdditions entity command e.1 e.2).filter (Addition.reaches .event event) = [] :=
      filter_cons_productOf_of_mem (by decide) (by simp [Addition.reaches, he])
    have hown (outcome : EventOutcome) :
        (d.eventAdditions entity command event outcome).filter (Addition.reaches .event event)
          = [.variant .event event (eventSpec entity command outcome)] := by
      rw [eventAdditions, List.filter_cons_of_pos (by simp [Addition.reaches]),
        filter_productOf_of_mem (by decide)]
    dsimp only
    rw [List.filter_cons_of_neg (by simp [Addition.reaches]),
      List.filter_cons_of_neg (by simp [Addition.reaches]), List.filter_append,
      List.filter_append, filter_productOf_of_mem (by decide),
      filter_productOf_of_mem (by decide), List.filter_flatMap,
      Dict.flatMap_entries_of_key hother]
    cases command.events.get? event with
    | none => rfl
    | some outcome => simp [hown]

/-- **The events of one name that commands bring**, in the order of the commands. -/
theorem reaching_event (d : Declaration) (event : String) :
    d.reaching .event event
      = ((d.entries .command).filterMap fun e => e.2.eventNamed? event).map
          (.variant .event event) := by
  rw [reaching_of_commands (by decide)]
  simp only [filter_event_commandAdditions]
  rw [← List.map_flatMap, List.filterMap_eq_flatMap_toList]

/-- **An event that is not declared** is what the first command says. -/
theorem find?_assemble_event_of_none (h : d.sections.find? .event event = none) :
    d.assemble.find? .event event
      = (d.entries .command).findSome? fun e => e.2.eventNamed? event := by
  rw [find?_assemble, reaching_event, h, ← List.head?_filterMap]
  cases (d.entries .command).filterMap fun e => e.2.eventNamed? event with
  | nil => rfl
  | cons spec specs =>
    -- the first one makes the event, and the others leave it
    rw [List.map_cons, List.foldl_cons, Sections.foldl_makes_of_variants]
    · rfl
    · intro a ha
      obtain ⟨later, -, rfl⟩ := List.mem_map.mp ha
      exact ⟨_, _, _, rfl⟩

/-! ### The first command -/

/-- The first command, in the order of names, that emits an event. -/
structure FirstEmits (d : Declaration) (event name : String) (command : Spec)
    (outcome : EventOutcome) : Prop where
  /-- The command is declared. -/
  declared : d.sections.find? .command name = some command
  /-- It emits the event. -/
  emits : command.events.get? event = some outcome
  /-- No command of a lesser name emits the event. -/
  least : ∀ other command' outcome', d.sections.find? .command other = some command' →
    command'.events.get? event = some outcome' → name ≤ other

/-- Where all commands are bound, an event is what its first command says. -/
theorem CommandsBound.exists_firstEmits (hbound : d.CommandsBound)
    (hemitted : event ∈ d.emittedEvents) (hnone : d.sections.find? .event event = none) :
    ∃ name command outcome entity, d.FirstEmits event name command outcome ∧
      command.entity = some entity ∧
      d.withDefaults.assemble.find? .event event = some (eventSpec entity command outcome) := by
  have hassemble : d.withDefaults.assemble.find? .event event
      = (d.entries .command).findSome? fun e => e.2.eventNamed? event := by
    rw [find?_assemble_event_of_none, entries_withDefaults_of_not_mem (by decide)]
    rw [find?_withDefaults_of_not_mem (by decide), hnone]
  -- a bound command that emits the event brings it
  have hnamed {name : String} {command : Spec} {outcome : EventOutcome}
      (hcommand : d.sections.find? .command name = some command)
      (emits : command.events.get? event = some outcome) :
      ∃ entity, command.entity = some entity ∧
        command.eventNamed? event = some (eventSpec entity command outcome) := by
    obtain ⟨entity, bound⟩ := hbound name command hcommand
    exact ⟨entity, bound, by rw [Spec.eventNamed?, bound, emits]; rfl⟩
  obtain ⟨n, c, o, hc, ho⟩ := hemitted
  obtain ⟨e, -, hce⟩ := hnamed hc ho
  obtain ⟨spec, hspec⟩ : ∃ spec,
      ((d.entries .command).findSome? fun e => e.2.eventNamed? event) = some spec := by
    rw [← Option.isSome_iff_exists, List.findSome?_isSome_iff]
    exact ⟨(n, c), mem_entries_iff.mpr hc, by rw [hce]; rfl⟩
  obtain ⟨name, command, hcommand, heq, hleast⟩ := Dict.of_findSome?_entries hspec
  obtain ⟨entity, bound, hmap⟩ := Option.bind_eq_some_iff.mp heq
  obtain ⟨outcome, emits, rfl⟩ := Option.map_eq_some_iff.mp hmap
  refine ⟨name, command, outcome, entity, ⟨hcommand, emits, ?_⟩, bound, hassemble.trans hspec⟩
  intro other command' outcome' hcommand' emits'
  by_contra hlt
  obtain ⟨entity', -, hevent⟩ := hnamed hcommand' emits'
  rw [hleast other command' hcommand' (compare_lt_iff_lt.mpr (not_le.mp hlt))] at hevent
  cases hevent

/-- A command that an outcome names is declared, once everything can be merged. -/
theorem has_next_of_merge {s : Sections} (h : d.withDefaults.merge = .ok s) {name next : String}
    {command : Spec} (hcommand : d.sections.find? .command name = some command)
    (emits : command.events.get? event = some (.next next)) :
    d.has .command next = true := by
  -- the obligation is one of the event, which is one of the command
  have hmet := (merge_eq_ok_iff.mp h).1
    (.declared ⟨next, .command, placeOf .command name ++ ".event." ++ event⟩) (by
      rw [← find?_withDefaults_of_not_mem (by decide) d] at hcommand
      simp only [obligations, commandObligations, List.mem_append, List.mem_flatMap, Prod.exists,
        mem_entries_iff, List.mem_cons, Dict.mem_entries_iff]
      exact .inl (.inl (.inl (.inr ⟨name, command, hcommand, .inr (.inr
        ⟨event, .next next, emits, List.mem_singleton_self _⟩)⟩))))
  have hhas : d.withDefaults.has .command next = d.has .command next := by
    rw [has, Sections.has, find?_withDefaults_of_not_mem (by decide)]
    rfl
  rw [← hhas]
  exact (Bool.or_eq_true_iff.mp hmet).resolve_right (by simp)

end Declaration

/-! ### The events in a blueprint -/

/-- The event in a blueprint is bound to an entity and says what a command declares of it: it
has arguments of its own, or those of the command with a next command, which is there, or with
the word on whether the process ends. -/
def Blueprint.BindsEvent (b : Blueprint) (event entity : String) (command : Spec) :
    EventOutcome → Prop
  | .args args => b.get? .event event = some { args, entity := some entity }
  | .next next =>
    b.get? .event event
        = some { args := command.args, entity := some entity, nextCommand := some next } ∧
      b.has .command next = true
  | .terminal ends =>
    b.get? .event event = some { args := command.args, entity := some entity, terminal := ends }

/-- **An event that commands emit** is what the first of them says, whatever the others say,
unless it is declared. -/
theorem Domain.event_of_emitted {dom : Domain} {b : Blueprint} (h : dom.expand = .ok b) :
    ∃ d, Declaration.ofDomain dom = .ok d ∧
      ∀ event ∈ d.emittedEvents, event ∉ d.declared .event →
        ∃ name command outcome entity, d.FirstEmits event name command outcome ∧
          command.entity = some entity ∧ b.BindsEvent event entity command outcome := by
  obtain ⟨-, d, hd, s, hs, rfl⟩ := Domain.expand_eq_ok_iff.mp h
  refine ⟨d, hd, fun event hemitted hnew => ?_⟩
  have hnone : d.sections.find? .event event = none := by
    rw [Option.eq_none_iff_forall_ne_some]
    exact fun spec hspec => hnew (Declaration.mem_declared_iff.mpr ⟨spec, hspec⟩)
  obtain ⟨name, command, outcome, entity, hfirst, bound, hfind⟩ :=
    (Declaration.commandsBound_of_merge hs).exists_firstEmits hemitted hnone
  obtain ⟨-, -, -, hmerged⟩ := Declaration.merge_eq_ok_iff.mp hs
  have hget : (Blueprint.ofSections dom.name s).get? .event event
      = some (Declaration.eventSpec entity command outcome) := by
    rw [Blueprint.get?_ofSections, ← hmerged,
      Sections.find?_addInterfaces_of_ne (by decide), hfind]
  refine ⟨name, command, outcome, entity, hfirst, bound, ?_⟩
  cases outcome with
  | args args => exact hget
  | terminal ends => exact hget
  | next next =>
    refine ⟨hget, ?_⟩
    obtain ⟨spec, hspec⟩ := Sections.has_iff.mp (Declaration.has_next_of_merge hs
      hfirst.declared hfirst.emits)
    rw [Blueprint.has_ofSections, ← hmerged, Sections.has_iff]
    exact ⟨_, Sections.find?_addInterfaces_of_some (Declaration.find?_assemble_of_declared hspec)⟩

/-- Two commands of different entities that emit one event. -/
def billingDomain : Domain where
  name := "Billing"
  sections := .ofList
    [("entity", .map [("invoice", .list [.string "price"]), ("order", .null)]),
      ("value_object", .map [("price", .string "money_amount"), ("note", .string "text_string")]),
      ("command", .map
        [("close", .map [("args", .list [.string "note"]), ("entity", .string "order"),
            ("event", .map [("closed", .list [.string "price"]), ("settled", .bool true)])]),
          ("bill", .map [("args", .list [.string "price"]), ("entity", .string "invoice"),
            ("event", .map [("settled", .string "close")])])])]

/-- The command that is declared last is the first by name, and binds the event. -/
theorem event_of_emitted_billingDomain :
    ∃ b d, billingDomain.expand = .ok b ∧ Declaration.ofDomain billingDomain = .ok d ∧
      b.get? .event "settled" = some
        { args := [.valueObject "price"], entity := some "invoice", nextCommand := some "close" } ∧
      ∀ event ∈ d.emittedEvents, event ∉ d.declared .event →
        ∃ name command outcome entity, d.FirstEmits event name command outcome ∧
          command.entity = some entity ∧ b.BindsEvent event entity command outcome := by
  have hfacts : billingDomain.anyBlueprint (fun b =>
      decide (b.get? .event "settled" = some
        { args := [.valueObject "price"], entity := some "invoice",
          nextCommand := some "close" })) = true := by
    decide +kernel
  obtain ⟨b, hb, hpass⟩ := Domain.exists_of_anyBlueprint hfacts
  obtain ⟨d, hd, hevents⟩ := Domain.event_of_emitted hb
  exact ⟨b, d, hb, hd, of_decide_eq_true hpass, hevents⟩

end Scaffold
