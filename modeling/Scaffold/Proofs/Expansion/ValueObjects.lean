import Scaffold.Proofs.Expansion.Acceptance

/-!
# The value objects that are named

An entity, a command or an event names value objects: in the arguments of its constructor,
of its events and of its methods.  Whatever it names is declared, or a reserved identity,
unless the author declared the event.  Entities and commands are checked when a domain is
accepted, and an event that a command emits names no more than the command does; but no
check looks at the events that an author declares.

## Main definitions

* `Declaration.Closed` — all value objects that a spec names are there.

## Main results

* `Declaration.Closed.eventSpec` — what the event of a command names.
* `Declaration.Sound.closed_of_find?_merged` — the entries that are always closed.
* `Domain.leaves_closed_iff` — when all of a blueprint is closed.
-/

namespace Scaffold

namespace Declaration

/-- All value objects that a spec names are declared or reserved. -/
def Closed (d : Declaration) (spec : Spec) : Prop :=
  ∀ value ∈ spec.valueObjectReferences,
    value ∈ d.declared .valueObject ∨ value = "uuid" ∨ value = "process_uuid"

variable {d : Declaration}

/-! ### Events of commands -/

/-- A spec that only has a constructor names what the arguments of the constructor name. -/
private theorem Closed.of_args {own spec : Spec} (hown : d.Closed own)
    (hevents : spec.events = ∅) (hmethods : spec.methods = ∅)
    (hargs : ∀ a ∈ spec.args, a ∈ own.allArgs) : d.Closed spec := by
  intro value hvalue
  obtain ⟨a, ha, hname⟩ := List.mem_filterMap.mp hvalue
  have hmem : a ∈ spec.args := by
    simpa [Spec.allArgs, hevents, hmethods, Dict.values] using ha
  exact hown value (List.mem_filterMap.mpr ⟨a, hargs a hmem, hname⟩)

/-- **The event of a command** names no value object that the command does not name. -/
theorem Closed.eventSpec {command : Spec} (h : d.Closed command) {event : String}
    {outcome : EventOutcome} (emits : command.events.get? event = some outcome)
    (entity : String) : d.Closed (eventSpec entity command outcome) := by
  cases outcome with
  | args args =>
    refine h.of_args rfl rfl fun a ha => ?_
    have hvalue : EventOutcome.args args ∈ command.events.values :=
      List.mem_map.mpr ⟨(event, .args args), Dict.mem_entries_iff.mpr emits, rfl⟩
    exact List.mem_append_left _
      (List.mem_append_right _ (List.mem_flatMap.mpr ⟨_, hvalue, ha⟩))
  -- the event takes what the command takes
  | next next =>
    exact h.of_args rfl rfl fun a ha => List.mem_append_left _ (List.mem_append_left _ ha)
  | terminal ends =>
    exact h.of_args rfl rfl fun a ha => List.mem_append_left _ (List.mem_append_left _ ha)

/-! ### Merged sections -/

private theorem of_mem_namers : ∀ t ∈ [ArtifactType.entity, .command, .event],
    t ≠ .repositoryInterface ∧ t ∉ derivableTypes ∧ t ∉ gainingTypes ∧
      (t ≠ .event → t ∈ valueObjectUsers) := by decide

/-- An entity, a command or an event is declared, or it is an event that a command emits. -/
theorem find?_merged_cases {t : ArtifactType} (ht : t ∈ [.entity, .command, .event])
    {name : String} {spec : Spec}
    (h : d.withDefaults.assemble.addInterfaces.find? t name = some spec) :
    d.sections.find? t name = some spec ∨
      t = .event ∧ ∃ n command entity outcome, d.sections.find? .command n = some command ∧
        command.events.get? name = some outcome ∧ spec = eventSpec entity command outcome := by
  obtain ⟨hinterface, hderivable, hgaining, -⟩ := of_mem_namers t ht
  rw [Sections.find?_addInterfaces_of_ne hinterface] at h
  rcases find?_assemble_cases hgaining h with h | h
  · rw [find?_withDefaults_of_not_mem hderivable] at h
    exact .inl h
  · cases h with
    | event hcommand bound emits =>
      rw [find?_withDefaults_of_not_mem (by decide)] at hcommand
      exact .inr ⟨rfl, _, _, _, _, hcommand, emits, rfl⟩
    | _ => exact absurd ht (by decide)

/-- **Entities, commands and the events of commands are closed** in a sound declaration. -/
theorem Sound.closed_of_find?_merged (hsound : d.Sound) {t : ArtifactType}
    (ht : t ∈ [.entity, .command, .event]) {name : String} {spec : Spec}
    (h : d.withDefaults.assemble.addInterfaces.find? t name = some spec)
    (hnew : t = .event → name ∉ d.declared .event) : d.Closed spec := by
  rcases find?_merged_cases ht h with hown | ⟨-, n, command, entity, outcome, hcommand, emits, rfl⟩
  · by_cases hevent : t = .event
    · subst hevent
      exact absurd (mem_declared_iff.mpr ⟨spec, hown⟩) (hnew rfl)
    · exact hsound.valueObjects t ((of_mem_namers t ht).2.2.2 hevent) name spec hown
  · have hclosed : d.Closed command := hsound.valueObjects .command (by decide) n command hcommand
    exact hclosed.eventSpec emits entity

end Declaration

/-! ### Blueprints -/

/-- **When a blueprint is closed**: all entities, commands and events name value objects that
are declared or reserved, apart from events that the author declared; so all of them do
exactly when those events do. -/
theorem Domain.leaves_closed_iff {dom : Domain} {b : Blueprint} (h : dom.expand = .ok b) :
    ∃ d, Declaration.ofDomain dom = .ok d ∧
      (∀ l ∈ b.leaves, l.type ∈ [.entity, .command, .event] →
        (l.type = .event → l.name ∉ d.declared .event) → d.Closed l.spec) ∧
      ((∀ l ∈ b.leaves, l.type ∈ [.entity, .command, .event] → d.Closed l.spec) ↔
        ∀ name spec, d.sections.find? .event name = some spec → d.Closed spec) := by
  obtain ⟨-, d, hd, hsound, rfl⟩ := Domain.exists_of_expand h
  refine ⟨d, hd, fun l hl htype hnew => ?_, fun hall name spec hspec => ?_,
    fun hevents l hl htype => ?_⟩
  · have hfind := (Blueprint.mem_leaves_ofSections_iff.mp hl).2
    exact hsound.closed_of_find?_merged htype hfind hnew
  · -- a declared event is in the blueprint as it was written
    have hfind := Sections.find?_addInterfaces_of_some
      (Declaration.find?_assemble_of_declared hspec)
    exact hall ⟨_, .event, name, spec⟩ (Blueprint.mem_leaves_ofSections_iff.mpr ⟨rfl, hfind⟩)
      (by simp)
  · have hfind := (Blueprint.mem_leaves_ofSections_iff.mp hl).2
    by_cases hnew : l.type = .event → l.name ∉ d.declared .event
    · exact hsound.closed_of_find?_merged htype hfind hnew
    · obtain ⟨hevent, hmem⟩ := Classical.not_imp.mp hnew
      obtain ⟨spec, hspec⟩ := Declaration.mem_declared_iff.mp (Classical.not_not.mp hmem)
      have hkept := Sections.find?_addInterfaces_of_some
        (Declaration.find?_assemble_of_declared hspec)
      rw [hevent, hkept] at hfind
      have hclosed : d.Closed spec := hevents l.name spec hspec
      exact Option.some.inj hfind ▸ hclosed

/-- A domain with a declared event that names a declared value object and a reserved
identity, besides the event of a command. -/
def invoiceDomain : Domain where
  name := "Billing"
  sections := .ofList
    [("entity", .map [("invoice", .list [])]),
      ("value_object", .map [("price", .string "money_amount")]),
      ("command", .map [("bill", .map [("args", .list [.string "price"]),
        ("entity", .string "invoice"), ("event", .map [("billed", .list [])])])]),
      ("event", .map [("paid", .list [.string "price", .string "process_uuid"])])]

theorem leaves_closed_invoiceDomain :
    ∃ b d, invoiceDomain.expand = .ok b ∧ Declaration.ofDomain invoiceDomain = .ok d ∧
      d.entries .event
        = [("paid", { args := [.valueObject "price", .valueObject "process_uuid"] })] ∧
      ∀ l ∈ b.leaves, l.type ∈ [.entity, .command, .event] → d.Closed l.spec := by
  have hok : invoiceDomain.expand.isOk = true := by decide +kernel
  have hread : (Declaration.ofDomain invoiceDomain).toOption.map
      (fun d => (d.entries .event, d.has .valueObject "price"))
        = some ([("paid", { args := [.valueObject "price", .valueObject "process_uuid"] })],
          true) := by decide +kernel
  obtain ⟨b, hb⟩ := Except.exists_eq_ok_of_isOk hok
  obtain ⟨d, hd, -, hiff⟩ := Domain.leaves_closed_iff hb
  rw [hd] at hread
  obtain ⟨hentries, hprice⟩ := Prod.mk.inj (Option.some.inj hread)
  refine ⟨b, d, hb, hd, hentries, hiff.mpr fun name spec hspec => ?_⟩
  rw [← Declaration.mem_entries_iff, hentries, List.mem_singleton] at hspec
  obtain ⟨rfl, rfl⟩ := Prod.mk.inj hspec
  intro value hvalue
  have hmem : value ∈ ["price", "process_uuid"] := hvalue
  rcases List.mem_pair.mp hmem with rfl | rfl
  · exact .inl hprice
  · exact .inr (.inr rfl)

/-- A domain with a declared event that names a value object nobody declared. -/
def shippedDomain : Domain where
  name := "User"
  sections := .ofList
    [("entity", .map [("user", .list [])]), ("value_object", .null), ("command", .null),
      ("event", .map [("shipped", .list [.string "ghost"])])]

/-- Its event is generated all the same. -/
theorem exists_event_not_closed :
    ∃ b d leaf, shippedDomain.expand = .ok b ∧ Declaration.ofDomain shippedDomain = .ok d ∧
      leaf ∈ b.leaves ∧ leaf.type = .event ∧ ¬d.Closed leaf.spec := by
  have hleaf : shippedDomain.anyLeaf (fun _ l =>
      decide (l.type = .event) && decide ("ghost" ∈ l.spec.valueObjectReferences)) = true := by
    decide +kernel
  have hnone : (Declaration.ofDomain shippedDomain).toOption.any
      (fun d => !d.has .valueObject "ghost") = true := by
    decide +kernel
  obtain ⟨b, leaf, hb, hl, hp⟩ := Domain.exists_leaf_of_anyLeaf hleaf
  obtain ⟨htype, hmem⟩ := Bool.and_eq_true_iff.mp hp
  obtain ⟨-, d, hd, -⟩ := Domain.expand_eq_ok_iff.mp hb
  have hghost : "ghost" ∉ d.declared .valueObject := by
    rw [hd] at hnone
    intro hhas
    have hnot : (!d.has .valueObject "ghost") = true := hnone
    rw [show d.has .valueObject "ghost" = true from hhas] at hnot
    cases hnot
  refine ⟨b, d, leaf, hb, hd, hl, of_decide_eq_true htype, fun hclosed => ?_⟩
  rcases hclosed "ghost" (of_decide_eq_true hmem) with h | h | h
  · exact hghost h
  · exact absurd h (by decide)
  · exact absurd h (by decide)

end Scaffold
