import Mathlib.Order.BooleanAlgebra.Set
import Scaffold.Proofs.Blueprint
import Scaffold.Proofs.Expansion.Gains
import Scaffold.Proofs.Expansion.Obligations

/-!
# The names in a blueprint

A blueprint has, under each type, exactly the names that follow from the declaration:
those the author declared, those that are derived for a type without any, and those
that other declarations bring with them.  They are told here type by type, from what
the author declared alone.

## Main definitions

* `Declaration.names` — the names of a type.
* `Declaration.stockedFamilies`, `Declaration.Exposes` — the families that have
  factories, and the repositories that have interfaces.

## Main results

* `Declaration.has_merged_iff` — the names in merged sections.
* `Domain.names_of_expand` — the names in a blueprint.
-/

namespace Scaffold

namespace Declaration

/-! ### Where names come from -/

/-- Every command is bound to an entity. -/
def CommandsBound (d : Declaration) : Prop :=
  ∀ name command, d.sections.find? .command name = some command → ∃ entity,
    command.entity = some entity

/-- The events that commands emit. -/
def emittedEvents (d : Declaration) : Set String :=
  {event | ∃ name command outcome, d.sections.find? .command name = some command ∧
    command.events.get? event = some outcome}

/-- The families of artifacts that factories build, with their members. -/
def families (d : Declaration) : List (String × Set String) :=
  [("value_object", d.declared .valueObject),
    ("entity", d.declared .entity),
    ("read_model", d.declaredOr .readModel (d.declared .entity)),
    ("service", d.declared .service),
    ("command", d.declared .command),
    ("event", d.emittedEvents)]

/-- The families that have members. -/
def stockedFamilies (d : Declaration) : Set String :=
  {family | ∃ members, (family, members) ∈ d.families ∧ members.Nonempty}

/-- The repositories that have an interface: those the author declared without telling
otherwise, those that are derived, except stores of events, and the task repositories
that commands bring. -/
inductive Exposes (d : Declaration) : ArtifactType → String → Prop
  | declared {concrete : ArtifactType} {name : String} {spec : Spec}
    (hc : concrete ∈ ArtifactType.repositories)
    (h : d.sections.find? concrete name = some spec)
    (flag : spec.repositoryInterface = true) : Exposes d concrete name
  | derived {concrete : ArtifactType} {name : String} (hc : concrete ∈ ArtifactType.repositories)
    (hs : concrete ≠ .repositoryEventSourcingStore) (hempty : d.declared concrete = ∅)
    (hn : name ∈ d.derivedNames concrete) : Exposes d concrete name
  | task {name : String} (hnew : name ∉ d.declared .repositoryTask)
    (hn : name ∈ d.boundEntities) : Exposes d .repositoryTask name

theorem Exposes.mem_repositories {d : Declaration} {concrete : ArtifactType} {name : String}
    (h : d.Exposes concrete name) : concrete ∈ ArtifactType.repositories := by
  cases h with
  | declared hc _ _ => exact hc
  | derived hc _ _ _ => exact hc
  | task _ _ => decide

/-- The keys of the interfaces of repositories. -/
def interfaceKeys (d : Declaration) : Set String :=
  {key | ∃ concrete name, d.Exposes concrete name ∧ repositoryInterfaceKey concrete name = key}

/-- The names that a declaration leads to, by type. -/
def names (d : Declaration) : ArtifactType → Set String
  | .entityInterface => d.declared .entityInterface ∪ d.declared .entity
  | .commandTask => d.declared .commandTask ∪ d.declared .command
  | .commandHandlerTask => d.declared .commandHandlerTask ∪ d.declared .commandHandler
  | .dtoInterface => d.declared .dtoInterface ∪ d.declared .dto
  | .serviceInterface => d.declared .serviceInterface ∪ d.declared .service
  | .event => d.declared .event ∪ d.emittedEvents
  | .repositoryTask => d.declared .repositoryTask ∪ d.boundEntities
  | .readModel => d.declaredOr .readModel (d.declared .entity)
  | .repositoryEntityStore => d.declaredOr .repositoryEntityStore (d.declared .entity)
  | .repositoryEventSourcingStore =>
    d.declaredOr .repositoryEventSourcingStore (d.declared .entity)
  | .repositoryReadModel => d.declaredOr .repositoryReadModel (d.declared .entity)
  | .projector => d.declaredOr .projector d.boundEntities
  | .repositoryQueryStore => d.declaredOr .repositoryQueryStore d.queriedEntities
  | .factory => d.declared .factory ∪ d.stockedFamilies
  | .factoryInterface => d.declared .factoryInterface ∪ (d.stockedFamilies \ d.declared .factory)
  | .repositoryInterface => d.declared .repositoryInterface ∪ d.interfaceKeys
  | t => d.declared t

variable {d : Declaration}

/-! ### What the derived sections do not change -/

theorem declared_withDefaults_of_not_mem {t : ArtifactType} (ht : t ∉ derivableTypes)
    (d : Declaration) : d.withDefaults.declared t = d.declared t := by
  ext name
  rw [mem_declared_iff, mem_declared_iff, find?_withDefaults_of_not_mem ht]

theorem boundEntities_withDefaults (d : Declaration) :
    d.withDefaults.boundEntities = d.boundEntities := by
  ext entity
  simp only [boundEntities, Set.mem_ofPred_eq,
    find?_withDefaults_of_not_mem (t := .command) (by decide)]

theorem CommandsBound.boundCommands_withDefaults (hbound : d.CommandsBound) :
    d.withDefaults.boundCommands = d.declared .command := by
  ext name
  simp only [boundCommands, Set.mem_ofPred_eq, mem_declared_iff,
    find?_withDefaults_of_not_mem (t := .command) (by decide)]
  constructor
  · rintro ⟨command, entity, h, -⟩
    exact ⟨command, h⟩
  · rintro ⟨command, h⟩
    obtain ⟨entity, bound⟩ := hbound name command h
    exact ⟨command, entity, h, bound⟩

theorem CommandsBound.boundEvents_withDefaults (hbound : d.CommandsBound) :
    d.withDefaults.boundEvents = d.emittedEvents := by
  ext event
  simp only [boundEvents, emittedEvents, Set.mem_ofPred_eq,
    find?_withDefaults_of_not_mem (t := .command) (by decide)]
  constructor
  · rintro ⟨name, command, entity, outcome, h, -, emits⟩
    exact ⟨name, command, outcome, h, emits⟩
  · rintro ⟨name, command, outcome, h, emits⟩
    obtain ⟨entity, bound⟩ := hbound name command h
    exact ⟨name, command, entity, outcome, h, bound, emits⟩

/-! ### The families and the interfaces -/

private theorem mem_stockedFamilies_iff {family : String} :
    family ∈ d.stockedFamilies
      ↔ (family = "value_object" ∧ (d.declared .valueObject).Nonempty) ∨
        (family = "entity" ∧ (d.declared .entity).Nonempty) ∨
        (family = "read_model" ∧ (d.declaredOr .readModel (d.declared .entity)).Nonempty) ∨
        (family = "service" ∧ (d.declared .service).Nonempty) ∨
        (family = "command" ∧ (d.declared .command).Nonempty) ∨
        (family = "event" ∧ d.emittedEvents.Nonempty) := by
  simp only [stockedFamilies, families, List.mem_cons, List.not_mem_nil, or_false, Prod.mk.injEq,
    Set.mem_ofPred_eq, or_and_right, exists_or, and_assoc, exists_and_left, exists_eq_left]

/-- What commands put into factories. -/
private theorem exists_mem_commandProducts_iff (name : String) {entity family : String}
    {command : Spec} (bound : command.entity = some entity) :
    (∃ p, (family, p) ∈ commandProducts name command)
      ↔ family = "command" ∨ family = "event" ∧ ∃ event outcome,
          command.events.get? event = some outcome := by
  simp only [mem_commandProducts_iff bound, Prod.mk.injEq]
  constructor
  · rintro ⟨p, ⟨rfl, -⟩ | ⟨rfl, -⟩ | ⟨event, outcome, emits, rfl, -⟩⟩
    · exact .inl rfl
    · exact .inl rfl
    · exact .inr ⟨rfl, event, outcome, emits⟩
  · rintro (rfl | ⟨rfl, event, outcome, emits⟩)
    · exact ⟨_, .inl ⟨rfl, rfl⟩⟩
    · exact ⟨_, .inr (.inr ⟨event, outcome, emits, rfl, rfl⟩)⟩

theorem CommandsBound.exists_mem_products_iff (hbound : d.CommandsBound) {family : String} :
    (∃ p, (family, p) ∈ d.withDefaults.products) ↔ family ∈ d.stockedFamilies := by
  have hfind {t : ArtifactType} (ht : t ∉ derivableTypes) (name : String) :
      d.withDefaults.sections.find? t name = d.sections.find? t name :=
    find?_withDefaults_of_not_mem ht d name
  rw [mem_stockedFamilies_iff, ← derivedNames.eq_1 d, ← declared_withDefaults]
  simp only [mem_products_iff]
  constructor
  · rintro ⟨p, ⟨name, spec, h, rfl, -⟩ | ⟨name, spec, h, rfl, -⟩ | ⟨name, spec, h, rfl, -⟩ |
      ⟨name, spec, h, rfl, -⟩ | ⟨name, command, h, hp⟩⟩
    · rw [hfind (by decide)] at h
      exact .inl ⟨rfl, name, mem_declared_iff.mpr ⟨spec, h⟩⟩
    · rw [hfind (by decide)] at h
      exact .inr (.inl ⟨rfl, name, mem_declared_iff.mpr ⟨spec, h⟩⟩)
    · -- read models may be derived, so they are counted with the defaults
      exact .inr (.inr (.inl ⟨rfl, name, mem_declared_iff.mpr ⟨spec, h⟩⟩))
    · rw [hfind (by decide)] at h
      exact .inr (.inr (.inr (.inl ⟨rfl, name, mem_declared_iff.mpr ⟨spec, h⟩⟩)))
    · rw [hfind (by decide)] at h
      obtain ⟨entity, bound⟩ := hbound name command h
      rcases (exists_mem_commandProducts_iff name bound).mp ⟨p, hp⟩ with
        rfl | ⟨rfl, event, outcome, emits⟩
      · exact .inr (.inr (.inr (.inr (.inl ⟨rfl, name, mem_declared_iff.mpr ⟨command, h⟩⟩))))
      · exact .inr (.inr (.inr (.inr (.inr ⟨rfl, event, name, command, outcome, h, emits⟩))))
  · rintro (⟨rfl, name, h⟩ | ⟨rfl, name, h⟩ | ⟨rfl, name, h⟩ | ⟨rfl, name, h⟩ | ⟨rfl, name, h⟩ |
      ⟨rfl, event, name, command, outcome, h, emits⟩)
    · obtain ⟨spec, h⟩ := mem_declared_iff.mp h
      exact ⟨_, .inl ⟨name, spec, (hfind (by decide) name).trans h, rfl, rfl⟩⟩
    · obtain ⟨spec, h⟩ := mem_declared_iff.mp h
      exact ⟨_, .inr (.inl ⟨name, spec, (hfind (by decide) name).trans h, rfl, rfl⟩)⟩
    · obtain ⟨spec, h⟩ := mem_declared_iff.mp h
      exact ⟨_, .inr (.inr (.inl ⟨name, spec, h, rfl, rfl⟩))⟩
    · obtain ⟨spec, h⟩ := mem_declared_iff.mp h
      exact ⟨_, .inr (.inr (.inr (.inl
        ⟨name, spec, (hfind (by decide) name).trans h, rfl, rfl⟩)))⟩
    · obtain ⟨command, h⟩ := mem_declared_iff.mp h
      obtain ⟨entity, bound⟩ := hbound name command h
      obtain ⟨p, hp⟩ := (exists_mem_commandProducts_iff name bound).mpr (.inl rfl)
      exact ⟨p, .inr (.inr (.inr (.inr ⟨name, command, (hfind (by decide) name).trans h, hp⟩)))⟩
    · obtain ⟨entity, bound⟩ := hbound name command h
      obtain ⟨p, hp⟩ := (exists_mem_commandProducts_iff name bound).mpr
        (.inr ⟨rfl, event, outcome, emits⟩)
      exact ⟨p, .inr (.inr (.inr (.inr ⟨name, command, (hfind (by decide) name).trans h, hp⟩)))⟩

/-- Nothing is brought to a concrete repository, other than to task repositories. -/
theorem find?_assemble_repository {concrete : ArtifactType}
    (hc : concrete ∈ ArtifactType.repositories) (ht : concrete ≠ .repositoryTask)
    (d : Declaration) (name : String) :
    d.assemble.find? concrete name = d.sections.find? concrete name := by
  refine find?_assemble_of_not_mem ?_
  have hempty : d.broughtNames concrete = ∅ := by
    cases concrete with
    | repositoryTask => exact absurd rfl ht
    | repository | repositoryEntityStore | repositoryEventSourcingStore | repositoryReadModel
    | repositoryQueryStore => rfl
    | _ => exact absurd hc (by decide)
  rw [hempty]
  exact Set.notMem_empty name

/-- A task repository keeps its flag, and a new one has an interface. -/
private theorem exists_repositoryTask_iff {name : String} :
    (∃ spec, d.withDefaults.assemble.find? .repositoryTask name = some spec ∧
        spec.repositoryInterface = true) ↔ d.Exposes .repositoryTask name := by
  have hfind : d.withDefaults.sections.find? .repositoryTask name
      = d.sections.find? .repositoryTask name := find?_withDefaults_of_not_mem (by decide) d name
  cases h : d.sections.find? .repositoryTask name with
  | some spec =>
    -- a declared one is exposed by its own flag
    rw [find?_assemble_repositoryTask_of_some (hfind.trans h)]
    constructor
    · rintro ⟨_, heq, flag⟩
      obtain rfl := Option.some.inj heq
      exact .declared (by decide) h flag
    · intro hx
      cases hx with
      | declared _ h' flag =>
        rw [h] at h'
        obtain rfl := Option.some.inj h'
        exact ⟨_, rfl, flag⟩
      | derived _ _ hempty _ =>
        exact absurd (mem_declared_iff.mpr ⟨spec, h⟩) (hempty ▸ Set.notMem_empty name)
      | task hnew _ => exact absurd (mem_declared_iff.mpr ⟨spec, h⟩) hnew
  | none =>
    have hnew : name ∉ d.declared .repositoryTask := by
      rw [mem_declared_iff, h]
      rintro ⟨_, h⟩
      cases h
    -- and any other is there only if a command brings it
    by_cases hn : name ∈ d.boundEntities
    · rw [find?_assemble_repositoryTask_of_none (hfind.trans h)
        (boundEntities_withDefaults d ▸ hn)]
      exact iff_of_true ⟨_, rfl, rfl⟩ (.task hnew hn)
    · have hnot : name ∉ d.withDefaults.broughtNames .repositoryTask := by
        rw [broughtNames, boundEntities_withDefaults]
        exact hn
      rw [find?_assemble_of_not_mem hnot, hfind, h]
      refine iff_of_false ?_ fun hx => ?_
      · rintro ⟨_, h, -⟩
        cases h
      cases hx with
      | declared _ h' _ =>
        rw [h] at h'
        cases h'
      | derived _ _ _ hn => exact Set.notMem_empty name hn
      | task _ hn' => exact hn hn'

/-- **The repositories that have interfaces**, in the sections with all additions. -/
theorem exists_repositoryInterface_iff {concrete : ArtifactType} {name : String}
    (hc : concrete ∈ ArtifactType.repositories) :
    (∃ spec, d.withDefaults.assemble.find? concrete name = some spec ∧
        spec.repositoryInterface = true) ↔ d.Exposes concrete name := by
  by_cases ht : concrete = .repositoryTask
  · subst ht
    exact exists_repositoryTask_iff
  rw [find?_assemble_repository hc ht, find?_withDefaults]
  split
  · next hd =>
    -- the section is derived as a whole, so nobody declared a part of it
    have hempty := lacks_iff_declared_eq_empty.mp hd.2
    constructor
    · rintro ⟨spec, h, flag⟩
      have hn := contains_derivedSection_iff.mp (Option.isSome_of_eq_some h)
      refine .derived hc ?_ hempty hn
      rw [(of_get?_derivedSection h).2, decide_eq_true_eq] at flag
      exact flag
    · intro hx
      cases hx with
      | declared _ h _ =>
        exact absurd (mem_declared_iff.mpr ⟨_, h⟩) (hempty ▸ Set.notMem_empty name)
      | derived _ hs _ hn =>
        obtain ⟨spec, h⟩ := Option.isSome_iff_exists.mp (contains_derivedSection_iff.mpr hn)
        refine ⟨spec, h, ?_⟩
        rw [(of_get?_derivedSection h).2]
        exact decide_eq_true hs
      | task _ _ => exact absurd rfl ht
  · next hd =>
    constructor
    · rintro ⟨spec, h, flag⟩
      exact .declared hc h flag
    · intro hx
      cases hx with
      | declared _ h flag => exact ⟨_, h, flag⟩
      | derived _ _ hempty hn =>
        by_cases hmem : concrete ∈ derivableTypes
        · exact absurd ⟨hmem, lacks_iff_declared_eq_empty.mpr hempty⟩ hd
        · rw [derivedNames_of_not_mem hmem] at hn
          exact absurd hn (Set.notMem_empty name)
      | task _ _ => exact absurd rfl ht

/-! ### The names in merged sections -/

/-- What is there before the interfaces of repositories are added. -/
private theorem CommandsBound.assembled_names (hbound : d.CommandsBound) {t : ArtifactType}
    (ht : t ≠ .repositoryInterface) :
    d.withDefaults.declared t ∪ d.withDefaults.broughtNames t = d.names t := by
  have hdeclared {u : ArtifactType} (hu : u ∉ derivableTypes) :
      d.withDefaults.declared u = d.declared u := declared_withDefaults_of_not_mem hu d
  have hfactories : {family | d.withDefaults.has .factory family = false ∧
      ∃ p, (family, p) ∈ d.withDefaults.products} = d.stockedFamilies \ d.declared .factory := by
    ext family
    have hnot : d.withDefaults.has .factory family = false ↔ family ∉ d.declared .factory := by
      rw [← hdeclared (by decide), ← Bool.not_eq_true]
      rfl
    rw [Set.mem_ofPred_eq, hnot, hbound.exists_mem_products_iff, and_comm]
    rfl
  cases t with
  | repositoryInterface => exact absurd rfl ht
  -- derived where nothing is declared, and nothing is brought
  | readModel | repositoryEntityStore | repositoryEventSourcingStore | repositoryReadModel
  | projector | repositoryQueryStore =>
    show _ ∪ ∅ = _
    rw [Set.union_empty, declared_withDefaults]
    rfl
  | valueObject =>
    rw [broughtNames, Set.union_self, hdeclared (by decide)]
    rfl
  | entityInterface | serviceInterface | dtoInterface | commandHandlerTask =>
    rw [broughtNames, hdeclared (by decide), hdeclared (by decide)]
    rfl
  | commandTask =>
    rw [broughtNames, hdeclared (by decide), hbound.boundCommands_withDefaults]
    rfl
  | event =>
    rw [broughtNames, hdeclared (by decide), hbound.boundEvents_withDefaults]
    rfl
  | repositoryTask =>
    rw [broughtNames, hdeclared (by decide), boundEntities_withDefaults]
    rfl
  | factory =>
    rw [broughtNames, hdeclared (by decide), hfactories, Set.union_sdiff_self]
    rfl
  | factoryInterface =>
    rw [broughtNames, hdeclared (by decide), hfactories]
    rfl
  | _ =>
    show _ ∪ ∅ = _
    rw [Set.union_empty, hdeclared (by decide)]
    rfl

/-- **The names in merged sections** are those that the declaration leads to. -/
theorem CommandsBound.has_merged_iff (hbound : d.CommandsBound) {t : ArtifactType}
    {name : String} :
    d.withDefaults.assemble.addInterfaces.has t name = true ↔ name ∈ d.names t := by
  by_cases ht : t = .repositoryInterface
  · subst ht
    have hdeclared : d.withDefaults.assemble.has .repositoryInterface name = true
        ↔ name ∈ d.declared .repositoryInterface := by
      rw [has_assemble_iff, declared_withDefaults_of_not_mem (by decide)]
      exact or_iff_left (Set.notMem_empty name)
    rw [Sections.has_addInterfaces_iff, hdeclared]
    refine or_congr_right ⟨?_, ?_⟩
    · rintro ⟨concrete, hc, n, spec, h, flag, hkey⟩
      exact ⟨concrete, n, (exists_repositoryInterface_iff hc).mp ⟨spec, h, flag⟩, hkey⟩
    · rintro ⟨concrete, n, hx, hkey⟩
      obtain ⟨spec, h, flag⟩ := (exists_repositoryInterface_iff hx.mem_repositories).mpr hx
      exact ⟨concrete, hx.mem_repositories, n, spec, h, flag, hkey⟩
  · rw [Sections.has, Sections.find?_addInterfaces_of_ne ht, ← Sections.has, has_assemble_iff,
      hbound.assembled_names ht]

/-- Every command of a declaration that can be merged is bound. -/
theorem commandsBound_of_merge {s : Sections} (h : d.withDefaults.merge = .ok s) :
    d.CommandsBound := by
  intro name command hcommand
  -- to be bound is the first thing that is asked of a command
  have hmet := (merge_eq_ok_iff.mp h).1 (.bound name command.entity) (by
    rw [← find?_withDefaults_of_not_mem (by decide) d] at hcommand
    simp only [obligations, List.mem_append, List.mem_flatMap, Prod.exists, mem_entries_iff]
    exact .inl (.inl (.inl (.inr ⟨name, command, hcommand, List.mem_cons_self⟩))))
  exact Option.isSome_iff_exists.mp hmet

end Declaration

/-! ### The names in a blueprint -/

/-- **The names in a blueprint**: for each type exactly those that follow from the
declaration, however the sections of the domain are filled. -/
theorem Domain.names_of_expand {dom : Domain} {b : Blueprint} (h : dom.expand = .ok b) :
    ∃ d, Declaration.ofDomain dom = .ok d ∧
      ∀ t, {name | b.has t name = true} = d.names t := by
  obtain ⟨-, d, hd, s, hs, rfl⟩ := Domain.expand_eq_ok_iff.mp h
  refine ⟨d, hd, fun t => Set.ext fun name => ?_⟩
  obtain ⟨-, -, -, rfl⟩ := Declaration.merge_eq_ok_iff.mp hs
  rw [Set.mem_ofPred_eq, Blueprint.has_ofSections]
  exact (Declaration.commandsBound_of_merge hs).has_merged_iff

/-- A domain with one command, which emits an event, and with entries of the three types
that gain something. -/
def orderDomain : Domain where
  name := "Shop"
  sections := .ofList
    [("entity", .map [("order", .list [.string "total"])]),
      ("value_object", .map [("price", .string "money_amount"), ("uuid", .null)]),
      ("command", .map [("place", .map [("args", .list [.string "price"]),
        ("entity", .string "order"), ("event", .map [("placed", .list [])])])]),
      ("repository_task", .map [("order", .map [("methods", .list [.string "archive"])])]),
      ("factory_interface", .map [("event", .null)])]

theorem names_of_expand_orderDomain :
    ∃ b d, orderDomain.expand = .ok b ∧ Declaration.ofDomain orderDomain = .ok d ∧
      ∀ t, {name | b.has t name = true} = d.names t := by
  have hok : orderDomain.expand.isOk = true := by decide +kernel
  obtain ⟨b, hb⟩ := Except.exists_eq_ok_of_isOk hok
  obtain ⟨d, hd, hnames⟩ := Domain.names_of_expand hb
  exact ⟨b, d, hb, hd, hnames⟩

end Scaffold
