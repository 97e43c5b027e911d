import Scaffold.Proofs.Defaults
import Scaffold.Proofs.Expansion.Additions

/-!
# What declarations bring

The additions of a declaration, told by rules and not by the walk that lists them
(`Declaration.mem_additions_iff`).  From the rules follow the names under which additions
put something, and so what is there once all additions are made.

## Main definitions

* `Declaration.Brings` — the rules.
* `Declaration.products` — what factories build.
* `Declaration.reaching` — the additions that reach an entry.
* `Declaration.broughtNames` — the names that additions reach.
* `Declaration.gainingTypes` — the types whose entries change after they are made.

## Main results

* `Declaration.mem_additions_iff` — the additions are what the rules say.
* `Declaration.find?_assemble`, `Declaration.has_assemble_iff` — the sections with all
  additions.
* `Declaration.find?_assemble_cases`, `Declaration.find?_assemble_of_none` — the entries of
  types that are only registered.
-/

namespace Scaffold

namespace Declaration

/-! ### The rules -/

/-- The products of a command that is bound to an entity: itself and its task, and the
events that it emits. -/
def commandProducts (name : String) (spec : Spec) : List (String × Product) :=
  if spec.entity.isSome then
    ("command", ⟨name, .command⟩) :: ("command", ⟨name, .commandTask⟩) ::
      spec.events.keys.map fun event => ("event", ⟨event, .event⟩)
  else []

/-- The products that declarations bring, each with the family whose factory builds it. -/
def products (d : Declaration) : List (String × Product) :=
  ((d.entries .valueObject).map fun (name, _) => ("value_object", ⟨name, .valueObject⟩)) ++
  ((d.entries .entity).map fun (name, _) => ("entity", ⟨name, .entity⟩)) ++
  ((d.entries .readModel).map fun (name, _) => ("read_model", ⟨name, .readModel⟩)) ++
  ((d.entries .service).map fun (name, _) => ("service", ⟨name, .service⟩)) ++
  ((d.entries .command).flatMap fun (name, spec) => commandProducts name spec)

/-- What declarations bring, one rule for each kind of addition. -/
inductive Brings (d : Declaration) : Addition → Prop
  | settled {name : String} {spec : Spec} (h : d.sections.find? .valueObject name = some spec) :
    Brings d (.settled name (settleKind name spec))
  | entityInterface {name : String} {spec : Spec} (h : d.sections.find? .entity name = some spec) :
    Brings d (.variant .entityInterface name spec)
  | serviceInterface {name : String} {spec : Spec}
    (h : d.sections.find? .service name = some spec) :
    Brings d (.variant .serviceInterface name spec)
  | dtoInterface {name : String} {spec : Spec} (h : d.sections.find? .dto name = some spec) :
    Brings d (.variant .dtoInterface name spec)
  | commandHandlerTask {name : String} {spec : Spec}
    (h : d.sections.find? .commandHandler name = some spec) :
    Brings d (.variant .commandHandlerTask name spec)
  | commandTask {name entity : String} {spec : Spec}
    (h : d.sections.find? .command name = some spec) (bound : spec.entity = some entity) :
    Brings d (.variant .commandTask name spec)
  | task {name entity : String} {spec : Spec} (h : d.sections.find? .command name = some spec)
    (bound : spec.entity = some entity) : Brings d (.task entity name { args := spec.args })
  | event {name entity event : String} {spec : Spec} {outcome : EventOutcome}
    (h : d.sections.find? .command name = some spec) (bound : spec.entity = some entity)
    (emits : spec.events.get? event = some outcome) :
    Brings d (.variant .event event (eventSpec entity spec outcome))
  | product {family : String} {p : Product} (h : (family, p) ∈ d.products)
    (undeclared : d.has .factory family = false) : Brings d (.product family p)

theorem mem_productOf_iff {d : Declaration} {family name : String} {t : ArtifactType}
    {a : Addition} : a ∈ d.productOf family name t
      ↔ d.has .factory family = false ∧ a = .product family ⟨name, t⟩ := by
  unfold productOf
  cases d.has .factory family <;> simp

/-- What a command brings once it is bound. -/
private theorem mem_commandAdditions_iff {d : Declaration} {name entity : String} {spec : Spec}
    {a : Addition} (bound : spec.entity = some entity) :
    a ∈ d.commandAdditions name spec
      ↔ a = .variant .commandTask name spec ∨ a = .task entity name { args := spec.args } ∨
        ((d.has .factory "command" = false ∧ a = .product "command" ⟨name, .command⟩) ∨
          (d.has .factory "command" = false ∧ a = .product "command" ⟨name, .commandTask⟩)) ∨
        ∃ event outcome, spec.events.get? event = some outcome ∧
          (a = .variant .event event (eventSpec entity spec outcome) ∨
            (d.has .factory "event" = false ∧ a = .product "event" ⟨event, .event⟩)) := by
  rw [commandAdditions, bound]
  simp only [List.mem_cons, List.mem_append, mem_productOf_iff, List.mem_flatMap, Prod.exists,
    eventAdditions, Dict.mem_entries_iff]

theorem mem_commandProducts_iff {name entity : String} {spec : Spec}
    {e : String × Product} (bound : spec.entity = some entity) :
    e ∈ commandProducts name spec
      ↔ e = ("command", ⟨name, .command⟩) ∨ e = ("command", ⟨name, .commandTask⟩) ∨
        ∃ event outcome, spec.events.get? event = some outcome ∧
          e = ("event", ⟨event, .event⟩) := by
  simp only [commandProducts, bound, Option.isSome_some, if_true, List.mem_cons, List.mem_map,
    Dict.keys, Prod.exists, Dict.mem_entries_iff]
  constructor
  · rintro (rfl | rfl | ⟨event, ⟨_, outcome, emits, rfl⟩, rfl⟩)
    · exact .inl rfl
    · exact .inr (.inl rfl)
    · exact .inr (.inr ⟨_, outcome, emits, rfl⟩)
  · rintro (rfl | rfl | ⟨event, outcome, emits, rfl⟩)
    · exact .inl rfl
    · exact .inr (.inl rfl)
    · exact .inr (.inr ⟨event, ⟨event, outcome, emits, rfl⟩, rfl⟩)

/-- The products of declarations, type by type. -/
theorem mem_products_iff {d : Declaration} {family : String} {p : Product} :
    (family, p) ∈ d.products
      ↔ (∃ name spec, d.sections.find? .valueObject name = some spec ∧
          family = "value_object" ∧ p = ⟨name, .valueObject⟩) ∨
        (∃ name spec, d.sections.find? .entity name = some spec ∧
          family = "entity" ∧ p = ⟨name, .entity⟩) ∨
        (∃ name spec, d.sections.find? .readModel name = some spec ∧
          family = "read_model" ∧ p = ⟨name, .readModel⟩) ∨
        (∃ name spec, d.sections.find? .service name = some spec ∧
          family = "service" ∧ p = ⟨name, .service⟩) ∨
        (∃ name spec, d.sections.find? .command name = some spec ∧
          (family, p) ∈ commandProducts name spec) := by
  simp only [products, List.mem_append, List.mem_flatMap, List.mem_map, Prod.exists,
    mem_entries_iff, Prod.mk.injEq, or_assoc, eq_comm (a := family), eq_comm (a := p)]

private theorem brings_of_mem_commandAdditions {d : Declaration} {name : String} {spec : Spec}
    {a : Addition} (h : d.sections.find? .command name = some spec)
    (ha : a ∈ d.commandAdditions name spec) : d.Brings a := by
  cases bound : spec.entity with
  | none =>
    rw [commandAdditions, bound] at ha
    cases ha
  | some entity =>
    have stocked {family : String} {p : Product} (hp : (family, p) ∈ commandProducts name spec) :
        (family, p) ∈ d.products :=
      mem_products_iff.mpr (.inr (.inr (.inr (.inr ⟨name, spec, h, hp⟩))))
    rw [mem_commandAdditions_iff bound] at ha
    rcases ha with rfl | rfl | (⟨hf, rfl⟩ | ⟨hf, rfl⟩) | ⟨event, outcome, emits, rfl | ⟨hf, rfl⟩⟩
    · exact .commandTask h bound
    · exact .task h bound
    · exact .product (stocked ((mem_commandProducts_iff bound).mpr (.inl rfl))) hf
    · exact .product (stocked ((mem_commandProducts_iff bound).mpr (.inr (.inl rfl)))) hf
    · exact .event h bound emits
    · exact .product (stocked ((mem_commandProducts_iff bound).mpr
        (.inr (.inr ⟨event, outcome, emits, rfl⟩)))) hf

private theorem mem_commandAdditions_of_mem_commandProducts {d : Declaration}
    {name family : String} {spec : Spec} {p : Product} (hf : d.has .factory family = false)
    (hp : (family, p) ∈ commandProducts name spec) :
    .product family p ∈ d.commandAdditions name spec := by
  cases bound : spec.entity with
  | none =>
    rw [commandProducts, bound] at hp
    cases hp
  | some entity =>
    rw [mem_commandProducts_iff bound] at hp
    rw [mem_commandAdditions_iff bound]
    rcases hp with hp | hp | ⟨event, outcome, emits, hp⟩
    · obtain ⟨rfl, rfl⟩ := Prod.mk.inj hp
      exact .inr (.inr (.inl (.inl ⟨hf, rfl⟩)))
    · obtain ⟨rfl, rfl⟩ := Prod.mk.inj hp
      exact .inr (.inr (.inl (.inr ⟨hf, rfl⟩)))
    · obtain ⟨rfl, rfl⟩ := Prod.mk.inj hp
      exact .inr (.inr (.inr ⟨event, outcome, emits, .inr ⟨hf, rfl⟩⟩))

/-- **The additions are what the rules say.** -/
theorem mem_additions_iff {d : Declaration} {a : Addition} : a ∈ d.additions ↔ d.Brings a := by
  simp only [additions, List.mem_append, List.mem_flatMap, List.mem_map, Prod.exists,
    mem_entries_iff, valueObjectAdditions, entityAdditions, serviceAdditions, List.mem_cons,
    mem_productOf_iff, or_assoc]
  constructor
  · -- the walks in order: value objects, entities, read models, services, commands, and the
    -- two types that only have variants
    rintro (⟨n, s, h, rfl | ⟨hf, rfl⟩⟩ | ⟨n, s, h, rfl | ⟨hf, rfl⟩⟩ | ⟨n, s, h, hf, rfl⟩ |
      ⟨n, s, h, rfl | ⟨hf, rfl⟩⟩ | ⟨n, s, h, ha⟩ | ⟨n, s, h, rfl⟩ | ⟨n, s, h, rfl⟩)
    · exact .settled h
    · exact .product (mem_products_iff.mpr (.inl ⟨n, s, h, rfl, rfl⟩)) hf
    · exact .entityInterface h
    · exact .product (mem_products_iff.mpr (.inr (.inl ⟨n, s, h, rfl, rfl⟩))) hf
    · exact .product (mem_products_iff.mpr (.inr (.inr (.inl ⟨n, s, h, rfl, rfl⟩)))) hf
    · exact .serviceInterface h
    · exact .product (mem_products_iff.mpr (.inr (.inr (.inr (.inl ⟨n, s, h, rfl, rfl⟩))))) hf
    · exact brings_of_mem_commandAdditions h ha
    · exact .commandHandlerTask h
    · exact .dtoInterface h
  · intro ha
    -- each rule belongs to the walk over one type
    cases ha with
    | settled h => exact .inl ⟨_, _, h, .inl rfl⟩
    | entityInterface h => exact .inr (.inl ⟨_, _, h, .inl rfl⟩)
    | serviceInterface h => exact .inr (.inr (.inr (.inl ⟨_, _, h, .inl rfl⟩)))
    | commandTask h bound =>
      exact .inr (.inr (.inr (.inr (.inl
        ⟨_, _, h, (mem_commandAdditions_iff bound).mpr (.inl rfl)⟩))))
    | task h bound =>
      exact .inr (.inr (.inr (.inr (.inl
        ⟨_, _, h, (mem_commandAdditions_iff bound).mpr (.inr (.inl rfl))⟩))))
    | event h bound emits =>
      exact .inr (.inr (.inr (.inr (.inl ⟨_, _, h, (mem_commandAdditions_iff bound).mpr
        (.inr (.inr (.inr ⟨_, _, emits, .inl rfl⟩)))⟩))))
    | commandHandlerTask h => exact .inr (.inr (.inr (.inr (.inr (.inl ⟨_, _, h, rfl⟩)))))
    | dtoInterface h => exact .inr (.inr (.inr (.inr (.inr (.inr ⟨_, _, h, rfl⟩)))))
    | product hp hf =>
      rcases mem_products_iff.mp hp with ⟨n, s, h, rfl, rfl⟩ | ⟨n, s, h, rfl, rfl⟩ |
        ⟨n, s, h, rfl, rfl⟩ | ⟨n, s, h, rfl, rfl⟩ | ⟨n, s, h, hp⟩
      · exact .inl ⟨n, s, h, .inr ⟨hf, rfl⟩⟩
      · exact .inr (.inl ⟨n, s, h, .inr ⟨hf, rfl⟩⟩)
      · exact .inr (.inr (.inl ⟨n, s, h, hf, rfl⟩))
      · exact .inr (.inr (.inr (.inl ⟨n, s, h, .inr ⟨hf, rfl⟩⟩)))
      · exact .inr (.inr (.inr (.inr (.inl
          ⟨n, s, h, mem_commandAdditions_of_mem_commandProducts hf hp⟩))))

/-! ### The additions that reach an entry -/

/-- The additions that reach an entry, in order. -/
def reaching (d : Declaration) (t : ArtifactType) (name : String) : List Addition :=
  d.additions.filter (Addition.reaches t name)

theorem mem_reaching_iff {d : Declaration} {t : ArtifactType} {name : String} {a : Addition} :
    a ∈ d.reaching t name ↔ d.Brings a ∧ a.reaches t name = true := by
  rw [reaching, List.mem_filter, mem_additions_iff]

theorem find?_filledSections (d : Declaration) (t : ArtifactType) (name : String) :
    d.filledSections.find? t name = d.sections.find? t name := by
  rw [filledSections, Sections.find?, Sections.ofType, Dict.get?_filter,
    Sections.getD_filter_isEmpty]
  rfl

/-- **An entry with all additions** is what stood there with those that reach it. -/
theorem find?_assemble (d : Declaration) (t : ArtifactType) (name : String) :
    d.assemble.find? t name
      = (d.reaching t name).foldl (fun x a => some (a.makes x)) (d.sections.find? t name) := by
  rw [assemble, Sections.find?_foldl_add, find?_filledSections, reaching]

/-! ### The names that are brought -/

/-- The commands that are bound to an entity. -/
def boundCommands (d : Declaration) : Set String :=
  {name | ∃ command entity, d.sections.find? .command name = some command ∧
    command.entity = some entity}

/-- The events of the commands that are bound to an entity. -/
def boundEvents (d : Declaration) : Set String :=
  {event | ∃ name command entity outcome, d.sections.find? .command name = some command ∧
    command.entity = some entity ∧ command.events.get? event = some outcome}

/-- The names under which additions put something, by type. -/
def broughtNames (d : Declaration) : ArtifactType → Set String
  | .valueObject => d.declared .valueObject
  | .entityInterface => d.declared .entity
  | .serviceInterface => d.declared .service
  | .dtoInterface => d.declared .dto
  | .commandHandlerTask => d.declared .commandHandler
  | .commandTask => d.boundCommands
  | .event => d.boundEvents
  | .repositoryTask => d.boundEntities
  | .factory | .factoryInterface =>
    {family | d.has .factory family = false ∧ ∃ p, (family, p) ∈ d.products}
  | _ => ∅

private theorem mem_broughtNames_of_brings {d : Declaration} {t : ArtifactType} {name : String}
    {a : Addition} (ha : d.Brings a) (hr : a.reaches t name = true) : name ∈ d.broughtNames t := by
  cases ha with
  | product hp hf =>
    obtain ⟨rfl | rfl, rfl⟩ := Addition.reaches_product_iff.mp hr
    · exact ⟨hf, _, hp⟩
    · exact ⟨hf, _, hp⟩
  | settled h =>
    obtain ⟨rfl, rfl⟩ := Addition.reaches_settled_iff.mp hr
    exact mem_declared_iff.mpr ⟨_, h⟩
  | entityInterface h =>
    obtain ⟨rfl, rfl⟩ := Addition.reaches_variant_iff.mp hr
    exact mem_declared_iff.mpr ⟨_, h⟩
  | serviceInterface h =>
    obtain ⟨rfl, rfl⟩ := Addition.reaches_variant_iff.mp hr
    exact mem_declared_iff.mpr ⟨_, h⟩
  | dtoInterface h =>
    obtain ⟨rfl, rfl⟩ := Addition.reaches_variant_iff.mp hr
    exact mem_declared_iff.mpr ⟨_, h⟩
  | commandHandlerTask h =>
    obtain ⟨rfl, rfl⟩ := Addition.reaches_variant_iff.mp hr
    exact mem_declared_iff.mpr ⟨_, h⟩
  | commandTask h bound =>
    obtain ⟨rfl, rfl⟩ := Addition.reaches_variant_iff.mp hr
    exact ⟨_, _, h, bound⟩
  | task h bound =>
    obtain ⟨rfl, rfl⟩ := Addition.reaches_task_iff.mp hr
    exact ⟨_, _, h, bound⟩
  | event h bound emits =>
    obtain ⟨rfl, rfl⟩ := Addition.reaches_variant_iff.mp hr
    exact ⟨_, _, _, _, h, bound, emits⟩

/-- **The additions reach the names that are brought.** -/
theorem exists_brings_reaches_iff {d : Declaration} {t : ArtifactType} {name : String} :
    (∃ a, d.Brings a ∧ a.reaches t name = true) ↔ name ∈ d.broughtNames t := by
  constructor
  · rintro ⟨a, ha, hr⟩
    exact mem_broughtNames_of_brings ha hr
  · intro h
    cases t with
    | valueObject =>
      obtain ⟨spec, h⟩ := mem_declared_iff.mp h
      exact ⟨_, .settled h, Addition.reaches_settled_iff.mpr ⟨rfl, rfl⟩⟩
    | entityInterface =>
      obtain ⟨spec, h⟩ := mem_declared_iff.mp h
      exact ⟨_, .entityInterface h, Addition.reaches_variant_iff.mpr ⟨rfl, rfl⟩⟩
    | serviceInterface =>
      obtain ⟨spec, h⟩ := mem_declared_iff.mp h
      exact ⟨_, .serviceInterface h, Addition.reaches_variant_iff.mpr ⟨rfl, rfl⟩⟩
    | dtoInterface =>
      obtain ⟨spec, h⟩ := mem_declared_iff.mp h
      exact ⟨_, .dtoInterface h, Addition.reaches_variant_iff.mpr ⟨rfl, rfl⟩⟩
    | commandHandlerTask =>
      obtain ⟨spec, h⟩ := mem_declared_iff.mp h
      exact ⟨_, .commandHandlerTask h, Addition.reaches_variant_iff.mpr ⟨rfl, rfl⟩⟩
    | commandTask =>
      obtain ⟨command, entity, h, bound⟩ := h
      exact ⟨_, .commandTask h bound, Addition.reaches_variant_iff.mpr ⟨rfl, rfl⟩⟩
    | repositoryTask =>
      obtain ⟨n, command, h, bound⟩ := h
      exact ⟨_, .task h bound, Addition.reaches_task_iff.mpr ⟨rfl, rfl⟩⟩
    | event =>
      obtain ⟨n, command, entity, outcome, h, bound, emits⟩ := h
      exact ⟨_, .event h bound emits, Addition.reaches_variant_iff.mpr ⟨rfl, rfl⟩⟩
    | factory =>
      obtain ⟨hf, p, hp⟩ := h
      exact ⟨_, .product hp hf, Addition.reaches_product_iff.mpr ⟨.inl rfl, rfl⟩⟩
    | factoryInterface =>
      obtain ⟨hf, p, hp⟩ := h
      exact ⟨_, .product hp hf, Addition.reaches_product_iff.mpr ⟨.inr rfl, rfl⟩⟩
    | _ => cases h

/-- **What is there with all additions**: what was declared and what is brought. -/
theorem has_assemble_iff {d : Declaration} {t : ArtifactType} {name : String} :
    d.assemble.has t name = true ↔ name ∈ d.declared t ∪ d.broughtNames t := by
  rw [assemble, Sections.has_foldl_add, Sections.has, find?_filledSections]
  simp only [mem_additions_iff, exists_brings_reaches_iff]
  rfl

/-- What is not brought stays as it was. -/
theorem find?_assemble_of_not_mem {d : Declaration} {t : ArtifactType} {name : String}
    (h : name ∉ d.broughtNames t) : d.assemble.find? t name = d.sections.find? t name := by
  have hnil : d.reaching t name = [] := by
    rw [List.eq_nil_iff_forall_not_mem]
    intro a ha
    exact h (exists_brings_reaches_iff.mp ⟨a, mem_reaching_iff.mp ha⟩)
  rw [find?_assemble, hnil, List.foldl_nil]

/-! ### Types that are only registered -/

/-- The types of which an entry may gain something after it was made. -/
def gainingTypes : List ArtifactType := [.valueObject, .repositoryTask, .factory, .factoryInterface]

/-- Only new artifacts reach the entries of other types. -/
private theorem exists_variant_of_mem_reaching {d : Declaration} {t : ArtifactType}
    (ht : t ∉ gainingTypes) {name : String} :
    ∀ a ∈ d.reaching t name, ∃ u n spec, a = .variant u n spec := by
  intro a ha
  obtain ⟨-, hr⟩ := mem_reaching_iff.mp ha
  cases a with
  | variant u n spec => exact ⟨u, n, spec, rfl⟩
  | settled n spec =>
    obtain ⟨rfl, -⟩ := Addition.reaches_settled_iff.mp hr
    exact absurd (by decide) ht
  | task entity command method =>
    obtain ⟨rfl, -⟩ := Addition.reaches_task_iff.mp hr
    exact absurd (by decide) ht
  | product family p =>
    obtain ⟨rfl | rfl, -⟩ := Addition.reaches_product_iff.mp hr
    · exact absurd (by decide) ht
    · exact absurd (by decide) ht

/-- **An entry of a type that gains nothing** was there before, or was brought as it is. -/
theorem find?_assemble_cases {d : Declaration} {t : ArtifactType} (ht : t ∉ gainingTypes)
    {name : String} {spec : Spec} (h : d.assemble.find? t name = some spec) :
    d.sections.find? t name = some spec ∨ d.Brings (.variant t name spec) := by
  rw [find?_assemble] at h
  rcases Sections.foldl_makes_cases (exists_variant_of_mem_reaching ht) h with h | ⟨u, n, hmem⟩
  · exact .inl h
  · obtain ⟨hbrings, hr⟩ := mem_reaching_iff.mp hmem
    obtain ⟨rfl, rfl⟩ := Addition.reaches_variant_iff.mp hr
    exact .inr hbrings

/-- **Where nothing stood before**, an entry of such a type is what is brought, if all that
is brought is the same. -/
theorem find?_assemble_of_none {d : Declaration} {t : ArtifactType} (ht : t ∉ gainingTypes)
    {name : String} (hnone : d.sections.find? t name = none) {x : Option Spec}
    (hx : ∀ spec, d.Brings (.variant t name spec) ↔ x = some spec) :
    d.assemble.find? t name = x := by
  have hfrom {spec : Spec} (h : d.assemble.find? t name = some spec) : x = some spec := by
    rcases find?_assemble_cases ht h with h | h
    · rw [hnone] at h
      cases h
    · exact (hx spec).mp h
  cases hfind : d.assemble.find? t name with
  | some spec => exact (hfrom hfind).symm
  | none =>
    cases x with
    | none => rfl
    | some spec =>
      -- what is brought stands somewhere in the end
      have hreaches : (Addition.variant t name spec).reaches t name = true :=
        Addition.reaches_variant_iff.mpr ⟨rfl, rfl⟩
      have hhas : d.assemble.has t name = true := has_assemble_iff.mpr
        (.inr (exists_brings_reaches_iff.mp ⟨_, (hx spec).mpr rfl, hreaches⟩))
      rw [Sections.has, hfind] at hhas
      cases hhas

end Declaration

end Scaffold
