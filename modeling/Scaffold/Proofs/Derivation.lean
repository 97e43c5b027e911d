import Scaffold.Proofs.Defaults

/-!
# Rules of derivation

The derived sections are made by walks over the entries of a declaration, some of which
gather the entries of one entity from all over a section.  Here the same is said by rules:
which entities have an entry, and what stands in it.

Types are derived one after the other, and each of them might read what the ones before it
have left.  None does: whatever is read is of a type that is never derived.

## Main definitions

* `Declaration.Derives` — the rules, one for each derivable type.
* `Declaration.sourceTypes` — the types that derivation reads.

## Main results

* `Declaration.get?_derivedSection_iff` — the derived sections are what the rules say.
* `Declaration.foldl_derive_self` — what was derived before is not read.
* `Declaration.withDefaults_by_rules` — the declaration with everything that is derived.
-/

namespace Scaffold.Declaration

/-! ### The rules -/

/-- The artifacts of a type that are bound to an entity. -/
def boundTo (d : Declaration) (t : ArtifactType) (entity : String) : Set String :=
  {name | ∃ spec, d.sections.find? t name = some spec ∧ spec.entity = some entity}

/-- The events of the commands that are bound to an entity. -/
def eventsBoundTo (d : Declaration) (entity : String) : Set String :=
  {event | ∃ name command outcome, d.sections.find? .command name = some command ∧
    command.entity = some entity ∧ command.events.get? event = some outcome}

/-- The methods are one for each name of a set. -/
def MethodsFor (names : Set String) (method : String → Method) (methods : Dict String Method) :
    Prop :=
  ∀ name m, methods.get? name = some m ↔ name ∈ names ∧ m = method name

/-- What is derived for an entity, one rule for each derivable type. -/
inductive Derives (d : Declaration) (entity : String) : ArtifactType → Spec → Prop
  | readModel {own : Spec} (h : d.sections.find? .entity entity = some own) :
    Derives d entity .readModel { args := own.args, entity := some entity }
  | entityStore (h : entity ∈ d.declared .entity) :
    Derives d entity .repositoryEntityStore
      { args := [.external "ReadModelStoreInterface"], entity := some entity }
  | eventSourcingStore (h : entity ∈ d.declared .entity) :
    Derives d entity .repositoryEventSourcingStore
      { args := [.external "EventStore", .external "EventBus",
          .scalar "eventStreamDecorators" .array]
        entity := some entity
        repositoryInterface := false }
  | readModelRepository {methods : Dict String Method} (h : entity ∈ d.declared .entity)
    (offers : MethodsFor (d.boundTo .commandHandler entity)
      (fun _ => { args := [.artifact entity .readModel false], returns := some "void" })
      methods) :
    Derives d entity .repositoryReadModel
      { args := [.external "ReadModelStoreInterface"], entity := some entity, methods }
  | queryStore {methods : Dict String Method} (h : entity ∈ d.queriedEntities)
    (offers : MethodsFor (d.boundTo .queryHandler entity) (fun _ => {}) methods) :
    Derives d entity .repositoryQueryStore
      { args := [.external "ReadModelStoreInterface", .artifact "read_model" .factory true,
          .artifact "value_object" .factory true]
        entity := some entity
        methods }
  | projector {methods : Dict String Method} (h : entity ∈ d.boundEntities)
    (offers : MethodsFor (d.eventsBoundTo entity)
      (fun event => { args := [.artifact event .event false], returns := some "void" })
      methods) :
    Derives d entity .projector
      { args := [.artifact entity .repositoryEntityStore false,
          .artifact entity .repositoryReadModel false, .artifact "read_model" .factory true,
          .artifact entity .repositoryQueryStore false, .external "CommandBus",
          .artifact "command" .factory true]
        entity := some entity
        methods }

variable {d : Declaration} {entity name : String} {spec : Spec}

theorem Derives.entity_eq {t : ArtifactType} (h : d.Derives entity t spec) :
    spec.entity = some entity := by
  cases h with
  | _ => rfl

/-! ### Methods -/

/-- There is one dictionary of methods for the names of a set. -/
theorem MethodsFor.unique {names : Set String} {method : String → Method}
    {methods methods' : Dict String Method} (h : MethodsFor names method methods)
    (h' : MethodsFor names method methods') : methods = methods' := by
  refine Dict.ext_get? fun name => Option.ext fun m => ?_
  rw [h, h']

private theorem methodsFor_ofList {l : List String} {names : Set String}
    (hnames : ∀ name, name ∈ l ↔ name ∈ names) (method : String → Method) :
    MethodsFor names method (.ofList (l.map fun name => (name, method name))) := by
  intro name m
  rw [Dict.get?_ofList_map_iff fun _ _ _ _ h => congrArg method h, ← hnames]
  constructor
  · rintro ⟨_, hmem, rfl, rfl⟩
    exact ⟨hmem, rfl⟩
  · rintro ⟨hmem, rfl⟩
    exact ⟨name, hmem, rfl, rfl⟩

/-- The names that a walk over the entries of a type finds for an entity. -/
private theorem mem_boundTo_iff (d : Declaration) (t : ArtifactType) (entity name : String) :
    name ∈ ((d.entries t).filter fun e => e.2.entity == some entity).map (·.1)
      ↔ name ∈ d.boundTo t entity := by
  simp only [List.mem_map, List.mem_filter, Prod.exists, mem_entries_iff, beq_iff_eq]
  constructor
  · rintro ⟨_, spec, hspec, rfl⟩
    exact ⟨spec, hspec⟩
  · rintro ⟨spec, hspec⟩
    exact ⟨name, spec, hspec, rfl⟩

private theorem mem_eventsOf_iff (d : Declaration) (entity name : String) :
    name ∈ d.eventsOf entity ↔ name ∈ d.eventsBoundTo entity := by
  simp only [eventsOf, Dict.keys, List.mem_flatMap, List.mem_filter, List.mem_map, Prod.exists,
    mem_entries_iff, Dict.mem_entries_iff, beq_iff_eq]
  constructor
  · rintro ⟨n, command, ⟨hcommand, bound⟩, _, outcome, emits, rfl⟩
    exact ⟨n, command, outcome, hcommand, bound, emits⟩
  · rintro ⟨n, command, outcome, hcommand, bound, emits⟩
    exact ⟨n, command, ⟨hcommand, bound⟩, name, outcome, emits, rfl⟩

/-! ### Entries -/

/-- A section with one entry for each entity. -/
private theorem get?_forEntities_iff {f : String → Spec → Spec} :
    (Dict.ofList ((d.entries .entity).map fun e => (e.1, f e.1 e.2))).get? entity = some spec
      ↔ ∃ own, d.sections.find? .entity entity = some own ∧ f entity own = spec := by
  rw [Dict.get?_ofList_map_iff]
  · simp only [Prod.exists, mem_entries_iff]
    constructor
    · rintro ⟨_, own, h, rfl, rfl⟩
      exact ⟨own, h, rfl⟩
    · rintro ⟨own, h, rfl⟩
      exact ⟨entity, own, h, rfl, rfl⟩
  · -- an entity has one spec
    rintro ⟨n, own⟩ h ⟨_, own'⟩ h' ⟨⟩
    rw [mem_entries_iff] at h h'
    rw [Option.some.inj (h.symm.trans h')]

/-- A section with one entry for each entity that the entries of a type name. -/
private theorem get?_forNamed_iff {t : ArtifactType} {f : String → Spec} :
    (Dict.ofList (((d.entries t).filterMap fun e => e.2.entity).map fun e => (e, f e))).get? entity
        = some spec
      ↔ (d.boundTo t entity).Nonempty ∧ f entity = spec := by
  rw [Dict.get?_ofList_map_iff fun _ _ _ _ h => congrArg f h]
  simp only [List.mem_filterMap, Prod.exists, mem_entries_iff]
  constructor
  · rintro ⟨_, ⟨n, own, h, bound⟩, rfl, rfl⟩
    exact ⟨⟨n, own, h, bound⟩, rfl⟩
  · rintro ⟨⟨n, own, h, bound⟩, rfl⟩
    exact ⟨entity, ⟨n, own, h, bound⟩, rfl, rfl⟩

/-- The same where the entry does not depend on what the entity says. -/
private theorem get?_forDeclared_iff {f : String → Spec} :
    (Dict.ofList ((d.entries .entity).map fun e => (e.1, f e.1))).get? entity = some spec
      ↔ entity ∈ d.declared .entity ∧ f entity = spec := by
  rw [get?_forEntities_iff (f := fun name _ => f name), mem_declared_iff]
  exact ⟨fun ⟨own, h, heq⟩ => ⟨⟨own, h⟩, heq⟩, fun ⟨⟨own, h⟩, heq⟩ => ⟨own, h, heq⟩⟩

/-- A rule with one condition that derives one spec. -/
private theorem and_eq_iff_derives {t : ArtifactType} {condition : Prop} {derived : Spec}
    (rule : condition → d.Derives entity t derived)
    (inversion : d.Derives entity t spec → condition ∧ derived = spec) :
    condition ∧ derived = spec ↔ d.Derives entity t spec := by
  refine ⟨?_, inversion⟩
  rintro ⟨h, rfl⟩
  exact rule h

/-- **The derived sections are what the rules say.** -/
theorem get?_derivedSection_iff {t : ArtifactType} :
    (d.derivedSection t).get? entity = some spec ↔ d.Derives entity t spec := by
  cases t with
  | readModel =>
    refine (get?_forEntities_iff (f := fun name own =>
      { args := own.args, entity := some name })).trans ⟨?_, fun h => ?_⟩
    · rintro ⟨own, h, rfl⟩
      exact .readModel h
    · cases h with
      | readModel h => exact ⟨_, h, rfl⟩
  | repositoryEntityStore =>
    refine (get?_forDeclared_iff (f := fun name =>
      { args := [readModelStore], entity := some name })).trans
        (and_eq_iff_derives .entityStore fun h => ?_)
    cases h with
    | entityStore h => exact ⟨h, rfl⟩
  | repositoryEventSourcingStore =>
    refine (get?_forDeclared_iff (f := fun name =>
      { args := [eventStore, eventBus, .scalar "eventStreamDecorators" .array]
        entity := some name
        repositoryInterface := false })).trans
        (and_eq_iff_derives .eventSourcingStore fun h => ?_)
    cases h with
    | eventSourcingStore h => exact ⟨h, rfl⟩
  | repositoryReadModel =>
    -- a rule tells the names of the methods, and only one dictionary has just these
    have hoffers := methodsFor_ofList (mem_boundTo_iff d .commandHandler entity)
      fun _ => handlerOf entity .readModel
    refine (get?_forDeclared_iff (f := fun name =>
      { args := [readModelStore]
        entity := some name
        methods := .ofList <| (d.commandHandlersOf name).map fun handler =>
          (handler, handlerOf name .readModel) })).trans
        (and_eq_iff_derives (fun h => .readModelRepository h hoffers) fun h => ?_)
    cases h with
    | readModelRepository h offers => exact ⟨h, by rw [offers.unique hoffers]; rfl⟩
  | repositoryQueryStore =>
    have hoffers := methodsFor_ofList (mem_boundTo_iff d .queryHandler entity) fun _ => {}
    refine (get?_forNamed_iff (f := d.queryStoreOf)).trans
      (and_eq_iff_derives (fun h => .queryStore h hoffers) fun h => ?_)
    cases h with
    | queryStore h offers => exact ⟨h, by rw [offers.unique hoffers]; rfl⟩
  | projector =>
    have hoffers := methodsFor_ofList (mem_eventsOf_iff d entity)
      fun event => handlerOf event .event
    refine (get?_forNamed_iff (f := d.projectorOf)).trans
      (and_eq_iff_derives (fun h => .projector h hoffers) fun h => ?_)
    cases h with
    | projector h offers => exact ⟨h, by rw [offers.unique hoffers]; rfl⟩
  | _ => exact iff_of_false nofun nofun

/-! ### One type after the other -/

/-- The types of which the entries are read when something is derived. -/
def sourceTypes : List ArtifactType := [.entity, .command, .commandHandler, .queryHandler]

/-- **What is derived depends on the entries of the source types alone.** -/
theorem derivedSection_congr {e : Declaration}
    (h : ∀ t ∈ sourceTypes, e.entries t = d.entries t) (t : ArtifactType) :
    e.derivedSection t = d.derivedSection t := by
  have hentity := h .entity (by decide)
  have hcommand := h .command (by decide)
  have hcommandHandler := h .commandHandler (by decide)
  have hqueryHandler := h .queryHandler (by decide)
  cases t with
  | readModel => rw [derivedSection, derivedReadModels, hentity]; rfl
  | repositoryEntityStore => rw [derivedSection, derivedEntityStores, hentity]; rfl
  | repositoryEventSourcingStore =>
    rw [derivedSection, derivedEventSourcingStores, hentity]; rfl
  | repositoryReadModel =>
    simp only [derivedSection, derivedReadModelRepositories, commandHandlersOf, hentity,
      hcommandHandler]
  | repositoryQueryStore =>
    simp only [derivedSection, derivedQueryStores, queryStoreOf, queryHandlersOf, hqueryHandler]
  | projector =>
    simp only [derivedSection, derivedProjectors, projectorOf, eventsOf, hcommand]
  | _ => rfl

/-- A step of the derivation leaves the other types as they are. -/
theorem ofType_derive_of_ne (source e : Declaration) {t u : ArtifactType} (h : t ≠ u) :
    (derive source e t).sections.ofType u = e.sections.ofType u := by
  unfold derive
  split
  · simp only [Sections.ofType, Dict.get?_insert_of_ne h]
  · rfl

/-- **What was derived before is not read**: each type may be derived from what the types
before it have left, or all of them from the declaration they began with. -/
theorem foldl_derive_self {ts : List ArtifactType} (hts : ts.Nodup)
    (hsource : ∀ t ∈ ts, t ∉ sourceTypes) (e : Declaration)
    (hread : ∀ t, t ∈ ts ∨ t ∈ sourceTypes → e.sections.ofType t = d.sections.ofType t) :
    ts.foldl (fun e t => derive e e t) e = ts.foldl (derive d) e := by
  induction ts generalizing e with
  | nil => rfl
  | cons t ts ih =>
    obtain ⟨ht, hts⟩ := List.nodup_cons.mp hts
    -- the walk has changed neither the type nor what is read for it
    have hstep : derive e e t = derive d e t := by
      have hlacks : e.lacks t = d.lacks t :=
        congrArg Dict.isEmpty (hread t (.inl List.mem_cons_self))
      have hderived : e.derivedSection t = d.derivedSection t :=
        derivedSection_congr (fun u hu => congrArg Dict.entries (hread u (.inr hu))) t
      rw [derive, derive, hlacks, hderived]
    rw [List.foldl_cons, List.foldl_cons, hstep]
    refine ih hts (fun u hu => hsource u (List.mem_cons_of_mem _ hu)) _ fun u hu => ?_
    have hne : t ≠ u := by
      rintro rfl
      rcases hu with hu | hu
      · exact ht hu
      · exact hsource t List.mem_cons_self hu
    rw [ofType_derive_of_ne d e hne]
    exact hread u (hu.imp_left (List.mem_cons_of_mem _))

@[simp] theorem name_derive (source e : Declaration) (t : ArtifactType) :
    (derive source e t).name = e.name := by
  unfold derive
  split <;> rfl

/-- **The declaration with everything that is derived.**  It is made type after type, each
derived from what stands there by then.  Only derivable types of which nothing is declared
change, and they get exactly the entries of the rules, bound to the entities they go by. -/
theorem withDefaults_by_rules (d : Declaration) :
    derivableTypes.foldl (fun e t => derive e e t) d = d.withDefaults ∧
    d.withDefaults.name = d.name ∧
    ∀ t,
      (t ∉ derivableTypes ∨ d.lacks t = false →
        Dict.get? d.withDefaults.sections t = Dict.get? d.sections t) ∧
      (t ∈ derivableTypes → d.lacks t = true → ∀ name spec,
        (d.withDefaults.sections.find? t name = some spec ↔ d.Derives name t spec) ∧
        (d.withDefaults.sections.find? t name = some spec → spec.entity = some name)) := by
  refine ⟨foldl_derive_self (by decide) (by decide) d fun _ _ => rfl,
    by simp [withDefaults, derivableTypes], fun t => ⟨?_, ?_⟩⟩
  · intro h
    rw [get?_withDefaults, if_neg]
    rintro ⟨ht, hlacks⟩
    rcases h with h | h
    · exact h ht
    · rw [h] at hlacks
      cases hlacks
  · intro ht hlacks name spec
    have hrules : d.withDefaults.sections.find? t name = some spec ↔ d.Derives name t spec := by
      rw [find?_withDefaults, if_pos ⟨ht, hlacks⟩, get?_derivedSection_iff]
    exact ⟨hrules, fun h => (hrules.mp h).entity_eq⟩

end Scaffold.Declaration
