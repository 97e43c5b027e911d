import Scaffold.Proofs.Expansion.Declared

/-!
# Which domains are accepted

A domain can be expanded exactly when its name is valid, the required sections are
there, every section can be read, and what was read is sound: whatever it names is
there.  What is derived or brought along asks for nothing more.

## Main definitions

* `Declaration.Sound` — what must hold of a declaration.

## Main results

* `Declaration.merges_iff_sound` — when the sections can be merged.
* `Domain.expands_iff` — when a domain can be expanded.
-/

namespace Scaffold

theorem ValueKind.exists_ofTag_eq_ok_iff {word : String} :
    (∃ kind, ValueKind.ofTag word = .ok kind) ↔ ∃ kind : ValueKind, word = kind.tag := by
  constructor
  · rintro ⟨kind, h⟩
    unfold ValueKind.ofTag at h
    split at h
    · next found =>
      unfold ValueKind.ofTag? at found
      have htag := List.find?_some found
      exact ⟨_, (beq_iff_eq.mp htag).symm⟩
    · cases h
  · rintro ⟨kind, rfl⟩
    exact ⟨kind, by rw [ValueKind.ofTag, ValueKind.ofTag?_tag]⟩

namespace Declaration

/-- The types whose arguments may name declared value objects only. -/
def valueObjectUsers : List ArtifactType := [.entity, .readModel, .command, .migrations]

/-- The types whose entity, if there is one, must be declared. -/
def entityUsers : List ArtifactType :=
  [.readModel, .commandHandler, .queryHandler] ++ ArtifactType.repositories

/-- What must hold of a declaration. -/
structure Sound (d : Declaration) : Prop where
  /-- The kinds of value objects are known. -/
  kinds : ∀ name spec word, d.sections.find? .valueObject name = some spec →
    spec.kind = some word → ∃ kind : ValueKind, word = kind.tag
  /-- The value objects that arguments name are declared or reserved. -/
  valueObjects : ∀ t ∈ valueObjectUsers, ∀ name spec, d.sections.find? t name = some spec →
    ∀ value ∈ spec.valueObjectReferences,
      value ∈ d.declared .valueObject ∨ value = "uuid" ∨ value = "process_uuid"
  /-- Every command is bound to a declared entity. -/
  commands : ∀ name command, d.sections.find? .command name = some command →
    ∃ entity ∈ d.declared .entity, command.entity = some entity
  /-- The commands that outcomes of events set off are declared. -/
  outcomes : ∀ name command event next, d.sections.find? .command name = some command →
    command.events.get? event = some (.next next) → next ∈ d.declared .command
  /-- The entities that are named are declared. -/
  entities : ∀ t ∈ entityUsers, ∀ name spec entity, d.sections.find? t name = some spec →
    spec.entity = some entity → entity ∈ d.declared .entity
  /-- The artifacts that arguments name are there in the end. -/
  artifacts : ∀ t name spec target type, d.sections.find? t name = some spec →
    (target, type) ∈ spec.artifactReferences → target ∈ d.names type

variable {d : Declaration}

theorem Sound.commandsBound (h : d.Sound) : d.CommandsBound := by
  intro name command hcommand
  obtain ⟨entity, -, bound⟩ := h.commands name command hcommand
  exact ⟨entity, bound⟩

/-! ### The obligations of a spec -/

section Spec

variable {isDeclared : ArtifactType → String → Bool} {spec : Spec} {place : String}

theorem met_valueObjectObligations_iff :
    (∀ o ∈ spec.valueObjectObligations place, o.Met isDeclared)
      ↔ ∀ value ∈ spec.valueObjectReferences, isDeclared .valueObject value = true := by
  rw [Spec.valueObjectObligations, List.forall_mem_map]
  rfl

theorem met_entityObligations_iff :
    (∀ o ∈ spec.entityObligations place, o.Met isDeclared)
      ↔ ∀ entity, spec.entity = some entity → isDeclared .entity entity = true := by
  rw [Spec.entityObligations, List.forall_mem_map]
  simp only [Option.mem_toList]
  rfl

theorem met_artifactObligations_iff :
    (∀ o ∈ spec.artifactObligations place, o.Met isDeclared)
      ↔ ∀ target type, (target, type) ∈ spec.artifactReferences →
          isDeclared type target = true := by
  rw [Spec.artifactObligations, List.forall_mem_map, Prod.forall]
  rfl

theorem met_outcomeObligations_iff {command event : String} {outcome : EventOutcome} :
    (∀ o ∈ outcomeObligations command event outcome, o.Met isDeclared)
      ↔ ∀ next, outcome = .next next → isDeclared .command next = true := by
  cases outcome with
  | next next => simp [outcomeObligations, Obligation.Met]
  | args args => simp [outcomeObligations]
  | terminal ends => simp [outcomeObligations]

theorem met_commandObligations_iff {name : String} :
    (∀ o ∈ commandObligations name spec, o.Met isDeclared)
      ↔ (∃ entity, isDeclared .entity entity = true ∧ spec.entity = some entity) ∧
        (∀ value ∈ spec.valueObjectReferences, isDeclared .valueObject value = true) ∧
        ∀ event next, spec.events.get? event = some (.next next) →
          isDeclared .command next = true := by
  have hbound : (Obligation.bound name spec.entity).Met isDeclared
      ↔ ∃ entity, spec.entity = some entity := Option.isSome_iff_exists
  rw [commandObligations, List.forall_mem_cons, List.forall_mem_append, List.forall_mem_append,
    met_entityObligations_iff, met_valueObjectObligations_iff, List.forall_mem_flatMap, hbound]
  simp only [Prod.forall, Dict.mem_entries_iff, met_outcomeObligations_iff]
  constructor
  · rintro ⟨⟨entity, bound⟩, ⟨hentity, hvalues⟩, houtcomes⟩
    exact ⟨⟨entity, hentity entity bound, bound⟩, hvalues,
      fun event next h => houtcomes event _ h next rfl⟩
  · rintro ⟨⟨entity, hdeclared, bound⟩, hvalues, houtcomes⟩
    refine ⟨⟨entity, bound⟩, ⟨?_, hvalues⟩, ?_⟩
    · intro e he
      rw [bound] at he
      obtain rfl := Option.some.inj he
      exact hdeclared
    · rintro event outcome h next rfl
      exact houtcomes event next h

end Spec

/-! ### The obligations of a declaration -/

theorem knows_withDefaults_valueObject_iff {value : String} :
    d.withDefaults.knows .valueObject value = true
      ↔ value ∈ d.declared .valueObject ∨ value = "uuid" ∨ value = "process_uuid" := by
  rw [← declared_withDefaults_of_not_mem (by decide) d]
  simp [knows, isReservedIdentity, declared]

theorem knows_withDefaults_iff {t : ArtifactType} (ht : t ∉ derivableTypes)
    (hv : t ≠ .valueObject) {name : String} :
    d.withDefaults.knows t name = true ↔ name ∈ d.declared t := by
  rw [← declared_withDefaults_of_not_mem ht d]
  simp [knows, declared, hv]

/-- The read models that are asked are declared ones and derived ones, and what a derived
one names, its entity names too. -/
private theorem valueObjectReferences_of_readModel {name : String} {spec : Spec}
    (h : d.withDefaults.sections.find? .readModel name = some spec) :
    d.sections.find? .readModel name = some spec ∨
      spec.entity = some name ∧ ∃ entity, d.sections.find? .entity name = some entity ∧
        ∀ value ∈ spec.valueObjectReferences, value ∈ entity.valueObjectReferences := by
  rw [find?_withDefaults] at h
  split at h
  · right
    obtain ⟨entity, hentity, rfl⟩ := of_get?_derivedReadModels h
    refine ⟨rfl, entity, hentity, fun value hvalue => ?_⟩
    obtain ⟨a, ha, hname⟩ := List.mem_filterMap.mp hvalue
    refine List.mem_filterMap.mpr ⟨a, ?_, hname⟩
    -- only the constructor of the entity is taken over
    have hargs : a ∈ entity.args := by simpa [Spec.allArgs, Dict.values] using ha
    exact List.mem_append_left _ (List.mem_append_left _ hargs)
  · exact .inl h

/-- **A derived read model asks for no more** than its entity does. -/
private theorem met_readModel_withDefaults {known : String → Prop}
    (hentities : ∀ name entity, d.sections.find? .entity name = some entity →
      ∀ value ∈ entity.valueObjectReferences, known value)
    (hown : ∀ name spec, d.sections.find? .readModel name = some spec →
      (∀ entity, spec.entity = some entity → entity ∈ d.declared .entity) ∧
        ∀ value ∈ spec.valueObjectReferences, known value)
    {name : String} {spec : Spec}
    (h : d.withDefaults.sections.find? .readModel name = some spec) :
    (∀ entity, spec.entity = some entity → entity ∈ d.declared .entity) ∧
      ∀ value ∈ spec.valueObjectReferences, known value := by
  rcases valueObjectReferences_of_readModel h with h | ⟨hname, entity, he, hsub⟩
  · exact hown name spec h
  · refine ⟨fun e heq => ?_, fun value hvalue => hentities name entity he value (hsub value hvalue)⟩
    rw [hname] at heq
    obtain rfl := Option.some.inj heq
    exact mem_declared_iff.mpr ⟨entity, he⟩

/-- What all obligations of a declaration by itself come to. -/
private theorem met_obligations_iff {isDeclared : ArtifactType → String → Bool} :
    (∀ o ∈ d.obligations, o.Met isDeclared)
      ↔ (∀ name spec, d.sections.find? .valueObject name = some spec →
          ∀ word, spec.kind = some word → ∃ kind : ValueKind, word = kind.tag) ∧
        (∀ name spec, d.sections.find? .entity name = some spec →
          ∀ value ∈ spec.valueObjectReferences, isDeclared .valueObject value = true) ∧
        (∀ name spec, d.sections.find? .readModel name = some spec →
          (∀ entity, spec.entity = some entity → isDeclared .entity entity = true) ∧
          ∀ value ∈ spec.valueObjectReferences, isDeclared .valueObject value = true) ∧
        (∀ name command, d.sections.find? .command name = some command →
          (∃ entity, isDeclared .entity entity = true ∧ command.entity = some entity) ∧
          (∀ value ∈ command.valueObjectReferences, isDeclared .valueObject value = true) ∧
          ∀ event next, command.events.get? event = some (.next next) →
            isDeclared .command next = true) ∧
        (∀ name spec, d.sections.find? .commandHandler name = some spec →
          ∀ entity, spec.entity = some entity → isDeclared .entity entity = true) ∧
        (∀ name spec, d.sections.find? .queryHandler name = some spec →
          ∀ entity, spec.entity = some entity → isDeclared .entity entity = true) ∧
        (∀ name spec, d.sections.find? .migrations name = some spec →
          ∀ value ∈ spec.valueObjectReferences, isDeclared .valueObject value = true) := by
  have hkind (spec : Spec) :
      (∀ o ∈ spec.kind.toList.map Obligation.knownKind, o.Met isDeclared)
        ↔ ∀ word, spec.kind = some word → ∃ kind : ValueKind, word = kind.tag := by
    rw [List.forall_mem_map]
    simp only [Option.mem_toList]
    exact forall₂_congr fun word _ => ValueKind.exists_ofTag_eq_ok_iff
  unfold obligations
  simp only [List.forall_mem_append, List.forall_mem_flatMap, Prod.forall, mem_entries_iff, hkind,
    met_valueObjectObligations_iff, met_entityObligations_iff, met_commandObligations_iff,
    and_assoc]

theorem boundEntities_subset
    (h : ∀ name command, d.sections.find? .command name = some command →
      ∃ entity ∈ d.declared .entity, command.entity = some entity) :
    d.boundEntities ⊆ d.declared .entity := by
  rintro entity ⟨name, command, hcommand, bound⟩
  obtain ⟨e, he, heq⟩ := h name command hcommand
  rw [bound] at heq
  obtain rfl := Option.some.inj heq
  exact he

theorem queriedEntities_subset
    (h : ∀ name handler entity, d.sections.find? .queryHandler name = some handler →
      handler.entity = some entity → entity ∈ d.declared .entity) :
    d.queriedEntities ⊆ d.declared .entity := by
  rintro entity ⟨name, handler, hhandler, hentity⟩
  exact h name handler entity hhandler hentity

/-- **The entities of concrete repositories are declared** if those that the author named
are, whichever way the repositories came about. -/
theorem entity_mem_of_find?_assemble (hcommands : d.boundEntities ⊆ d.declared .entity)
    (hqueries : d.queriedEntities ⊆ d.declared .entity)
    (hown : ∀ concrete ∈ ArtifactType.repositories, ∀ name spec entity,
      d.sections.find? concrete name = some spec → spec.entity = some entity →
        entity ∈ d.declared .entity)
    {concrete : ArtifactType} (hc : concrete ∈ ArtifactType.repositories) {name entity : String}
    {spec : Spec} (h : d.withDefaults.assemble.find? concrete name = some spec)
    (hentity : spec.entity = some entity) : entity ∈ d.declared .entity := by
  rcases entity_of_find?_assemble hc h with ⟨own, hspec, heq⟩ | ⟨heq, hn⟩
  · exact hown concrete hc name own entity hspec (heq ▸ hentity)
  · rw [heq] at hentity
    obtain rfl := Option.some.inj hentity
    rcases hn with hn | hn
    · cases concrete with
      | repositoryQueryStore => exact hqueries hn
      | repositoryEntityStore | repositoryEventSourcingStore | repositoryReadModel => exact hn
      | readModel | projector => exact absurd hc (by decide)
      | _ => exact absurd hn (Set.notMem_empty _)
    · exact hcommands hn

/-- **The obligations of repositories** ask nothing of those that nobody declared. -/
theorem met_repositoryObligations_iff (hcommands : d.boundEntities ⊆ d.declared .entity)
    (hqueries : d.queriedEntities ⊆ d.declared .entity) :
    (∀ o ∈ d.withDefaults.assemble.repositoryObligations, o.Met d.withDefaults.knows)
      ↔ ∀ concrete ∈ ArtifactType.repositories, ∀ name spec entity,
          d.sections.find? concrete name = some spec → spec.entity = some entity →
            entity ∈ d.declared .entity := by
  unfold Sections.repositoryObligations
  simp only [List.forall_mem_flatMap, Prod.forall, Sections.mem_entriesAt_iff,
    met_entityObligations_iff, knows_withDefaults_iff (t := .entity) (by decide) (by decide)]
  constructor
  · intro h concrete hc name spec entity hfind hentity
    refine h concrete hc name _ (find?_assemble_of_declared hfind) entity ?_
    rw [entity_kept, hentity]
  · intro h concrete hc name spec hfind entity hentity
    exact entity_mem_of_find?_assemble hcommands hqueries h hc hfind hentity

/-- **Declared specs are asked for the artifacts they name**, and no others. -/
theorem met_artifactObligations_withDefaults_iff (hd : d.derived = [])
    {isDeclared : ArtifactType → String → Bool} :
    (∀ o ∈ d.withDefaults.artifactObligations, o.Met isDeclared)
      ↔ ∀ t name spec, d.sections.find? t name = some spec →
          ∀ target type, (target, type) ∈ spec.artifactReferences →
            isDeclared type target = true := by
  unfold artifactObligations
  simp only [List.forall_mem_flatMap, List.forall_mem_filter, Prod.forall, Dict.mem_entries_iff,
    met_artifactObligations_iff, decide_eq_true_eq, mem_derived_withDefaults_iff, hd,
    List.not_mem_nil, false_or]
  constructor
  · intro h t name spec hfind
    have hkept := find?_withDefaults_of_some hfind
    -- a type with a declared entry is not derived, so its specs are asked
    have hasked : ¬(t ∈ derivableTypes ∧ d.lacks t = true) := by
      rintro ⟨-, hlacks⟩
      rw [lacks_iff.mp hlacks name] at hfind
      cases hfind
    cases hsection : Dict.get? d.withDefaults.sections t with
    | none =>
      rw [Sections.find?, Sections.ofType, hsection] at hkept
      cases hkept
    | some entries =>
      rw [Sections.find?, Sections.ofType, hsection] at hkept
      exact h t entries hsection hasked name spec hkept
  · intro h t entries hsection hasked name spec hget
    refine h t name spec ?_
    have hkept := find?_withDefaults d t name
    rw [if_neg hasked, Sections.find?, Sections.ofType, hsection] at hkept
    rw [← hkept, ← hget]
    rfl

/-- **The obligations of a declaration by itself**, once the derived sections are there,
are about what the author declared. -/
theorem met_obligations_withDefaults_iff :
    (∀ o ∈ d.withDefaults.obligations, o.Met d.withDefaults.knows)
      ↔ (∀ name spec word, d.sections.find? .valueObject name = some spec →
          spec.kind = some word → ∃ kind : ValueKind, word = kind.tag) ∧
        (∀ t ∈ valueObjectUsers, ∀ name spec, d.sections.find? t name = some spec →
          ∀ value ∈ spec.valueObjectReferences,
            value ∈ d.declared .valueObject ∨ value = "uuid" ∨ value = "process_uuid") ∧
        (∀ name command, d.sections.find? .command name = some command →
          ∃ entity ∈ d.declared .entity, command.entity = some entity) ∧
        (∀ name command event next, d.sections.find? .command name = some command →
          command.events.get? event = some (.next next) → next ∈ d.declared .command) ∧
        (∀ t ∈ [ArtifactType.readModel, .commandHandler, .queryHandler], ∀ name spec entity,
          d.sections.find? t name = some spec → spec.entity = some entity →
            entity ∈ d.declared .entity) := by
  -- of the sections that are asked about, only that of the read models may be derived
  have hfind {t : ArtifactType} (ht : t ∉ derivableTypes) (name : String) :
      d.withDefaults.sections.find? t name = d.sections.find? t name :=
    find?_withDefaults_of_not_mem ht d name
  have hentity (name : String) :
      d.withDefaults.knows .entity name = true ↔ name ∈ d.declared .entity :=
    knows_withDefaults_iff (by decide) (by decide)
  have hcommand (name : String) :
      d.withDefaults.knows .command name = true ↔ name ∈ d.declared .command :=
    knows_withDefaults_iff (by decide) (by decide)
  simp only [met_obligations_iff, hfind (t := .valueObject) (by decide),
    hfind (t := .entity) (by decide), hfind (t := .command) (by decide),
    hfind (t := .commandHandler) (by decide), hfind (t := .queryHandler) (by decide),
    hfind (t := .migrations) (by decide), hentity, hcommand, knows_withDefaults_valueObject_iff,
    valueObjectUsers, List.forall_mem_cons, List.not_mem_nil, false_implies, implies_true,
    and_true]
  constructor
  · rintro ⟨kinds, entities, readModels, commands, handlers, queries, migrations⟩
    have declared (name : String) (spec : Spec)
        (h : d.sections.find? .readModel name = some spec) :=
      readModels name spec (find?_withDefaults_of_some h)
    exact ⟨fun name spec word h => kinds name spec h word,
      ⟨entities, fun name spec h => (declared name spec h).2,
        fun name spec h => (commands name spec h).2.1, migrations⟩,
      fun name command h => (commands name command h).1,
      fun name command event next h => (commands name command h).2.2 event next,
      fun name spec entity h => (declared name spec h).1 entity,
      fun name spec entity h => handlers name spec h entity,
      fun name spec entity h => queries name spec h entity⟩
  · rintro ⟨kinds, ⟨entities, readModels, values, migrations⟩, commands, outcomes, bound,
      handlers, queries⟩
    have declared (name : String) (spec : Spec)
        (h : d.sections.find? .readModel name = some spec) :=
      And.intro (fun entity => bound name spec entity h) (readModels name spec h)
    exact ⟨fun name spec h word => kinds name spec word h, entities,
      fun name spec h => met_readModel_withDefaults entities declared h,
      fun name command h => ⟨commands name command h, values name command h,
        fun event next => outcomes name command event next h⟩,
      fun name spec h entity => handlers name spec entity h,
      fun name spec h entity => queries name spec entity h, migrations⟩

/-! ### Soundness -/

/-- **The sections can be merged when the declaration is sound.** -/
theorem merges_iff_sound (hd : d.derived = []) :
    (∃ s, d.withDefaults.merge = .ok s) ↔ d.Sound := by
  simp only [merge_eq_ok_iff, met_obligations_withDefaults_iff,
    met_artifactObligations_withDefaults_iff hd]
  constructor
  · rintro ⟨_, ⟨kinds, valueObjects, commands, outcomes, entities⟩, repositories, artifacts, -⟩
    -- what is there in the end is known only once every command is bound
    have hbound : d.CommandsBound := by
      intro name command h
      obtain ⟨entity, -, bound⟩ := commands name command h
      exact ⟨entity, bound⟩
    rw [met_repositoryObligations_iff (boundEntities_subset commands)
      (queriedEntities_subset (entities .queryHandler (by decide)))] at repositories
    refine ⟨kinds, valueObjects, commands, outcomes, fun t ht => ?_, ?_⟩
    · rcases List.mem_append.mp ht with ht | ht
      · exact entities t ht
      · exact repositories t ht
    · intro t name spec target type h href
      exact hbound.has_merged_iff.mp (artifacts t name spec h target type href)
  · intro h
    refine ⟨_, ⟨h.kinds, h.valueObjects, h.commands, h.outcomes,
      fun t ht => h.entities t (List.mem_append_left _ ht)⟩, ?_, ?_, rfl⟩
    · rw [met_repositoryObligations_iff (boundEntities_subset h.commands)
        (queriedEntities_subset (h.entities .queryHandler (by decide)))]
      exact fun concrete hc => h.entities concrete (List.mem_append_right _ hc)
    · intro t name spec hs target type href
      exact h.commandsBound.has_merged_iff.mpr (h.artifacts t name spec target type hs href)

/-- The entities of concrete repositories of a sound declaration are declared. -/
theorem Sound.entity_mem_of_find?_assemble (h : d.Sound) {concrete : ArtifactType}
    (hc : concrete ∈ ArtifactType.repositories) {name entity : String} {spec : Spec}
    (hfind : d.withDefaults.assemble.find? concrete name = some spec)
    (hentity : spec.entity = some entity) : entity ∈ d.declared .entity :=
  Declaration.entity_mem_of_find?_assemble (boundEntities_subset h.commands)
    (queriedEntities_subset (h.entities .queryHandler (by decide)))
    (fun concrete hc => h.entities concrete (List.mem_append_right _ hc)) hc hfind hentity

theorem derived_of_ofDomain {dom : Domain} (h : Declaration.ofDomain dom = .ok d) :
    d.derived = [] := by
  rw [ofDomain, Except.bind_eq_ok_iff] at h
  obtain ⟨parts, -, h⟩ := h
  obtain rfl := Except.ok.inj h
  rfl

end Declaration

/-- **The blueprint of a domain** is laid out from a sound declaration, with everything that
was left out and everything that was brought. -/
theorem Domain.exists_of_expand {dom : Domain} {b : Blueprint} (h : dom.expand = .ok b) :
    Name.isValid dom.name = true ∧ ∃ d, Declaration.ofDomain dom = .ok d ∧ d.Sound ∧
      .ofSections dom.name d.withDefaults.assemble.addInterfaces = b := by
  obtain ⟨hvalidate, d, hd, s, hs, rfl⟩ := Domain.expand_eq_ok_iff.mp h
  have hsound : d.Sound :=
    (Declaration.merges_iff_sound (Declaration.derived_of_ofDomain hd)).mp ⟨s, hs⟩
  obtain ⟨-, -, -, rfl⟩ := Declaration.merge_eq_ok_iff.mp hs
  exact ⟨(Domain.validate_eq_ok_iff.mp hvalidate).1, d, hd, hsound, rfl⟩

/-- **Which domains are accepted**: those with a valid name and the required sections,
all of which can be read and are sound. -/
theorem Domain.expands_iff {dom : Domain} :
    (∃ b, dom.expand = .ok b)
      ↔ (dom.name ≠ "" ∧ ∀ c ∈ dom.name.toList,
          Text.isAlphanumeric c = true ∨ c = '_' ∨ c = '-') ∧
        (∀ t ∈ [ArtifactType.entity, .valueObject, .command],
          dom.sections.contains t.tag = true) ∧
        ∃ d, Declaration.ofDomain dom = .ok d ∧ d.Sound := by
  have hname : Name.isValid dom.name = true ↔ dom.name ≠ "" ∧ ∀ c ∈ dom.name.toList,
      Text.isAlphanumeric c = true ∨ c = '_' ∨ c = '-' := by
    simp [Name.isValid, or_assoc]
  simp only [Domain.expand_eq_ok_iff, Domain.validate_eq_ok_iff, hname, and_assoc]
  constructor
  · rintro ⟨b, hvalid, hchars, hsections, d, hd, s, hs, -⟩
    exact ⟨hvalid, hchars, hsections, d, hd,
      (Declaration.merges_iff_sound (Declaration.derived_of_ofDomain hd)).mp ⟨s, hs⟩⟩
  · rintro ⟨hvalid, hchars, hsections, d, hd, hsound⟩
    obtain ⟨s, hs⟩ := (Declaration.merges_iff_sound (Declaration.derived_of_ofDomain hd)).mpr hsound
    exact ⟨_, hvalid, hchars, hsections, d, hd, s, hs, rfl⟩

end Scaffold
