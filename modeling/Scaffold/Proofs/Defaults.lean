import Mathlib.Data.Set.Basic
import Scaffold.Declaration.Defaults
import Scaffold.Proofs.Sections

/-!
# What is derived

A type that is derivable and of which nothing is declared has the entries that are
derived for it; any other type keeps what was declared.  Every derived entry goes by
the name of an entity and is bound to it.

## Main definitions

* `Declaration.declared` — the names of a type.
* `Declaration.boundEntities`, `Declaration.queriedEntities` — the entities that
  commands and handlers of queries name.
* `Declaration.derivedNames` — the names that are derived for a type.

## Main results

* `Declaration.get?_withDefaults`, `Declaration.find?_withDefaults`,
  `Declaration.mem_derived_withDefaults_iff` — the declaration with everything that is
  derived.
* `Declaration.contains_derivedSection_iff`, `Declaration.of_get?_derivedSection` — the
  derived sections.
* `Declaration.declared_withDefaults` — the names with everything that is derived.
-/

namespace Scaffold.Declaration

/-! ### The walk over the derivable types -/

private theorem get?_foldl_derive (d e : Declaration) (ts : List ArtifactType)
    (t : ArtifactType) :
    Dict.get? (ts.foldl (derive d) e).sections t
      = if t ∈ ts ∧ d.lacks t = true then some (d.derivedSection t)
        else Dict.get? e.sections t := by
  induction ts generalizing e with
  | nil => simp
  | cons u ts ih =>
    rw [List.foldl_cons, ih]
    -- what is lacking is asked of `d`, which the walk does not change
    by_cases hts : t ∈ ts ∧ d.lacks t = true
    · rw [if_pos hts, if_pos ⟨List.mem_cons_of_mem _ hts.1, hts.2⟩]
    · rw [if_neg hts]
      by_cases hlacks : d.lacks u = true
      · rw [derive, if_pos hlacks, Dict.get?_insert]
        by_cases hu : u = t
        · subst hu
          rw [if_pos rfl, if_pos ⟨List.mem_cons_self, hlacks⟩]
        · rw [if_neg hu, if_neg]
          rintro ⟨hmem, hl⟩
          rcases List.mem_cons.mp hmem with rfl | hmem
          · exact hu rfl
          · exact hts ⟨hmem, hl⟩
      · rw [derive, if_neg hlacks, if_neg]
        rintro ⟨hmem, hl⟩
        rcases List.mem_cons.mp hmem with rfl | hmem
        · exact hlacks hl
        · exact hts ⟨hmem, hl⟩

/-- **A derivable type of which nothing is declared gets the derived section**, and any
other type keeps its own. -/
theorem get?_withDefaults (d : Declaration) (t : ArtifactType) :
    Dict.get? d.withDefaults.sections t
      = if t ∈ derivableTypes ∧ d.lacks t = true then some (d.derivedSection t)
        else Dict.get? d.sections t :=
  get?_foldl_derive d d derivableTypes t

theorem find?_withDefaults (d : Declaration) (t : ArtifactType) (name : String) :
    d.withDefaults.sections.find? t name
      = if t ∈ derivableTypes ∧ d.lacks t = true then (d.derivedSection t).get? name
        else d.sections.find? t name := by
  rw [Sections.find?, Sections.ofType, get?_withDefaults]
  split
  · rfl
  · rfl

private theorem derived_foldl_derive (d e : Declaration) (ts : List ArtifactType) :
    (ts.foldl (derive d) e).derived = e.derived ++ ts.filter d.lacks := by
  induction ts generalizing e with
  | nil => rw [List.foldl_nil, List.filter_nil, List.append_nil]
  | cons u ts ih =>
    rw [List.foldl_cons, ih, derive]
    by_cases hlacks : d.lacks u = true
    · rw [if_pos hlacks, List.filter_cons_of_pos hlacks, List.append_assoc]
      rfl
    · rw [if_neg hlacks, List.filter_cons_of_neg hlacks]

theorem mem_derived_withDefaults_iff {d : Declaration} {t : ArtifactType} :
    t ∈ d.withDefaults.derived ↔ t ∈ d.derived ∨ t ∈ derivableTypes ∧ d.lacks t = true := by
  rw [withDefaults, derived_foldl_derive, List.mem_append, List.mem_filter]

theorem lacks_iff {d : Declaration} {t : ArtifactType} :
    d.lacks t = true ↔ ∀ name, d.sections.find? t name = none := Sections.isEmpty_ofType_iff

/-- What is declared is never replaced by what is derived. -/
theorem find?_withDefaults_of_some {d : Declaration} {t : ArtifactType} {name : String}
    {spec : Spec} (h : d.sections.find? t name = some spec) :
    d.withDefaults.sections.find? t name = some spec := by
  rw [find?_withDefaults, if_neg, h]
  rintro ⟨-, hlacks⟩
  rw [lacks_iff.mp hlacks name] at h
  cases h

theorem find?_withDefaults_of_not_mem {t : ArtifactType} (ht : t ∉ derivableTypes)
    (d : Declaration) (name : String) :
    d.withDefaults.sections.find? t name = d.sections.find? t name := by
  rw [find?_withDefaults, if_neg fun h => ht h.1]

theorem entries_withDefaults_of_not_mem {t : ArtifactType} (ht : t ∉ derivableTypes)
    (d : Declaration) : d.withDefaults.entries t = d.entries t := by
  have hget : Dict.get? d.withDefaults.sections t = Dict.get? d.sections t := by
    rw [get?_withDefaults, if_neg fun h => ht h.1]
  rw [entries, Sections.entriesAt, Sections.ofType, hget]
  rfl

/-! ### The derived sections -/

/-- The names that are declared for a type. -/
def declared (d : Declaration) (t : ArtifactType) : Set String := {name | d.has t name = true}

/-- The entities to which commands are bound. -/
def boundEntities (d : Declaration) : Set String :=
  {entity | ∃ name command, d.sections.find? .command name = some command ∧
    command.entity = some entity}

/-- The entities that handlers of queries name. -/
def queriedEntities (d : Declaration) : Set String :=
  {entity | ∃ name handler, d.sections.find? .queryHandler name = some handler ∧
    handler.entity = some entity}

/-- The names that are derived for a type, should nothing be declared of it. -/
def derivedNames (d : Declaration) : ArtifactType → Set String
  | .readModel | .repositoryEntityStore | .repositoryEventSourcingStore
  | .repositoryReadModel => d.declared .entity
  | .projector => d.boundEntities
  | .repositoryQueryStore => d.queriedEntities
  | _ => ∅

/-- The names that are declared for a type, or others should there be none. -/
def declaredOr (d : Declaration) (t : ArtifactType) (others : Set String) : Set String :=
  {name | name ∈ d.declared t ∨ d.declared t = ∅ ∧ name ∈ others}

theorem mem_declared_iff {d : Declaration} {t : ArtifactType} {name : String} :
    name ∈ d.declared t ↔ ∃ spec, d.sections.find? t name = some spec := Sections.has_iff

theorem mem_entries_iff {d : Declaration} {t : ArtifactType} {name : String} {spec : Spec} :
    (name, spec) ∈ d.entries t ↔ d.sections.find? t name = some spec :=
  Sections.mem_entriesAt_iff

private theorem mem_entries_entity_iff {d : Declaration} {name : String} :
    (∃ e ∈ d.entries .entity, e.1 = name) ↔ name ∈ d.declared .entity := by
  rw [mem_declared_iff]
  constructor
  · rintro ⟨⟨_, spec⟩, hmem, rfl⟩
    exact ⟨spec, mem_entries_iff.mp hmem⟩
  · rintro ⟨spec, h⟩
    exact ⟨(name, spec), mem_entries_iff.mpr h, rfl⟩

/-- The entities that the entries of a type name. -/
private theorem mem_filterMap_entity_iff {d : Declaration} {t : ArtifactType} {entity : String} :
    (∃ e ∈ (d.entries t).filterMap fun (_, spec) => spec.entity, e = entity)
      ↔ ∃ name spec, d.sections.find? t name = some spec ∧ spec.entity = some entity := by
  simp only [List.mem_filterMap, Prod.exists, mem_entries_iff]
  constructor
  · rintro ⟨_, h, rfl⟩
    exact h
  · intro h
    exact ⟨entity, h, rfl⟩

/-- **For whom there is a derived entry.** -/
theorem contains_derivedSection_iff {d : Declaration} {t : ArtifactType} {name : String} :
    (d.derivedSection t).contains name = true ↔ name ∈ d.derivedNames t := by
  cases t with
  | readModel => exact Dict.contains_ofList_map.trans mem_entries_entity_iff
  | repositoryEntityStore => exact Dict.contains_ofList_map.trans mem_entries_entity_iff
  | repositoryEventSourcingStore => exact Dict.contains_ofList_map.trans mem_entries_entity_iff
  | repositoryReadModel => exact Dict.contains_ofList_map.trans mem_entries_entity_iff
  | projector => exact Dict.contains_ofList_map.trans mem_filterMap_entity_iff
  | repositoryQueryStore => exact Dict.contains_ofList_map.trans mem_filterMap_entity_iff
  | _ => exact iff_of_false Bool.false_ne_true (Set.notMem_empty name)

/-- **A derived entry is bound to the entity of its name**, and only the derived stores
of events have no interface. -/
theorem of_get?_derivedSection {d : Declaration} {t : ArtifactType} {name : String} {spec : Spec}
    (h : (d.derivedSection t).get? name = some spec) :
    spec.entity = some name ∧
      spec.repositoryInterface = decide (t ≠ .repositoryEventSourcingStore) := by
  cases t with
  | readModel =>
    obtain ⟨e, -, rfl, rfl⟩ := Dict.of_get?_ofList_map h
    exact ⟨rfl, rfl⟩
  | repositoryEntityStore =>
    obtain ⟨e, -, rfl, rfl⟩ := Dict.of_get?_ofList_map h
    exact ⟨rfl, rfl⟩
  | repositoryEventSourcingStore =>
    obtain ⟨e, -, rfl, rfl⟩ := Dict.of_get?_ofList_map h
    exact ⟨rfl, rfl⟩
  | repositoryReadModel =>
    obtain ⟨e, -, rfl, rfl⟩ := Dict.of_get?_ofList_map h
    exact ⟨rfl, rfl⟩
  | projector =>
    obtain ⟨e, -, rfl, rfl⟩ := Dict.of_get?_ofList_map h
    exact ⟨rfl, rfl⟩
  | repositoryQueryStore =>
    obtain ⟨e, -, rfl, rfl⟩ := Dict.of_get?_ofList_map h
    exact ⟨rfl, rfl⟩
  | _ => cases h

/-- A derived read model takes what its entity takes. -/
theorem of_get?_derivedReadModels {d : Declaration} {name : String} {spec : Spec}
    (h : d.derivedReadModels.get? name = some spec) :
    ∃ entity, d.sections.find? .entity name = some entity ∧
      spec = { args := entity.args, entity := some name } := by
  obtain ⟨⟨n, entity⟩, hmem, rfl, rfl⟩ := Dict.of_get?_ofList_map h
  exact ⟨entity, mem_entries_iff.mp hmem, rfl⟩

/-! ### The names with everything that is derived -/

theorem lacks_iff_declared_eq_empty {d : Declaration} {t : ArtifactType} :
    d.lacks t = true ↔ d.declared t = ∅ := by
  rw [lacks_iff, Set.eq_empty_iff_forall_notMem]
  refine forall_congr' fun name => ?_
  rw [mem_declared_iff, Option.eq_none_iff_forall_ne_some, not_exists]

theorem derivedNames_of_not_mem {t : ArtifactType} (ht : t ∉ derivableTypes)
    (d : Declaration) : d.derivedNames t = ∅ := by
  cases t with
  | readModel => exact absurd (by decide) ht
  | repositoryEntityStore => exact absurd (by decide) ht
  | repositoryEventSourcingStore => exact absurd (by decide) ht
  | repositoryReadModel => exact absurd (by decide) ht
  | projector => exact absurd (by decide) ht
  | repositoryQueryStore => exact absurd (by decide) ht
  | _ => rfl

/-- **The names with everything that is derived** are those that are declared, or else
those that are derived. -/
theorem declared_withDefaults (d : Declaration) (t : ArtifactType) :
    d.withDefaults.declared t = d.declaredOr t (d.derivedNames t) := by
  ext name
  have hhas : name ∈ d.withDefaults.declared t
      ↔ (d.withDefaults.sections.find? t name).isSome = true := Iff.rfl
  rw [hhas, find?_withDefaults]
  by_cases ht : t ∈ derivableTypes
  · by_cases hlacks : d.lacks t = true
    · -- nothing is declared, so the derived names are all there are
      rw [if_pos ⟨ht, hlacks⟩]
      have hempty := lacks_iff_declared_eq_empty.mp hlacks
      have hnone : name ∉ d.declared t := hempty ▸ Set.notMem_empty name
      refine contains_derivedSection_iff.trans ⟨fun h => .inr ⟨hempty, h⟩, ?_⟩
      rintro (h | ⟨-, h⟩)
      · exact absurd h hnone
      · exact h
    · rw [if_neg fun h => hlacks h.2]
      refine ⟨.inl, ?_⟩
      rintro (h | ⟨hempty, -⟩)
      · exact h
      · exact absurd (lacks_iff_declared_eq_empty.mpr hempty) hlacks
  · rw [if_neg fun h => ht h.1]
    refine ⟨.inl, ?_⟩
    rintro (h | ⟨-, h⟩)
    · exact h
    · rw [derivedNames_of_not_mem ht] at h
      exact absurd h (Set.notMem_empty name)

end Scaffold.Declaration
