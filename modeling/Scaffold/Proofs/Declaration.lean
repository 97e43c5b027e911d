import Scaffold.Proofs.Declaration.Parts
import Scaffold.Proofs.Spec.Reader

/-!
# What reading checks

Every name that is read is valid: the names of the entries of all sections, in
whichever place they were declared, and the names of their events, which become
entries later.  No other text is checked; an entity or a target of an argument may be
anything.

## Main definitions

* `Spec.EventsValid` — the names of the events of a spec are valid.

## Main results

* `Declaration.isValid_of_ofDomain` — the names of a declaration.
-/

namespace Scaffold

/-! ### Events -/

/-- The names of the events of a spec are valid. -/
def Spec.EventsValid (spec : Spec) : Prop :=
  ∀ event outcome, spec.events.get? event = some outcome → Name.isValid event = true

/-- What is true of a spec that is read. -/
structure Spec.AsRead (spec : Spec) : Prop where
  /-- The names of its events are valid. -/
  events : spec.EventsValid
  /-- It stands for no repository. -/
  repository : spec.repository = none
  /-- It builds nothing. -/
  products : spec.products = []

theorem Spec.asRead_of_events_eq_empty {spec : Spec} (hevents : spec.events = ∅)
    (hrepository : spec.repository = none) (hproducts : spec.products = []) : spec.AsRead := by
  refine ⟨fun event outcome hget => ?_, hrepository, hproducts⟩
  rw [hevents, Dict.get?_empty] at hget
  cases hget

private theorem isValid_of_readEvents {owner : ArtifactType} {name : String} {node : Node}
    {events : Dict String EventOutcome} (h : readEvents owner name node = .ok events)
    {event : String} {outcome : EventOutcome} (hget : events.get? event = some outcome) :
    Name.isValid event = true := by
  unfold readEvents at h
  split at h
  · rw [Except.bind_eq_ok_iff] at h
    obtain ⟨list, hlist, h⟩ := h
    obtain rfl := Except.ok.inj h
    obtain ⟨entry, -, hentry⟩ :=
      Except.exists_of_mapM_eq_ok hlist (Dict.mem_of_get?_ofList hget)
    unfold readEvent at hentry
    rw [Except.bind_eq_ok_iff] at hentry
    obtain ⟨_, hcheck, hentry⟩ := hentry
    rw [Except.bind_eq_ok_iff] at hentry
    obtain ⟨_, -, hentry⟩ := hentry
    obtain ⟨rfl, -⟩ := Prod.mk.inj (Except.ok.inj hentry)
    exact checkName_eq_ok_iff.mp hcheck
  · cases h

/-! ### Specs -/

/-- One key of a map keeps the names of events valid, and says nothing of repositories or
products. -/
private theorem asRead_of_withKey {owner : ArtifactType} {name key : String}
    {spec out : Spec} {value : Node} (hspec : spec.AsRead)
    (h : spec.withKey owner name key value = .ok out) : out.AsRead := by
  unfold Spec.withKey at h
  split at h
  · obtain ⟨items, -, h⟩ := Except.bind_eq_ok_iff.mp h
    obtain ⟨args, -, h⟩ := Except.bind_eq_ok_iff.mp h
    obtain rfl := Except.ok.inj h
    exact ⟨hspec.events, hspec.repository, hspec.products⟩
  split at h
  · obtain ⟨entity, -, h⟩ := Except.bind_eq_ok_iff.mp h
    obtain rfl := Except.ok.inj h
    exact ⟨hspec.events, hspec.repository, hspec.products⟩
  split at h
  · obtain ⟨kind, -, h⟩ := Except.bind_eq_ok_iff.mp h
    obtain rfl := Except.ok.inj h
    exact ⟨hspec.events, hspec.repository, hspec.products⟩
  split at h
  · obtain ⟨returns, -, h⟩ := Except.bind_eq_ok_iff.mp h
    obtain rfl := Except.ok.inj h
    exact ⟨hspec.events, hspec.repository, hspec.products⟩
  split at h
  · split at h
    · obtain rfl := Except.ok.inj h
      exact ⟨hspec.events, hspec.repository, hspec.products⟩
    · cases h
  split at h
  · obtain ⟨methods, -, h⟩ := Except.bind_eq_ok_iff.mp h
    obtain rfl := Except.ok.inj h
    exact ⟨hspec.events, hspec.repository, hspec.products⟩
  split at h
  · -- the events are read anew
    obtain ⟨events, hevents, h⟩ := Except.bind_eq_ok_iff.mp h
    obtain rfl := Except.ok.inj h
    exact ⟨fun event outcome hget => isValid_of_readEvents hevents hget, hspec.repository,
      hspec.products⟩
  · obtain rfl := Except.ok.inj h
    exact ⟨hspec.events, hspec.repository, hspec.products⟩

/-- **A spec that is read** has valid names of events, stands for no repository and builds
nothing. -/
theorem asRead_of_ofNode {owner : ArtifactType} {name : String} {node : Node} {spec : Spec}
    (h : Spec.ofNode owner name node = .ok spec) : spec.AsRead := by
  unfold Spec.ofNode at h
  split at h
  · obtain rfl := Except.ok.inj h
    exact Spec.asRead_of_events_eq_empty rfl rfl rfl
  · split at h
    · obtain ⟨methods, -, h⟩ := Except.bind_eq_ok_iff.mp h
      obtain rfl := Except.ok.inj h
      exact Spec.asRead_of_events_eq_empty rfl rfl rfl
    · obtain ⟨args, -, h⟩ := Except.bind_eq_ok_iff.mp h
      obtain rfl := Except.ok.inj h
      exact Spec.asRead_of_events_eq_empty rfl rfl rfl
  · exact Except.foldlM_invariant h (Spec.asRead_of_events_eq_empty rfl rfl rfl)
      fun spec entry out hspec hkey => asRead_of_withKey hspec hkey
  · split at h
    · obtain rfl := Except.ok.inj h
      exact Spec.asRead_of_events_eq_empty rfl rfl rfl
    · cases h
  · cases h

/-! ### Sections -/

/-- The names in a section are valid, and its specs are as they are read. -/
def Section.NamesValid (s : Section) : Prop :=
  ∀ name spec, s.get? name = some spec → Name.isValid name = true ∧ spec.AsRead

private theorem namesValid_empty : Section.NamesValid ∅ := by
  intro name spec hget
  rw [Dict.get?_empty] at hget
  cases hget

/-- A section put together from valid entries. -/
private theorem namesValid_ofList {l : List (String × Spec)}
    (h : ∀ e ∈ l, Name.isValid e.1 = true ∧ e.2.AsRead) :
    Section.NamesValid (Dict.ofList l) :=
  fun _ _ hget => h _ (Dict.mem_of_get?_ofList hget)

private theorem namesValid_of_ofNode {owner : ArtifactType} {node : Node} {s : Section}
    (h : Section.ofNode owner node = .ok s) : s.NamesValid := by
  unfold Section.ofNode at h
  split at h
  · obtain rfl := Except.ok.inj h
    exact namesValid_empty
  · obtain ⟨list, hlist, h⟩ := Except.bind_eq_ok_iff.mp h
    obtain rfl := Except.ok.inj h
    refine namesValid_ofList fun e he => ?_
    obtain ⟨entry, -, hentry⟩ := Except.exists_of_mapM_eq_ok hlist he
    obtain ⟨_, hcheck, hentry⟩ := Except.bind_eq_ok_iff.mp hentry
    obtain ⟨spec, hspec, hentry⟩ := Except.bind_eq_ok_iff.mp hentry
    obtain rfl := Except.ok.inj hentry
    exact ⟨checkName_eq_ok_iff.mp hcheck, asRead_of_ofNode hspec⟩
  · split at h
    · obtain ⟨list, hlist, h⟩ := Except.bind_eq_ok_iff.mp h
      obtain rfl := Except.ok.inj h
      refine namesValid_ofList fun e he => ?_
      obtain ⟨node, -, hnode⟩ := Except.exists_of_mapM_eq_ok hlist he
      unfold readValueObjectName at hnode
      split at hnode
      · obtain ⟨_, hcheck, hnode⟩ := Except.bind_eq_ok_iff.mp hnode
        obtain rfl := Except.ok.inj hnode
        exact ⟨checkName_eq_ok_iff.mp hcheck, Spec.asRead_of_events_eq_empty rfl rfl rfl⟩
      · cases hnode
    · cases h
  · cases h

namespace Declaration

private theorem namesValid_of_repositoryPart {key : String} {node : Node}
    {part : ArtifactType × Section} (h : repositoryPart key node = .ok part) :
    part.2.NamesValid := by
  unfold repositoryPart at h
  split at h
  · obtain ⟨s, hs, h⟩ := Except.bind_eq_ok_iff.mp h
    obtain rfl := Except.ok.inj h
    exact namesValid_of_ofNode hs
  · obtain ⟨_, hcheck, h⟩ := Except.bind_eq_ok_iff.mp h
    obtain ⟨spec, hspec, h⟩ := Except.bind_eq_ok_iff.mp h
    obtain rfl := Except.ok.inj h
    refine namesValid_ofList fun e he => ?_
    obtain rfl := List.mem_singleton.mp he
    exact ⟨checkName_eq_ok_iff.mp hcheck, asRead_of_ofNode hspec⟩

private theorem namesValid_of_sectionParts {tag : String} {node : Node}
    {parts : List (ArtifactType × Section)} (h : sectionParts tag node = .ok parts) :
    ∀ part ∈ parts, part.2.NamesValid := by
  intro part hpart
  unfold sectionParts at h
  split at h
  · have hparts := liftSpec_eq_ok_iff.mp h
    unfold repositoryParts at hparts
    split at hparts
    · obtain rfl := Except.ok.inj hparts
      cases hpart
    · obtain ⟨entry, -, hentry⟩ := Except.exists_of_mapM_eq_ok hparts hpart
      exact namesValid_of_repositoryPart hentry
    · cases hparts
  · split at h
    · cases h
    · have hparts := liftSpec_eq_ok_iff.mp h
      obtain ⟨s, hs, hparts⟩ := Except.bind_eq_ok_iff.mp hparts
      obtain rfl := Except.ok.inj hparts
      obtain rfl := List.mem_singleton.mp hpart
      exact namesValid_of_ofNode hs

/-! ### Declarations -/

/-- **The names of a declaration are valid**, and its specs are as they are read. -/
theorem asRead_of_ofDomain {dom : Domain} {d : Declaration} (h : ofDomain dom = .ok d)
    {t : ArtifactType} {name : String} {spec : Spec} (hspec : d.sections.find? t name = some spec) :
    Name.isValid name = true ∧ spec.AsRead := by
  obtain ⟨lists, hlists, rfl⟩ := ofDomain_eq_ok_iff.mp h
  have hfind : (assembleParts lists.flatten).find? t name = some spec := hspec
  rw [find?_assembleParts] at hfind
  -- the spec is in one of the parts
  obtain ⟨part, hpart, hanswer⟩ := List.exists_of_findSome?_eq_some hfind
  rw [partAt, Option.ite_none_right_eq_some] at hanswer
  obtain ⟨list, hlist, hpart⟩ := List.mem_flatten.mp (List.mem_reverse.mp hpart)
  obtain ⟨entry, -, hentry⟩ := Except.exists_of_mapM_eq_ok hlists hlist
  exact namesValid_of_sectionParts hentry part hpart name spec hanswer.2

theorem isValid_of_ofDomain {dom : Domain} {d : Declaration} (h : ofDomain dom = .ok d)
    {t : ArtifactType} {name : String} {spec : Spec} (hspec : d.sections.find? t name = some spec) :
    Name.isValid name = true ∧ spec.EventsValid :=
  (asRead_of_ofDomain h hspec).imp_right Spec.AsRead.events

end Declaration

end Scaffold
