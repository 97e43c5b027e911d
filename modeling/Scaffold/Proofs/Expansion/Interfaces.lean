import Mathlib.Data.List.TakeWhile
import Scaffold.Proofs.Declaration
import Scaffold.Proofs.Expansion.Acceptance
import Scaffold.Proofs.Naming

/-!
# The interfaces of repositories

The interface of a repository is kept under the tag of its type, a dot and its name.
Neither tags nor the names that an author may write hold a dot, so the key tells which
repository an interface belongs to, and no declared interface stands in its place.  The
interface is bound to the entity of its repository and called after that.

## Main results

* `repositoryInterfaceKey_inj` — what a key tells.
* `Declaration.find?_repositoryInterfaceKey` — what stands under a key.
* `Declaration.isValid_of_mem_names` — the names of everything else are valid.
* `Leaf.emittedName_of_repositoryInterfaceSpec` — what an interface is called.
-/

namespace Scaffold

/-! ### Keys -/

theorem afterDot?_append {before after : String} (h : '.' ∉ before.toList) :
    Leaf.afterDot? (before ++ "." ++ after) = some after := by
  have hdot : (before ++ "." ++ after).toList = before.toList ++ '.' :: after.toList := by
    simp [String.toList_append]
  have hdrop : (before ++ "." ++ after).toList.dropWhile (· != '.') = '.' :: after.toList := by
    rw [hdot, List.dropWhile_append_of_pos fun c hc => ?_]
    · rfl
    · exact bne_iff_ne.mpr fun heq => h (heq ▸ hc)
  rw [Leaf.afterDot?, hdrop]
  exact congrArg some String.ofList_toList

theorem afterDot?_of_not_mem {name : String} (h : '.' ∉ name.toList) :
    Leaf.afterDot? name = none := by
  have hdrop : name.toList.dropWhile (· != '.') = [] := by
    refine List.dropWhile_eq_nil_iff.mpr fun c hc => bne_iff_ne.mpr ?_
    rintro rfl
    exact h hc
  rw [Leaf.afterDot?, hdrop]

@[simp] theorem afterDot?_repositoryInterfaceKey (concrete : ArtifactType) (name : String) :
    Leaf.afterDot? (repositoryInterfaceKey concrete name) = some name :=
  afterDot?_append (mark_not_mem_tag isMark_dot concrete)

theorem dot_mem_repositoryInterfaceKey (concrete : ArtifactType) (name : String) :
    '.' ∈ (repositoryInterfaceKey concrete name).toList := by
  simp [repositoryInterfaceKey, String.toList_append]

/-- **A key tells the type and the name** of a repository. -/
theorem repositoryInterfaceKey_inj {t u : ArtifactType} {m n : String} :
    repositoryInterfaceKey t m = repositoryInterfaceKey u n ↔ t = u ∧ m = n := by
  refine ⟨fun h => ?_, fun ⟨ht, hn⟩ => by rw [ht, hn]⟩
  have hname : m = n := by
    have hafter := congrArg Leaf.afterDot? h
    rw [afterDot?_repositoryInterfaceKey, afterDot?_repositoryInterfaceKey] at hafter
    exact Option.some.inj hafter
  subst hname
  rw [repositoryInterfaceKey, repositoryInterfaceKey, String.append_assoc, String.append_assoc,
    String.append_left_inj] at h
  exact ⟨ArtifactType.tag_injective h, rfl⟩

/-! ### What stands under a key -/

namespace Declaration

variable {d : Declaration}

/-- Nothing but its author brings the interface of a repository, before the repositories
themselves do. -/
theorem find?_assemble_repositoryInterface (d : Declaration) (key : String) :
    d.withDefaults.assemble.find? .repositoryInterface key
      = d.sections.find? .repositoryInterface key := by
  rw [find?_assemble_of_not_mem (Set.notMem_empty key), find?_withDefaults_of_not_mem (by decide)]

/-- **An interface is declared, or it is that of a repository.** -/
theorem find?_repositoryInterface_cases {key : String} {spec : Spec}
    (h : d.withDefaults.assemble.addInterfaces.find? .repositoryInterface key = some spec) :
    d.sections.find? .repositoryInterface key = some spec ∨
      ∃ concrete ∈ ArtifactType.repositories, ∃ name own,
        d.withDefaults.assemble.find? concrete name = some own ∧
        repositoryInterfaceKey concrete name = key ∧
        spec = repositoryInterfaceSpec concrete name own := by
  rw [← find?_assemble_repositoryInterface]
  exact Sections.find?_addInterfaces_cases h

/-- **Under the key of a repository** stands its interface, which is bound to its entity. -/
theorem find?_repositoryInterfaceKey
    (hvalid : ∀ name spec, d.sections.find? .repositoryInterface name = some spec →
      Name.isValid name = true)
    {concrete : ArtifactType} {name : String} {spec : Spec}
    (h : d.withDefaults.assemble.addInterfaces.find? .repositoryInterface
      (repositoryInterfaceKey concrete name) = some spec) :
    ∃ own, d.withDefaults.assemble.find? concrete name = some own ∧
      spec = repositoryInterfaceSpec concrete name own := by
  rcases find?_repositoryInterface_cases h with hown | ⟨_, -, _, own, hown, hkey, rfl⟩
  · -- an author cannot write the key
    exact absurd (dot_mem_repositoryInterfaceKey concrete name)
      (Name.dot_not_mem_of_isValid (hvalid _ _ hown))
  · obtain ⟨rfl, rfl⟩ := repositoryInterfaceKey_inj.mp hkey
    exact ⟨own, hown, rfl⟩

/-! ### Valid names -/

/-- **The names of all artifacts are valid**, whatever brought them, apart from the keys of
the interfaces of repositories. -/
theorem isValid_of_mem_names
    (hread : ∀ t name spec, d.sections.find? t name = some spec →
      Name.isValid name = true ∧ spec.EventsValid)
    (hsound : d.Sound) {t : ArtifactType} (ht : t ≠ .repositoryInterface) {name : String}
    (h : name ∈ d.names t) : Name.isValid name = true := by
  have hdeclared {u : ArtifactType} (h : name ∈ d.declared u) : Name.isValid name = true := by
    obtain ⟨spec, h⟩ := mem_declared_iff.mp h
    exact (hread u name spec h).1
  have hentity (h : name ∈ d.boundEntities) : Name.isValid name = true :=
    hdeclared (boundEntities_subset hsound.commands h)
  have hqueried (h : name ∈ d.queriedEntities) : Name.isValid name = true :=
    hdeclared (queriedEntities_subset (hsound.entities .queryHandler (by decide)) h)
  have hevent (h : name ∈ d.emittedEvents) : Name.isValid name = true := by
    obtain ⟨n, command, outcome, hcommand, emits⟩ := h
    exact (hread .command n command hcommand).2 name outcome emits
  have hfamily (h : name ∈ d.stockedFamilies) : Name.isValid name = true := by
    obtain ⟨members, hmem, -⟩ := h
    simp only [families, List.mem_cons, Prod.mk.injEq, List.not_mem_nil, or_false] at hmem
    rcases hmem with ⟨rfl, -⟩ | ⟨rfl, -⟩ | ⟨rfl, -⟩ | ⟨rfl, -⟩ | ⟨rfl, -⟩ | ⟨rfl, -⟩ <;> decide
  cases t with
  | repositoryInterface => exact absurd rfl ht
  | entityInterface | commandTask | commandHandlerTask | dtoInterface | serviceInterface =>
    exact h.elim hdeclared hdeclared
  | readModel | repositoryEntityStore | repositoryEventSourcingStore | repositoryReadModel =>
    exact h.elim hdeclared fun h => hdeclared h.2
  | projector => exact h.elim hdeclared fun h => hentity h.2
  | repositoryQueryStore => exact h.elim hdeclared fun h => hqueried h.2
  | repositoryTask => exact h.elim hdeclared hentity
  | event => exact h.elim hdeclared hevent
  | factory => exact h.elim hdeclared hfamily
  | factoryInterface => exact h.elim hdeclared fun h => hfamily h.1
  | _ => exact hdeclared h

/-- **The entity of an interface** is as the author wrote it, or it is a valid name. -/
theorem entity_of_repositoryInterface
    (hread : ∀ t name spec, d.sections.find? t name = some spec →
      Name.isValid name = true ∧ spec.EventsValid)
    (hsound : d.Sound) {key : String} {spec : Spec}
    (h : d.withDefaults.assemble.addInterfaces.find? .repositoryInterface key = some spec) :
    d.sections.find? .repositoryInterface key = some spec ∨
      ∃ entity, spec.entity = some entity ∧ Name.isValid entity = true := by
  rcases find?_repositoryInterface_cases h with hown | ⟨concrete, hc, name, own, hown, -, rfl⟩
  · exact .inl hown
  · refine .inr ⟨own.entity.getD name, rfl, ?_⟩
    cases hentity : own.entity with
    | some entity =>
      -- concrete repositories are checked, whoever made them
      have hmem := hsound.entity_mem_of_find?_assemble hc hown hentity
      obtain ⟨declaration, hdeclared⟩ := mem_declared_iff.mp hmem
      exact (hread .entity entity declaration hdeclared).1
    | none =>
      have hne : concrete ≠ .repositoryInterface := by
        rintro rfl
        exact absurd hc (by decide)
      have hmem : name ∈ d.names concrete := by
        rw [← hsound.commandsBound.has_merged_iff, Sections.has,
          Sections.find?_addInterfaces_of_ne hne, hown, Option.isSome_some]
      exact isValid_of_mem_names hread hsound hne hmem

end Declaration

/-! ### What interfaces are called -/

theorem Leaf.names_of_ne {l : Leaf} (h : l.type ≠ .repositoryInterface) :
    l.names = resolve l.type l.name := if_neg h

theorem Leaf.emittedName_of_repositoryInterface {l : Leaf} (h : l.type = .repositoryInterface) :
    l.names.emittedName = interfaceName (l.spec.repository.getD .repository) l.abstractedName := by
  unfold Leaf.names
  rw [if_pos h]
  unfold ResolvedNames.emittedName
  rw [if_pos (by rw [h]; rfl)]
  rfl

/-- The interface of a repository is called after the entity that the repository is bound
to. -/
theorem Leaf.emittedName_of_repositoryInterfaceSpec {l : Leaf} {concrete : ArtifactType}
    {name : String} {own : Spec} (h : l.type = .repositoryInterface)
    (hspec : l.spec = repositoryInterfaceSpec concrete name own) :
    l.names.emittedName = interfaceName concrete (own.entity.getD name) := by
  rw [emittedName_of_repositoryInterface h, abstractedName, hspec]
  rfl

/-- **The interface of a repository** is called after the entity of the repository. -/
theorem Declaration.emittedName_of_repository {d : Declaration}
    (hvalid : ∀ name spec, d.sections.find? .repositoryInterface name = some spec →
      Name.isValid name = true)
    {concrete : ArtifactType} (hc : concrete.isRepository = true) {name : String} {own : Spec}
    (hown : d.withDefaults.assemble.addInterfaces.find? concrete name = some own)
    {l : Leaf} (htype : l.type = .repositoryInterface)
    (hname : l.name = repositoryInterfaceKey concrete name)
    (hl : d.withDefaults.assemble.addInterfaces.find? l.type l.name = some l.spec) :
    l.names.emittedName = interfaceName concrete (own.entity.getD name) := by
  rw [htype, hname] at hl
  obtain ⟨own', hassembled, hspec⟩ := find?_repositoryInterfaceKey hvalid hl
  have hne : concrete ≠ .repositoryInterface := by
    rintro rfl
    cases hc
  rw [Sections.find?_addInterfaces_of_ne hne, hassembled] at hown
  obtain rfl := Option.some.inj hown
  exact Leaf.emittedName_of_repositoryInterfaceSpec htype hspec

end Scaffold
