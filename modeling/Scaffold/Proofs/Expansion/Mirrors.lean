import Scaffold.Proofs.Expansion.Factories
import Scaffold.Proofs.Expansion.Interfaces

/-!
# Entries that mirror others

Some entries are made after an entry of the same name: the interfaces of entities, services
and transfer objects, and the tasks of commands and of their handlers.  They are made early,
but nothing changes the entry they are made after, so in the end the two are equal.  The
interfaces of repositories are made last, when the repositories have all their methods.
And a factory grows together with its interface.

## Main definitions

* `Declaration.copies` — the types whose entries are made after those of another type.

## Main results

* `Declaration.find?_merged_copy` — what is made after an entry equals it.
* `Declaration.find?_merged_repositoryInterfaceKey_iff` — the interfaces of repositories.
* `Declaration.find?_merged_factory` — factories and their interfaces.
-/

namespace Scaffold.Declaration

variable {d : Declaration} {name : String}

/-! ### Copies -/

/-- The types whose entries are made after those of another type, with that type. -/
def copies : List (ArtifactType × ArtifactType) :=
  [(.entityInterface, .entity), (.serviceInterface, .service), (.dtoInterface, .dto),
    (.commandTask, .command), (.commandHandlerTask, .commandHandler)]

/-- Neither side of a copy changes once it is there, and neither is derived. -/
private theorem of_mem_copies : ∀ e ∈ copies,
    (e.1 ∉ gainingTypes ∧ e.1 ∉ derivableTypes ∧ e.1 ≠ .repositoryInterface) ∧
      e.2 ∉ derivableTypes ∧ e.2 ≠ .repositoryInterface := by decide

private theorem broughtNames_of_mem_copies {copy original : ArtifactType}
    (h : (copy, original) ∈ copies) : d.broughtNames original = ∅ := by
  simp only [copies, List.mem_cons, Prod.mk.injEq, List.not_mem_nil, or_false] at h
  rcases h with ⟨-, rfl⟩ | ⟨-, rfl⟩ | ⟨-, rfl⟩ | ⟨-, rfl⟩ | ⟨-, rfl⟩ <;> rfl

/-- A copy is brought for every entry of the other type; commands must be bound for it. -/
theorem CommandsBound.brings_copy_iff (hbound : d.CommandsBound) {copy original : ArtifactType}
    (h : (copy, original) ∈ copies) {spec : Spec} :
    d.Brings (.variant copy name spec) ↔ d.sections.find? original name = some spec := by
  simp only [copies, List.mem_cons, Prod.mk.injEq, List.not_mem_nil, or_false] at h
  rcases h with ⟨rfl, rfl⟩ | ⟨rfl, rfl⟩ | ⟨rfl, rfl⟩ | ⟨rfl, rfl⟩ | ⟨rfl, rfl⟩
  · refine ⟨fun hb => ?_, .entityInterface⟩
    cases hb with
    | entityInterface hfind => exact hfind
  · refine ⟨fun hb => ?_, .serviceInterface⟩
    cases hb with
    | serviceInterface hfind => exact hfind
  · refine ⟨fun hb => ?_, .dtoInterface⟩
    cases hb with
    | dtoInterface hfind => exact hfind
  · constructor
    · intro hb
      cases hb with
      | commandTask hfind bound => exact hfind
    · intro hfind
      obtain ⟨entity, bound⟩ := hbound name spec hfind
      exact .commandTask hfind bound
  · refine ⟨fun hb => ?_, .commandHandlerTask⟩
    cases hb with
    | commandHandlerTask hfind => exact hfind

theorem CommandsBound.withDefaults (hbound : d.CommandsBound) : d.withDefaults.CommandsBound := by
  intro n command hcommand
  rw [find?_withDefaults_of_not_mem (by decide)] at hcommand
  exact hbound n command hcommand

/-- **A copy that nobody declared** equals what it is made after, when everything is there. -/
theorem CommandsBound.find?_merged_copy (hbound : d.CommandsBound)
    {copy original : ArtifactType} (h : (copy, original) ∈ copies)
    (hnone : name ∉ d.declared copy) :
    d.withDefaults.assemble.addInterfaces.find? copy name
      = d.withDefaults.assemble.addInterfaces.find? original name := by
  obtain ⟨⟨hgaining, hderivable, hinterface⟩, -, hinterface'⟩ := of_mem_copies _ h
  have hlacks : d.withDefaults.sections.find? copy name = none := by
    rw [find?_withDefaults_of_not_mem hderivable, Option.eq_none_iff_forall_ne_some]
    intro spec hspec
    exact hnone (mem_declared_iff.mpr ⟨spec, hspec⟩)
  have hcopy := find?_assemble_of_none hgaining hlacks fun spec =>
    hbound.withDefaults.brings_copy_iff h
  have hnot : name ∉ d.withDefaults.broughtNames original := by
    rw [broughtNames_of_mem_copies h]
    exact Set.notMem_empty name
  rw [Sections.find?_addInterfaces_of_ne hinterface, Sections.find?_addInterfaces_of_ne hinterface',
    hcopy, find?_assemble_of_not_mem hnot]

/-! ### Repositories -/

/-- **The interface of a repository** is there exactly when the repository is and has one, and
it is made from the repository as that is in the end. -/
theorem find?_merged_repositoryInterfaceKey_iff
    (hvalid : ∀ name spec, d.sections.find? .repositoryInterface name = some spec →
      Name.isValid name = true)
    {concrete : ArtifactType} (hc : concrete ∈ ArtifactType.repositories) {interface : Spec} :
    d.withDefaults.assemble.addInterfaces.find? .repositoryInterface
        (repositoryInterfaceKey concrete name) = some interface
      ↔ ∃ own, d.withDefaults.assemble.addInterfaces.find? concrete name = some own ∧
          own.repositoryInterface = true ∧
          interface = repositoryInterfaceSpec concrete name own := by
  have hne : concrete ≠ .repositoryInterface := by
    rintro rfl
    exact absurd hc (by decide)
  rw [Sections.find?_addInterfaces_of_ne hne]
  constructor
  · intro h
    obtain ⟨own, hown, rfl⟩ := find?_repositoryInterfaceKey hvalid h
    refine ⟨own, hown, ?_, rfl⟩
    -- an author cannot write the key, so a repository brought the interface
    rcases Sections.has_addInterfaces_iff.mp (Sections.has_iff.mpr ⟨_, h⟩) with
      hhas | ⟨t, -, n, spec, hspec, flag, hkey⟩
    · obtain ⟨spec, hspec⟩ := Sections.has_iff.mp hhas
      rw [find?_assemble_repositoryInterface] at hspec
      exact absurd (dot_mem_repositoryInterfaceKey concrete name)
        (Name.dot_not_mem_of_isValid (hvalid _ _ hspec))
    · obtain ⟨rfl, rfl⟩ := repositoryInterfaceKey_inj.mp hkey
      obtain rfl := Option.some.inj (hspec.symm.trans hown)
      exact flag
  · rintro ⟨own, hown, flag, rfl⟩
    have hhas := Sections.has_addInterfaces_iff.mpr
      (.inr ⟨concrete, hc, name, own, hown, flag, rfl⟩)
    obtain ⟨interface, h⟩ := Sections.has_iff.mp hhas
    obtain ⟨own', hown', rfl⟩ := find?_repositoryInterfaceKey hvalid h
    obtain rfl := Option.some.inj (hown'.symm.trans hown)
    exact h

/-! ### Factories -/

/-- **The interface of a factory that nobody declared** is as the factory is, which nobody
declared either. -/
theorem find?_merged_factory {family : String} {spec : Spec}
    (h : d.withDefaults.assemble.addInterfaces.find? .factoryInterface family = some spec)
    (hnone : family ∉ d.declared .factoryInterface) :
    d.withDefaults.assemble.addInterfaces.find? .factory family = some spec := by
  rw [Sections.find?_addInterfaces_of_ne (by decide)] at h ⊢
  have hlacks : d.withDefaults.sections.find? .factoryInterface family = none := by
    rw [find?_withDefaults_of_not_mem (by decide), Option.eq_none_iff_forall_ne_some]
    intro spec hspec
    exact hnone (mem_declared_iff.mpr ⟨spec, hspec⟩)
  rcases has_assemble_iff.mp (Sections.has_iff.mpr ⟨spec, h⟩) with hown | ⟨hfactory, -⟩
  · obtain ⟨own, hown⟩ := mem_declared_iff.mp hown
    rw [hlacks] at hown
    cases hown
  · -- an interface is stocked only together with its factory
    have hfind := Sections.has_eq_false_iff.mp hfactory
    rw [← find?_assemble_factoryInterface_of_none hfind hlacks, h]

end Scaffold.Declaration
