import Scaffold.Expansion
import Scaffold.Proofs.Fallible
import Scaffold.Proofs.Expansion.Brought

/-!
# When an expansion succeeds

An expansion answers exactly when the name of the domain is valid, the required
sections are there, the sections can be read, and all obligations are met.

## Main definitions

* `Obligation.Met` — what an obligation asks for.

## Main results

* `checkAll_eq_ok_iff` — the check of a list of obligations.
* `Domain.expand_eq_ok_iff` — the whole way.
-/

namespace Scaffold

/-- What an obligation asks for. -/
def Obligation.Met (isDeclared : ArtifactType → String → Bool) : Obligation → Prop
  | knownKind word => ∃ kind, ValueKind.ofTag word = .ok kind
  | bound _ entity => entity.isSome = true
  | declared r => isDeclared r.type r.name = true

theorem Obligation.check_eq_ok_iff {domain : String} {isDeclared : ArtifactType → String → Bool}
    {o : Obligation} : o.check domain isDeclared = .ok () ↔ o.Met isDeclared := by
  cases o with
  | knownKind word =>
    rw [check, Met]
    cases ValueKind.ofTag word with
    | ok kind => exact iff_of_true rfl ⟨kind, rfl⟩
    | error unknown =>
      refine iff_of_false (Except.error_ne_ok _ _) ?_
      rintro ⟨kind, h⟩
      exact Except.error_ne_ok _ _ h
  | bound command entity =>
    rw [check, Met]
    cases entity with
    | some entity => exact iff_of_true rfl rfl
    | none => exact iff_of_false (Except.error_ne_ok _ _) Bool.false_ne_true
  | declared r =>
    rw [check, Met]
    cases isDeclared r.type r.name with
    | true => exact iff_of_true rfl rfl
    | false => exact iff_of_false (Except.error_ne_ok _ _) Bool.false_ne_true

/-- **A list of obligations passes when all of them are met.** -/
theorem checkAll_eq_ok_iff {domain : String} {isDeclared : ArtifactType → String → Bool}
    {os : List Obligation} :
    checkAll domain isDeclared os = .ok () ↔ ∀ o ∈ os, o.Met isDeclared := by
  rw [checkAll, Except.forM_eq_ok_iff]
  exact forall₂_congr fun o _ => Obligation.check_eq_ok_iff

/-- The name of the domain is valid and the required sections are there. -/
theorem Domain.validate_eq_ok_iff {d : Domain} :
    d.validate = .ok ()
      ↔ Name.isValid d.name = true ∧ ∀ t ∈ requiredSections, d.sections.contains t.tag = true := by
  have hsections :
      (requiredSections.forM fun t =>
          if d.sections.contains t.tag then (.ok () : Except ExpandFault Unit)
          else .error (.missingSection d.name t)) = .ok ()
        ↔ ∀ t ∈ requiredSections, d.sections.contains t.tag = true := by
    rw [Except.forM_eq_ok_iff]
    refine forall₂_congr fun t _ => ?_
    split
    · next h => exact iff_of_true rfl h
    · next h => exact iff_of_false (Except.error_ne_ok _ _) h
  rw [← hsections, validate]
  cases Name.isValid d.name with
  | true => exact (and_iff_right rfl).symm
  | false => exact iff_of_false (Except.error_ne_ok _ _) fun h => Bool.false_ne_true h.1

/-- The sections of a declaration can be merged when its obligations are met, and then
they are what it brings together. -/
theorem Declaration.merge_eq_ok_iff {d : Declaration} {s : Sections} :
    d.merge = .ok s
      ↔ (∀ o ∈ d.obligations, o.Met d.knows) ∧
        (∀ o ∈ d.assemble.repositoryObligations, o.Met d.knows) ∧
        (∀ o ∈ d.artifactObligations, o.Met d.assemble.addInterfaces.has) ∧
        d.assemble.addInterfaces = s := by
  have hcheck {isDeclared : ArtifactType → String → Bool} {os : List Obligation} :
      checkAll d.name isDeclared os = .ok () ↔ ∀ o ∈ os, o.Met isDeclared := checkAll_eq_ok_iff
  simp only [← hcheck]
  rw [merge]
  simp only [Except.bind_eq_ok_iff]
  constructor
  · rintro ⟨_, h₁, _, h₂, _, h₃, h⟩
    exact ⟨h₁, h₂, h₃, Except.ok.inj h⟩
  · rintro ⟨h₁, h₂, h₃, rfl⟩
    exact ⟨_, h₁, _, h₂, _, h₃, rfl⟩

/-- **An expansion answers** when each of its steps does. -/
theorem Domain.expand_eq_ok_iff {dom : Domain} {b : Blueprint} :
    dom.expand = .ok b
      ↔ dom.validate = .ok () ∧ ∃ d, Declaration.ofDomain dom = .ok d ∧
        ∃ s, d.withDefaults.merge = .ok s ∧ Blueprint.ofSections dom.name s = b := by
  rw [expand]
  simp only [Except.bind_eq_ok_iff]
  constructor
  · rintro ⟨_, hv, d, hd, s, hs, h⟩
    exact ⟨hv, d, hd, s, hs, Except.ok.inj h⟩
  · rintro ⟨hv, d, hd, s, hs, rfl⟩
    exact ⟨_, hv, d, hd, s, hs, rfl⟩

/-- The domain can be expanded, and its blueprint passes a test. -/
def Domain.anyBlueprint (dom : Domain) (p : Blueprint → Bool) : Bool :=
  match dom.expand with
  | .ok b => p b
  | .error _ => false

theorem Domain.exists_of_anyBlueprint {dom : Domain} {p : Blueprint → Bool}
    (h : dom.anyBlueprint p = true) : ∃ b, dom.expand = .ok b ∧ p b = true := by
  unfold anyBlueprint at h
  cases hb : dom.expand with
  | error fault =>
    rw [hb] at h
    cases h
  | ok b =>
    rw [hb] at h
    exact ⟨b, rfl, h⟩

/-- The domain can be expanded, and one of its leaves passes a test. -/
def Domain.anyLeaf (dom : Domain) (p : Blueprint → Leaf → Bool) : Bool :=
  match dom.expand with
  | .ok b => b.leaves.any (p b)
  | .error _ => false

theorem Domain.exists_leaf_of_anyLeaf {dom : Domain} {p : Blueprint → Leaf → Bool}
    (h : dom.anyLeaf p = true) :
    ∃ b l, dom.expand = .ok b ∧ l ∈ b.leaves ∧ p b l = true := by
  unfold anyLeaf at h
  cases hb : dom.expand with
  | error fault =>
    rw [hb] at h
    cases h
  | ok b =>
    rw [hb] at h
    obtain ⟨l, hl, hp⟩ := List.any_eq_true.mp h
    exact ⟨b, l, rfl, hl, hp⟩

end Scaffold
