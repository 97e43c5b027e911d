import Scaffold.Declaration
import Scaffold.Proofs.Fallible
import Scaffold.Proofs.Sections

/-!
# Declarations in parts

A domain is read section by section, each into parts by type, and the parts are put together
in the order in which they were met.  Of the parts of one type that answer for a name the
last one counts.

## Main results

* `Declaration.ofDomain_eq_ok_iff` — the sections are read one by one.
* `Declaration.find?_assembleParts`, `Declaration.find?_assembleParts_eq_some_iff`,
  `Declaration.contains_assembleParts` — what all parts together answer.
-/

namespace Scaffold.Declaration

theorem liftSpec_eq_ok_iff {α : Type} {x : Except SpecFault α} {a : α} :
    liftSpec x = .ok a ↔ x = .ok a := by
  cases x with
  | ok b =>
    rw [liftSpec, Except.ok.injEq, Except.ok.injEq]
  | error fault => exact iff_of_false (Except.error_ne_ok _ a) (Except.error_ne_ok _ a)

theorem ofDomain_eq_ok_iff {d : Domain} {decl : Declaration} :
    ofDomain d = .ok decl ↔ ∃ lists,
      (d.sections.entries.mapM fun e => sectionParts e.1 e.2) = .ok lists ∧
        decl = { name := d.name, sections := assembleParts lists.flatten } := by
  rw [ofDomain, Except.bind_eq_ok_iff]
  refine exists_congr fun lists => and_congr_right fun _ => ?_
  constructor
  · intro h
    exact (Except.ok.inj h).symm
  · rintro rfl
    rfl

/-! ### All parts together -/

/-- What a part answers under a type and a name. -/
def partAt (t : ArtifactType) (name : String) (part : ArtifactType × Section) : Option Spec :=
  if part.1 = t then part.2.get? name else none

theorem find?_addPart (s : Sections) (part : ArtifactType × Section) (t : ArtifactType)
    (name : String) :
    (addPart s part).find? t name = (partAt t name part).or (s.find? t name) := by
  rw [addPart, Sections.modify, Sections.find?_insert, partAt]
  split
  · next h =>
    subst h
    exact Dict.get?_union _ _ name
  · rfl

/-- The last part that answers counts, and below all parts what was there before. -/
theorem find?_foldl_addPart (parts : List (ArtifactType × Section)) (s : Sections)
    (t : ArtifactType) (name : String) :
    (parts.foldl addPart s).find? t name
      = (parts.reverse.findSome? (partAt t name)).or (s.find? t name) := by
  induction parts generalizing s with
  | nil => rfl
  | cons part parts ih =>
    rw [List.foldl_cons, ih, find?_addPart, List.reverse_cons, List.findSome?_append,
      List.findSome?_singleton, Option.or_assoc]

theorem contains_foldl_addPart (parts : List (ArtifactType × Section)) (s : Sections)
    (t : ArtifactType) :
    (parts.foldl addPart s).contains t = true
      ↔ (∃ entries, (t, entries) ∈ parts) ∨ s.contains t = true := by
  induction parts generalizing s with
  | nil => simp
  | cons part parts ih =>
    obtain ⟨u, entries⟩ := part
    rw [List.foldl_cons, ih, addPart, Sections.modify, Dict.contains_insert, Bool.or_eq_true,
      decide_eq_true_eq]
    simp only [List.mem_cons, Prod.mk.injEq, exists_or]
    grind

/-- The sections that may be left out answer nothing. -/
theorem find?_assembleParts (parts : List (ArtifactType × Section)) (t : ArtifactType)
    (name : String) :
    (assembleParts parts).find? t name = parts.reverse.findSome? (partAt t name) := by
  have hoptional : (optionalSections.map fun t => (t, (∅ : Section))).reverse.findSome?
      (partAt t name) = none := by
    rw [List.findSome?_eq_none_iff]
    intro part hpart
    obtain ⟨u, -, rfl⟩ := List.mem_map.mp (List.mem_reverse.mp hpart)
    rw [partAt, Dict.get?_empty, ite_self]
  rw [assembleParts, find?_foldl_addPart, List.reverse_append, List.findSome?_append, hoptional,
    Option.none_or]
  exact Option.or_none

theorem contains_assembleParts (parts : List (ArtifactType × Section)) (t : ArtifactType) :
    (assembleParts parts).contains t = true
      ↔ t ∈ optionalSections ∨ ∃ entries, (t, entries) ∈ parts := by
  rw [assembleParts, contains_foldl_addPart, Dict.contains_empty]
  simp only [List.mem_append, List.mem_map, Prod.mk.injEq]
  grind

/-- **The last part that has a name** says what its spec is. -/
theorem find?_assembleParts_eq_some_iff {parts : List (ArtifactType × Section)}
    {t : ArtifactType} {name : String} {spec : Spec} :
    (assembleParts parts).find? t name = some spec
      ↔ ∃ before s after, parts = before ++ (t, s) :: after ∧ s.get? name = some spec ∧
        ∀ s', (t, s') ∈ after → s'.get? name = none := by
  rw [find?_assembleParts, List.findSome?_eq_some_iff]
  constructor
  · rintro ⟨after, ⟨u, s⟩, before, hparts, hs, hafter⟩
    rw [partAt, Option.ite_none_right_eq_some] at hs
    obtain ⟨rfl, hs⟩ := hs
    refine ⟨before.reverse, s, after.reverse, ?_, hs, fun s' hs' => ?_⟩
    · rw [← parts.reverse_reverse, hparts]
      simp
    · have hnone := hafter _ (List.mem_reverse.mp hs')
      rwa [partAt, if_pos rfl] at hnone
  · rintro ⟨before, s, after, rfl, hs, hafter⟩
    refine ⟨after.reverse, (t, s), before.reverse, by simp, ?_, ?_⟩
    · rwa [partAt, if_pos rfl]
    · rintro ⟨u, s'⟩ hs'
      rw [partAt]
      split
      · next h =>
        subst h
        exact hafter s' (List.mem_reverse.mp hs')
      · rfl

end Scaffold.Declaration
