import Mathlib.Logic.Relation
import Scaffold.Proofs.Expansion.Obligations
import Scaffold.Proofs.Declaration.Reading
import Scaffold.Proofs.Spec.Spellings

/-!
# Spellings of domains

Two domains that differ in how things are written are read as one declaration, whenever
either is read at all, and expand to one result.

Most spellings change what stands at one place and not what is read there.  A section of
repositories may also stand at another place: below the section `repository`, or by itself.
It is then read between other parts, and the parts of each type must be looked at: a part
that is the only one of its type may stand anywhere among the others.

## Main definitions

* `Domain.Spelling`, `Domain.Respelled` — one thing written in another way, and any number.
* `Domain.readings` — what is read at each place of a domain.

## Main results

* `Declaration.assembleParts_move` — the only part of a type may stand anywhere.
* `Domain.Respelled.readAlike`, `Declaration.ofDomain_respelled` — **equivalent spellings
  expand equally.**
-/

namespace Scaffold

open Node

/-! ### Spellings -/

/-- What stands below the section `repository`, if it is there. -/
inductive Node.HoldsRepositories : Option Node → Dict String Node → Prop
  | absent : HoldsRepositories none ∅
  | null : HoldsRepositories (some .null) ∅
  | map (d : Dict String Node) : HoldsRepositories (some (.ofDict d)) d

namespace Domain

/-- **One thing of a domain in two ways**: a section, a section or a spec below
`repository`, or a section of repositories at two places.  In the last case neither the rest
of the section `repository` nor the other sections declare repositories of the type. -/
inductive Spelling : Domain → Domain → Prop
  | entry {t : ArtifactType} (ht : t ≠ .repository) {node node' : Node}
      (h : SectionSpelling t node node') (name : String) (sections : Dict String Node) :
      Spelling ⟨name, sections.insert t.tag node⟩ ⟨name, sections.insert t.tag node'⟩
  | nested {key : String} {t : ArtifactType} (hkey : (key, t) ∈ repositoryWords)
      {node node' : Node} (h : SectionSpelling t node node') (name : String)
      (sections rest : Dict String Node) :
      Spelling ⟨name, sections.insert "repository" (.ofDict (rest.insert key node))⟩
        ⟨name, sections.insert "repository" (.ofDict (rest.insert key node'))⟩
  | custom {key : String} (hkey : ∀ t, (key, t) ∉ repositoryWords) {node node' : Node}
      (h : SpecSpelling .repository node node') (name : String)
      (sections rest : Dict String Node) :
      Spelling ⟨name, sections.insert "repository" (.ofDict (rest.insert key node))⟩
        ⟨name, sections.insert "repository" (.ofDict (rest.insert key node'))⟩
  | moved {key : String} {t : ArtifactType} (hkey : (key, t) ∈ repositoryWords) (node : Node)
      (name : String) {sections rest : Dict String Node}
      (hrest : HoldsRepositories (sections.get? "repository") rest)
      (hnested : ∀ key', (key', t) ∈ repositoryWords → rest.get? key' = none)
      (htop : sections.get? t.tag = none) :
      Spelling ⟨name, sections.insert "repository" (.ofDict (rest.insert key node))⟩
        ⟨name, sections.insert t.tag node⟩

/-- Any number of things in other ways. -/
abbrev Respelled : Domain → Domain → Prop := Relation.EqvGen Spelling

end Domain

/-! ### What is read at each place -/

namespace Declaration

/-- What is read at each place below the section `repository`, nothing where it is
refused. -/
def repositoryReadings : Node → List (Option (ArtifactType × Section))
  | .null => []
  | .map entries => entries.map fun e => (repositoryPart e.1 e.2).toOption
  | _ => [none]

/-- What is read of a section that stands by itself. -/
def sectionReading (tag : String) (node : Node) : Option (ArtifactType × Section) :=
  match ArtifactType.ofTag tag with
  | .ok t => (Section.ofNode t node).toOption.map (t, ·)
  | .error _ => none

/-- What is read at each place of a section. -/
def readingsOf (tag : String) (node : Node) : List (Option (ArtifactType × Section)) :=
  if tag = "repository" then repositoryReadings node else [sectionReading tag node]

/-- What is read at each place of some sections. -/
def readingsIn (entries : List (String × Node)) : List (Option (ArtifactType × Section)) :=
  entries.flatMap fun e => readingsOf e.1 e.2

theorem readingsIn_append (l₁ l₂ : List (String × Node)) :
    readingsIn (l₁ ++ l₂) = readingsIn l₁ ++ readingsIn l₂ := List.flatMap_append

theorem readingsIn_cons (e : String × Node) (l : List (String × Node)) :
    readingsIn (e :: l) = readingsOf e.1 e.2 ++ readingsIn l := List.flatMap_cons

/-- What is refused is no part. -/
private theorem none_ne_map_some (parts : List (ArtifactType × Section)) :
    [none] ≠ parts.map some := by
  intro h
  obtain ⟨_, _, -, h, -⟩ := List.map_eq_cons_iff.mp h.symm
  cases h

theorem repositoryParts_eq_ok_iff_readings {node : Node}
    {parts : List (ArtifactType × Section)} :
    repositoryParts node = .ok parts ↔ repositoryReadings node = parts.map some := by
  cases node with
  | null =>
    rw [repositoryParts, repositoryReadings, Except.ok.injEq, eq_comm, eq_comm (a := []),
      List.map_eq_nil_iff]
  | map entries => exact Except.mapM_eq_ok_iff_toOption
  | _ => exact iff_of_false refuse_ne_ok (none_ne_map_some parts)

theorem sectionParts_eq_ok_iff_readings {tag : String} {node : Node}
    {parts : List (ArtifactType × Section)} :
    sectionParts tag node = .ok parts ↔ readingsOf tag node = parts.map some := by
  unfold sectionParts readingsOf
  by_cases htag : tag = "repository"
  · rw [if_pos (beq_iff_eq.mpr htag), if_pos htag, liftSpec_eq_ok_iff,
      repositoryParts_eq_ok_iff_readings]
  · rw [if_neg (mt beq_iff_eq.mp htag), if_neg htag, sectionReading]
    cases ArtifactType.ofTag tag with
    | error unknown => exact iff_of_false (Except.error_ne_ok _ parts) (none_ne_map_some parts)
    | ok t =>
      dsimp only
      rw [liftSpec_eq_ok_iff]
      cases Section.ofNode t node with
      | error fault => exact iff_of_false (Except.error_ne_ok _ parts) (none_ne_map_some parts)
      | ok s =>
        have hpart : [some (t, s)] = parts.map some ↔ [(t, s)] = parts :=
          List.map_inj_right (l := [(t, s)]) fun _ _ => Option.some.inj
        exact ⟨fun h => hpart.mpr (Except.ok.inj h), fun h => congrArg _ (hpart.mp h)⟩

/-! ### Readings of the single places -/

theorem readingsOf_repository (node : Node) :
    readingsOf "repository" node = repositoryReadings node := if_pos rfl

theorem readingsOf_tag {t : ArtifactType} (ht : t ≠ .repository) (node : Node) :
    readingsOf t.tag node = [(Section.ofNode t node).toOption.map (t, ·)] := by
  have hne : t.tag ≠ "repository" := fun h => ht (ArtifactType.tag_injective h)
  rw [readingsOf, if_neg hne, sectionReading, ArtifactType.ofTag_eq_ok_iff.mpr rfl]

theorem ne_repository_of_word {key : String} {t : ArtifactType}
    (hkey : (key, t) ∈ repositoryWords) : t ≠ .repository := by
  have hall : ∀ e ∈ repositoryWords, e.2 ≠ .repository := by decide
  exact hall _ hkey

theorem toOption_repositoryPart {key : String} {t : ArtifactType}
    (hkey : (key, t) ∈ repositoryWords) (node : Node) :
    (repositoryPart key node).toOption = (Section.ofNode t node).toOption.map (t, ·) := by
  rw [repositoryPart, ArtifactType.ofRepositoryKind?_eq_some_iff.mpr hkey]
  dsimp only
  cases Section.ofNode t node <;> rfl

theorem repositoryPart_of_custom {key : String} (hkey : ∀ t, (key, t) ∉ repositoryWords)
    (node : Node) :
    repositoryPart key node = (checkName .repository key >>= fun _ =>
      Spec.ofNode .repository key node >>= fun spec =>
        pure (.repository, .ofList [(key, spec)])) := by
  have hnone : ArtifactType.ofRepositoryKind? key = none := by
    rw [Option.eq_none_iff_forall_ne_some]
    exact fun t ht => hkey t (ArtifactType.ofRepositoryKind?_eq_some_iff.mp ht)
  rw [repositoryPart, hnone]

theorem type_of_repositoryPart {key : String} {node : Node} {p : ArtifactType × Section}
    (h : repositoryPart key node = .ok p) : (key, p.1) ∈ repositoryWords ∨ p.1 = .repository := by
  by_cases hkey : ∀ t, (key, t) ∉ repositoryWords
  · rw [repositoryPart_of_custom hkey] at h
    obtain ⟨_, -, h⟩ := Except.bind_eq_ok_iff.mp h
    obtain ⟨_, -, h⟩ := Except.bind_eq_ok_iff.mp h
    exact .inr (congrArg Prod.fst (Except.ok.inj h)).symm
  · obtain ⟨t, ht⟩ := not_forall_not.mp hkey
    rw [← Except.toOption_eq_some_iff, toOption_repositoryPart ht] at h
    obtain ⟨_, -, rfl⟩ := Option.map_eq_some_iff.mp h
    exact .inl ht

theorem tag_of_sectionReading {tag : String} {node : Node} {p : ArtifactType × Section}
    (h : sectionReading tag node = some p) : tag = p.1.tag := by
  unfold sectionReading at h
  split at h
  · next t ht =>
    obtain ⟨_, -, rfl⟩ := Option.map_eq_some_iff.mp h
    exact ArtifactType.ofTag_eq_ok_iff.mp ht
  · cases h

end Declaration

/-- What is read at each place of a domain. -/
def Domain.readings (d : Domain) : List (Option (ArtifactType × Section)) :=
  Declaration.readingsIn d.sections.entries

namespace Declaration

theorem readingsIn_eq_map_some_iff {l : List (String × Node)}
    {parts : List (ArtifactType × Section)} :
    readingsIn l = parts.map some
      ↔ ∃ lists, (l.mapM fun e => sectionParts e.1 e.2) = .ok lists ∧ parts = lists.flatten := by
  induction l generalizing parts with
  | nil =>
    rw [readingsIn, List.flatMap_nil, eq_comm, List.map_eq_nil_iff]
    constructor
    · rintro rfl
      exact ⟨[], rfl, rfl⟩
    · rintro ⟨lists, hlists, rfl⟩
      rw [← Except.ok.inj hlists]
      rfl
  | cons e l ih =>
    rw [readingsIn_cons, List.append_eq_map_iff]
    constructor
    · rintro ⟨own, others, rfl, hown, hothers⟩
      obtain ⟨lists, hlists, rfl⟩ := ih.mp hothers.symm
      refine ⟨own :: lists, ?_, rfl⟩
      rw [List.mapM_cons, sectionParts_eq_ok_iff_readings.mpr hown.symm, hlists]
      rfl
    · rintro ⟨lists, hlists, rfl⟩
      rw [List.mapM_cons, Except.bind_eq_ok_iff] at hlists
      obtain ⟨own, hown, hlists⟩ := hlists
      obtain ⟨others, hothers, hlists⟩ := Except.bind_eq_ok_iff.mp hlists
      obtain rfl := Except.ok.inj hlists
      exact ⟨own, others.flatten, rfl, (sectionParts_eq_ok_iff_readings.mp hown).symm,
        (ih.mpr ⟨others, hothers, rfl⟩).symm⟩

/-- **A domain is read** exactly if it is read at each place. -/
theorem ofDomain_eq_ok_iff_readings {d : Domain} {decl : Declaration} :
    ofDomain d = .ok decl ↔ ∃ parts, d.readings = parts.map some ∧
      decl = { name := d.name, sections := assembleParts parts } := by
  rw [ofDomain_eq_ok_iff, Domain.readings]
  simp only [readingsIn_eq_map_some_iff]
  constructor
  · rintro ⟨lists, hlists, rfl⟩
    exact ⟨lists.flatten, ⟨lists, hlists, rfl⟩, rfl⟩
  · rintro ⟨_, ⟨lists, hlists, rfl⟩, rfl⟩
    exact ⟨lists, hlists, rfl⟩

/-! ### The only part of a type -/

section Only

variable {p : ArtifactType × Section} {before after : List (ArtifactType × Section)}

/-- The only part of a type answers for the type, and the others for all other types. -/
theorem find?_assembleParts_of_only (honly : ∀ q ∈ before ++ after, q.1 ≠ p.1)
    (t : ArtifactType) (name : String) :
    (assembleParts (before ++ p :: after)).find? t name
      = if p.1 = t then p.2.get? name
        else (before ++ after).reverse.findSome? (partAt t name) := by
  have hnone (parts : List (ArtifactType × Section)) (hparts : ∀ q ∈ parts, q.1 ≠ p.1) :
      parts.reverse.findSome? (partAt p.1 name) = none := by
    rw [List.findSome?_eq_none_iff]
    exact fun q hq => if_neg (hparts q (List.mem_reverse.mp hq))
  obtain ⟨hbefore, hafter⟩ := List.forall_mem_append.mp honly
  rw [find?_assembleParts, List.reverse_append, List.reverse_cons, List.findSome?_append,
    List.findSome?_append, List.findSome?_singleton, partAt]
  split
  · next h =>
    subst h
    rw [hnone _ hbefore, hnone _ hafter, Option.none_or, Option.or_none]
  · rw [Option.or_none, ← List.findSome?_append, ← List.reverse_append]

/-- **The only part of a type may stand anywhere** among the other parts. -/
theorem assembleParts_move {before' after' : List (ArtifactType × Section)}
    (heq : before ++ after = before' ++ after') (honly : ∀ q ∈ before ++ after, q.1 ≠ p.1) :
    assembleParts (before ++ p :: after) = assembleParts (before' ++ p :: after') := by
  refine Sections.ext_find? (fun t => ?_) fun t name => ?_
  · have hmem (s : Section) : (t, s) ∈ before ++ p :: after ↔ (t, s) ∈ before' ++ p :: after' := by
      rw [List.mem_append, List.mem_cons, or_left_comm, ← List.mem_append, heq, List.mem_append,
        or_left_comm, ← List.mem_cons, ← List.mem_append]
    rw [Bool.eq_iff_iff, contains_assembleParts, contains_assembleParts]
    simp only [hmem]
  · rw [find?_assembleParts_of_only honly, find?_assembleParts_of_only (heq ▸ honly), heq]

end Only

end Declaration

/-! ### Domains that are read alike -/

namespace Domain

open Declaration

/-- The domains have one name and the same required sections, and are read as one
declaration if either is read. -/
structure ReadAlike (d d' : Domain) : Prop where
  /-- The names. -/
  name : d.name = d'.name
  /-- The required sections. -/
  required : ∀ t ∈ requiredSections, d.sections.contains t.tag = d'.sections.contains t.tag
  /-- The declarations. -/
  declaration : ∀ decl, Declaration.ofDomain d = .ok decl ↔ Declaration.ofDomain d' = .ok decl

theorem ReadAlike.symm {d d' : Domain} (h : d.ReadAlike d') : d'.ReadAlike d :=
  ⟨h.name.symm, fun t ht => (h.required t ht).symm, fun decl => (h.declaration decl).symm⟩

theorem ReadAlike.trans {d d' d'' : Domain} (h : d.ReadAlike d') (h' : d'.ReadAlike d'') :
    d.ReadAlike d'' :=
  ⟨h.name.trans h'.name, fun t ht => (h.required t ht).trans (h'.required t ht),
    fun decl => (h.declaration decl).trans (h'.declaration decl)⟩

theorem ReadAlike.validate_eq {d d' : Domain} (h : d.ReadAlike d') :
    d.validate = d'.validate := by
  have hrequired := h.required
  simp only [requiredSections, List.forall_mem_cons] at hrequired
  obtain ⟨hentity, hvalueObject, hcommand, -⟩ := hrequired
  simp only [validate, requiredSections, List.forM, h.name, hentity, hvalueObject, hcommand]

/-- What is put in another way at one place is read there as before. -/
theorem readAlike_of_readingsOf {tag : String} {node node' : Node}
    (h : readingsOf tag node = readingsOf tag node') (name : String)
    (sections : Dict String Node) :
    ReadAlike ⟨name, sections.insert tag node⟩ ⟨name, sections.insert tag node'⟩ := by
  have hreadings : readings ⟨name, sections.insert tag node⟩
      = readings ⟨name, sections.insert tag node'⟩ := by
    obtain ⟨before, after, hinsert, -⟩ := sections.exists_entries_insert tag
    simp only [readings, hinsert, readingsIn_append, readingsIn_cons, h]
  refine ⟨rfl, fun t _ => ?_, fun decl => ?_⟩
  · rw [Dict.contains_insert, Dict.contains_insert]
  · rw [ofDomain_eq_ok_iff_readings, ofDomain_eq_ok_iff_readings, hreadings]

/-- What is put in another way below the section `repository` is read there as before. -/
theorem readAlike_of_repositoryPart {key : String} {node node' : Node}
    (h : (repositoryPart key node).toOption = (repositoryPart key node').toOption)
    (name : String) (sections rest : Dict String Node) :
    ReadAlike ⟨name, sections.insert "repository" (.ofDict (rest.insert key node))⟩
      ⟨name, sections.insert "repository" (.ofDict (rest.insert key node'))⟩ := by
  refine readAlike_of_readingsOf ?_ name sections
  obtain ⟨before, after, hinsert, -⟩ := rest.exists_entries_insert key
  simp only [readingsOf_repository, ofDict, repositoryReadings, hinsert, List.map_append,
    List.map_cons, h]

/-- A part that is the only one of its type may be read at another place. -/
theorem ofDomain_of_move {d d' : Domain} {t : ArtifactType}
    {r : Option (ArtifactType × Section)}
    {before after before' after' : List (Option (ArtifactType × Section))}
    (hd : d.readings = before ++ r :: after) (hd' : d'.readings = before' ++ r :: after')
    (hname : d.name = d'.name) (heq : before ++ after = before' ++ after')
    (ht : ∀ p, r = some p → p.1 = t) (honly : ∀ p, some p ∈ before ++ after → p.1 ≠ t)
    {decl : Declaration} (h : ofDomain d = .ok decl) : ofDomain d' = .ok decl := by
  obtain ⟨parts, hparts, rfl⟩ := ofDomain_eq_ok_iff_readings.mp h
  rw [hd, List.append_eq_map_iff] at hparts
  obtain ⟨first, rest, rfl, rfl, hrest⟩ := hparts
  obtain ⟨p, last, rfl, rfl, rfl⟩ := List.map_eq_cons_iff.mp hrest
  rw [← List.map_append, eq_comm, List.append_eq_map_iff] at heq
  obtain ⟨first', last', heq, rfl, rfl⟩ := heq
  have hother : ∀ q ∈ first ++ last, q.1 ≠ p.1 := by
    intro q hq
    rw [ht p rfl]
    refine honly q ?_
    rw [← List.map_append]
    exact List.mem_map_of_mem hq
  refine ofDomain_eq_ok_iff_readings.mpr ⟨first' ++ p :: last', ?_, ?_⟩
  · rw [hd', List.map_append, List.map_cons]
  · rw [hname, assembleParts_move heq hother]

/-- A type that has no section of its own and none below `repository` is read nowhere. -/
private theorem type_ne_of_mem_readings {t : ArtifactType} (ht : t ≠ .repository) {name : String}
    {sections rest : Dict String Node}
    (hrest : HoldsRepositories (sections.get? "repository") rest)
    (hnested : ∀ key, (key, t) ∈ repositoryWords → rest.get? key = none)
    (htop : sections.get? t.tag = none) {p : ArtifactType × Section}
    (hp : some p ∈ readings ⟨name, sections⟩) : p.1 ≠ t := by
  rintro rfl
  obtain ⟨⟨tag, node⟩, hmem, hp⟩ := List.mem_flatMap.mp hp
  rw [Dict.mem_entries_iff] at hmem
  by_cases htag : tag = "repository"
  · subst htag
    rw [readingsOf_repository] at hp
    rw [hmem] at hrest
    cases hrest with
    | null => cases hp
    | map d =>
      obtain ⟨⟨key, node⟩, hentry, hpart⟩ := List.mem_map.mp hp
      rw [Except.toOption_eq_some_iff] at hpart
      rcases type_of_repositoryPart hpart with hword | hcustom
      · have hnone := hnested key hword
        rw [Dict.mem_entries_iff.mp hentry] at hnone
        cases hnone
      · exact ht hcustom
  · rw [readingsOf, if_neg htag, List.mem_singleton] at hp
    rw [← tag_of_sectionReading hp.symm, hmem] at htop
    cases htop

/-- What is read of a domain around the section `repository`, if it is there. -/
private theorem readings_around {name : String} {sections rest : Dict String Node}
    (hrest : HoldsRepositories (sections.get? "repository") rest)
    {before after : List (String × Node)}
    (hinsert : ∀ node, (sections.insert "repository" node).entries
      = before ++ ("repository", node) :: after)
    (habsent : sections.get? "repository" = none → sections.entries = before ++ after) :
    readings ⟨name, sections⟩ = readingsIn before ++
      (repositoryReadings (.ofDict rest) ++ readingsIn after) := by
  have hpresent {node : Node} (hget : sections.get? "repository" = some node) :
      sections.entries = before ++ ("repository", node) :: after := by
    rw [← hinsert, Dict.insert_of_get? hget]
  generalize hget : sections.get? "repository" = found at hrest
  cases hrest with
  | absent =>
    rw [readings, habsent hget, readingsIn_append]
    rfl
  | null =>
    rw [readings, hpresent hget, readingsIn_append, readingsIn_cons, readingsOf_repository]
    rfl
  | map =>
    rw [readings, hpresent hget, readingsIn_append, readingsIn_cons, readingsOf_repository]

/-- **A section of repositories may stand below the section `repository` or by itself.** -/
theorem readAlike_of_moved {key : String} {t : ArtifactType}
    (hkey : (key, t) ∈ repositoryWords) (node : Node) (name : String)
    {sections rest : Dict String Node}
    (hrest : HoldsRepositories (sections.get? "repository") rest)
    (hnested : ∀ key', (key', t) ∈ repositoryWords → rest.get? key' = none)
    (htop : sections.get? t.tag = none) :
    ReadAlike ⟨name, sections.insert "repository" (.ofDict (rest.insert key node))⟩
      ⟨name, sections.insert t.tag node⟩ := by
  have ht : t ≠ .repository := ne_repository_of_word hkey
  obtain ⟨before, after, hinsert, habsent⟩ := sections.exists_entries_insert "repository"
  obtain ⟨low, high, hnest, hlow⟩ := rest.exists_entries_insert key
  obtain ⟨before', after', hinsert', habsent'⟩ := sections.exists_entries_insert t.tag
  -- the section that is moved is read in both domains, between the same parts
  have hd : readings ⟨name, sections.insert "repository" (.ofDict (rest.insert key node))⟩
      = (readingsIn before ++ repositoryReadings (.map low)) ++
        (Section.ofNode t node).toOption.map (t, ·) ::
          (repositoryReadings (.map high) ++ readingsIn after) := by
    simp only [readings, hinsert, readingsIn_append, readingsIn_cons, readingsOf_repository,
      ofDict, repositoryReadings, hnest, List.map_append, List.map_cons,
      toOption_repositoryPart hkey, List.append_assoc, List.cons_append]
  have hd' : readings ⟨name, sections.insert t.tag node⟩
      = readingsIn before' ++
        (Section.ofNode t node).toOption.map (t, ·) :: readingsIn after' := by
    simp only [readings, hinsert', readingsIn_append, readingsIn_cons, readingsOf_tag ht,
      List.singleton_append]
  have hbase : readings ⟨name, sections⟩
      = (readingsIn before ++ repositoryReadings (.map low)) ++
        (repositoryReadings (.map high) ++ readingsIn after) := by
    rw [readings_around hrest hinsert habsent, ofDict, hlow (hnested key hkey)]
    simp only [repositoryReadings, List.map_append, List.append_assoc]
  have hbase' : readings ⟨name, sections⟩ = readingsIn before' ++ readingsIn after' := by
    rw [readings, habsent' htop, readingsIn_append]
  have htype (p : ArtifactType × Section)
      (hp : (Section.ofNode t node).toOption.map (t, ·) = some p) : p.1 = t := by
    obtain ⟨_, -, rfl⟩ := Option.map_eq_some_iff.mp hp
    rfl
  have honly (p : ArtifactType × Section) (hp : some p ∈ readings ⟨name, sections⟩) : p.1 ≠ t :=
    type_ne_of_mem_readings ht hrest hnested htop hp
  refine ⟨rfl, fun u hu => ?_, fun decl => ⟨?_, ?_⟩⟩
  · -- neither section is required
    have hrequired : ∀ u ∈ requiredSections, u.tag ≠ "repository" ∧ ∀ e ∈ repositoryWords,
        u.tag ≠ e.2.tag := by decide
    obtain ⟨hrepository, hword⟩ := hrequired u hu
    rw [Dict.contains_insert, Dict.contains_insert, decide_eq_false hrepository.symm,
      decide_eq_false (hword _ hkey).symm]
  · exact ofDomain_of_move hd hd' rfl (hbase.symm.trans hbase') htype (hbase ▸ honly)
  · exact ofDomain_of_move hd' hd rfl (hbase'.symm.trans hbase) htype (hbase' ▸ honly)

/-- **A domain is read alike in both spellings.** -/
theorem Spelling.readAlike {d d' : Domain} (h : Spelling d d') : d.ReadAlike d' := by
  cases h with
  | entry ht h name sections =>
    refine readAlike_of_readingsOf ?_ name sections
    rw [readingsOf_tag ht, readingsOf_tag ht,
      Except.toOption_congr fun _ => Section.ofNode_spelling h]
  | nested hkey h name sections rest =>
    refine readAlike_of_repositoryPart ?_ name sections rest
    rw [toOption_repositoryPart hkey, toOption_repositoryPart hkey,
      Except.toOption_congr fun _ => Section.ofNode_spelling h]
  | @custom key hkey node node' h name sections rest =>
    refine readAlike_of_repositoryPart ?_ name sections rest
    rw [repositoryPart_of_custom hkey, repositoryPart_of_custom hkey, Spec.ofNode_spelling h key]
  | moved hkey node name hrest hnested htop =>
    exact readAlike_of_moved hkey node name hrest hnested htop

/-- **Any number of other spellings** leaves a domain to be read alike. -/
theorem Respelled.readAlike {d d' : Domain} (h : Respelled d d') : d.ReadAlike d' := by
  induction h with
  | rel d d' h => exact h.readAlike
  | refl d => exact ⟨rfl, fun _ _ => rfl, fun _ => Iff.rfl⟩
  | symm d d' _ ih => exact ih.symm
  | trans d d' d'' _ _ ih ih' => exact ih.trans ih'

end Domain

/-- **Equivalent spellings expand equally.**  Whenever either of two domains that differ in
spelling is read, the other is read as the same declaration, and both expand to one result. -/
theorem Declaration.ofDomain_respelled {d d' : Domain} (h : Domain.Respelled d d') :
    (∀ decl, ofDomain d = .ok decl ↔ ofDomain d' = .ok decl) ∧
      ∀ decl, (ofDomain d = .ok decl ∨ ofDomain d' = .ok decl) → d.expand = d'.expand := by
  have halike := h.readAlike
  refine ⟨halike.declaration, fun decl hdecl => ?_⟩
  have hd : ofDomain d = .ok decl := hdecl.elim id (halike.declaration decl).mpr
  have hd' : ofDomain d' = .ok decl := (halike.declaration decl).mp hd
  rw [Domain.expand, Domain.expand, halike.validate_eq, hd, hd', halike.name]

/-- The repositories of a market, without those of queries. -/
def marketRepositories : Dict String Node := (∅ : Dict String Node).insert "archive" .null

/-- The sections of a market, without its repositories of queries. -/
def marketSections : Dict String Node :=
  Dict.insert (.ofList
    [("entity", .ofEntries [("stall", .list [.string "rent"])]),
      ("value_object", .list [.string "money"]), ("command", .null)])
    "repository" (.ofDict marketRepositories)

/-- The market with a repository of queries below the section `repository`. -/
def marketDomain : Domain where
  name := "Market"
  sections := marketSections.insert "repository" <| .ofDict <| marketRepositories.insert "query" <|
    .ofDict <| (∅ : Dict String Node).insert "stall" <| .list [.string "money"]

/-- The market with the repository in a section of its own, and its spec as a map. -/
def flatMarketDomain : Domain where
  name := "Market"
  sections := marketSections.insert "repository_query_store" <| .ofDict <|
    (∅ : Dict String Node).insert "stall" <| .map [("args", .list [.string "money"])]

theorem ofDomain_respelled_marketDomain :
    Domain.Respelled marketDomain flatMarketDomain ∧
      ∃ decl b, Declaration.ofDomain marketDomain = .ok decl ∧
        Declaration.ofDomain flatMarketDomain = .ok decl ∧
        marketDomain.expand = .ok b ∧ flatMarketDomain.expand = .ok b := by
  have hrespelled : Domain.Respelled marketDomain flatMarketDomain := by
    have hspec : Node.SpecSpelling .repositoryQueryStore (.list [.string "money"])
        (.map [("args", .list [.string "money"])]) := .args (by decide) _
    have hrepository : marketSections.get? "repository" = some (.ofDict marketRepositories) :=
      Dict.get?_insert_self _ _ _
    have hnested (key : String) (hkey : (key, .repositoryQueryStore) ∈ Node.repositoryWords) :
        marketRepositories.get? key = none := by
      refine Dict.get?_insert_of_ne ?_ _ _
      rintro rfl
      exact absurd hkey (by decide)
    have htop : marketSections.get? "repository_query_store" = none := by
      rw [← Option.isNone_iff_eq_none]
      decide +kernel
    refine .trans _ _ _ (.rel _ _ (.nested (t := .repositoryQueryStore) (by decide)
      (.spec hspec ∅ "stall") _ _ _)) (.rel _ _ (.moved (t := .repositoryQueryStore)
      (by decide) _ _ ?_ hnested htop))
    rw [hrepository]
    exact .map _
  have hok : marketDomain.expand.isOk = true := by decide +kernel
  obtain ⟨b, hb⟩ := Except.exists_eq_ok_of_isOk hok
  obtain ⟨-, decl, hdecl, -⟩ := Domain.expand_eq_ok_iff.mp hb
  obtain ⟨hread, hexpand⟩ := Declaration.ofDomain_respelled hrespelled
  exact ⟨hrespelled, decl, b, hdecl, (hread decl).mp hdecl, hb,
    (hexpand decl (.inl hdecl)).symm.trans hb⟩

end Scaffold
