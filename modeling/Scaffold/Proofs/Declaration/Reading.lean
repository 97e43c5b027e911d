import Scaffold.Proofs.Declaration

/-!
# Reading domains

A domain is read exactly if each of its sections is a section of a known type that matches
the grammar, and the declaration then holds what the domain denotes.

Every section is read into parts by type, and the parts are put together in the order in
which they were met.  A type may have several parts, because the section `repository` has
parts for the special types of repositories; what is known of the order is that it is the
order of the keys.  So the entries of maps must stand by ascending key, as they do in every
schema text (`Schema.ordered_of_ofText`).

## Main results

* `Declaration.sectionParts_eq_ok_iff` — one section.
* `Declaration.madeOf_iff` — all parts together.
* `Declaration.ofDomain_grammar` — **which domains are read, and as what.**
-/

namespace Scaffold

open Node

theorem ArtifactType.ofRepositoryKind?_eq_some_iff {word : String} {t : ArtifactType} :
    ofRepositoryKind? word = some t ↔ (word, t) ∈ repositoryWords := by
  constructor
  · intro h
    simp only [ofRepositoryKind?, Bool.or_eq_true, beq_iff_eq] at h
    split at h
    · next hword => simp [repositoryWords, hword, ← Option.some.inj h]
    split at h
    · next hword => simp [repositoryWords, hword, ← Option.some.inj h]
    split at h
    · next hword => simp [repositoryWords, hword, ← Option.some.inj h]
    split at h
    · next hword =>
      rcases hword with hword | hword
      · simp [repositoryWords, hword, ← Option.some.inj h]
      · simp [repositoryWords, hword, ← Option.some.inj h]
    split at h
    · next hword => simp [repositoryWords, hword, ← Option.some.inj h]
    · cases h
  · have hall : ∀ e ∈ repositoryWords, ofRepositoryKind? e.1 = some e.2 := by decide
    exact hall (word, t)

namespace Declaration

/-! ### One section -/

theorem repositoryPart_eq_ok_iff {e : String × Node} (hnode : e.2.Ordered)
    {part : ArtifactType × Section} :
    repositoryPart e.1 e.2 = .ok part ↔ DenotesRepository e part := by
  obtain ⟨key, node⟩ := e
  unfold repositoryPart
  split
  · next t ht =>
    have hword := ArtifactType.ofRepositoryKind?_eq_some_iff.mp ht
    rw [Except.bind_eq_ok_iff]
    constructor
    · rintro ⟨s, hs, h⟩
      rw [← Except.ok.inj h]
      exact .typed hword ((Section.ofNode_eq_ok_iff hnode).mp hs)
    · intro h
      cases h with
      | typed hkey hs =>
        rw [← ArtifactType.ofRepositoryKind?_eq_some_iff, ht] at hkey
        obtain rfl := Option.some.inj hkey
        exact ⟨_, (Section.ofNode_eq_ok_iff hnode).mpr hs, rfl⟩
      | custom hkey => exact absurd hword (hkey t)
  · next hnone =>
    have hword (t : ArtifactType) : (key, t) ∉ repositoryWords := by
      rw [← ArtifactType.ofRepositoryKind?_eq_some_iff, hnone]
      nofun
    simp only [Except.bind_eq_ok_iff, checkName_eq_ok_iff, Spec.ofNode_eq_ok_iff hnode]
    constructor
    · rintro ⟨_, hvalid, spec, hspec, h⟩
      rw [← Except.ok.inj h]
      exact .custom hword hvalid hspec rfl
    · intro h
      cases h with
      | typed hkey => exact absurd hkey (hword _)
      | custom _ hvalid hspec hs =>
        refine ⟨⟨⟩, hvalid, _, hspec, ?_⟩
        rw [Dict.ext_entries (e := .ofList [(key, _)]) hs]
        rfl

/-- The nested section is read under the short words of its types. -/
private theorem repositoryParts_eq_ok_iff {node : Node} (hnode : node.Ordered)
    {parts : List (ArtifactType × Section)} :
    repositoryParts node = .ok parts ↔ node.DenotesParts "repository" parts := by
  -- only the nested section has this tag
  have hrepository {t : ArtifactType} (h : "repository" = t.tag) : t = .repository :=
    ArtifactType.tag_injective h.symm
  cases node with
  | null =>
    constructor
    · rintro ⟨⟩
      exact .noRepositories
    · rintro (⟨ht, hne⟩ | _)
      · exact absurd (hrepository ht) hne
      · rfl
  | map entries =>
    have hentries : ∀ e ∈ entries, ∀ part, repositoryPart e.1 e.2 = .ok part
        ↔ DenotesRepository e part :=
      fun e he _ => repositoryPart_eq_ok_iff (hnode.of_mem he)
    refine (Except.mapM_eq_ok_iff hentries).trans ⟨.repositories, ?_⟩
    rintro (⟨ht, hne⟩ | _ | h)
    · exact absurd (hrepository ht) hne
    · exact h
  | _ =>
    refine iff_of_false refuse_ne_ok ?_
    rintro ⟨ht, hne⟩
    exact hne (hrepository ht)

/-- A section under the tag of any other type is one part. -/
private theorem denotesParts_tag_iff {t : ArtifactType} (ht : t ≠ .repository) {node : Node}
    {parts : List (ArtifactType × Section)} :
    node.DenotesParts t.tag parts ↔ ∃ s, node.DenotesSection t s ∧ [(t, s)] = parts := by
  have hnested : t.tag ≠ "repository" := fun h =>
    ht (ArtifactType.tag_injective (b := .repository) h)
  constructor
  · intro h
    generalize htag : t.tag = tag at h
    cases h with
    | typed ht' _ hs =>
      obtain rfl := ArtifactType.tag_injective (htag.trans ht')
      exact ⟨_, hs, rfl⟩
    | noRepositories => exact absurd htag hnested
    | repositories => exact absurd htag hnested
  · rintro ⟨s, hs, rfl⟩
    exact .typed rfl ht hs

/-- Every section that denotes parts bears the tag of a type. -/
theorem exists_tag_of_denotesParts {tag : String} {node : Node}
    {parts : List (ArtifactType × Section)} (h : node.DenotesParts tag parts) :
    ∃ t : ArtifactType, tag = t.tag := by
  cases h with
  | typed htag => exact ⟨_, htag⟩
  | noRepositories => exact ⟨.repository, rfl⟩
  | repositories => exact ⟨.repository, rfl⟩

/-- **A section is read into parts** exactly if it denotes them. -/
theorem sectionParts_eq_ok_iff {tag : String} {node : Node} (hnode : node.Ordered)
    {parts : List (ArtifactType × Section)} :
    sectionParts tag node = .ok parts ↔ node.DenotesParts tag parts := by
  unfold sectionParts
  split
  · next htag =>
    obtain rfl := beq_iff_eq.mp htag
    rw [liftSpec_eq_ok_iff, repositoryParts_eq_ok_iff hnode]
  · next htag =>
    split
    · next unknown hunknown =>
      refine iff_of_false (Except.error_ne_ok _ parts) fun h => ?_
      obtain ⟨t, ht⟩ := exists_tag_of_denotesParts h
      rw [ArtifactType.ofTag_eq_ok_iff.mpr ht] at hunknown
      cases hunknown
    · next t ht =>
      obtain rfl := ArtifactType.ofTag_eq_ok_iff.mp ht
      have hne : t ≠ .repository := by
        rintro rfl
        exact htag rfl
      rw [liftSpec_eq_ok_iff, Except.bind_eq_ok_iff, denotesParts_tag_iff hne]
      exact exists_congr fun s =>
        and_congr (Section.ofNode_eq_ok_iff hnode) ⟨Except.ok.inj, congrArg _⟩

/-! ### All parts together -/

/-- **Parts put together** are a declaration made of them, and there is no other. -/
theorem madeOf_iff {decl : Declaration} {parts : List (ArtifactType × Section)} :
    decl.MadeOf parts ↔ decl.sections = assembleParts parts := by
  constructor
  · intro h
    refine Sections.ext_find? (fun t => ?_) fun t name => Option.ext fun spec => ?_
    · rw [Bool.eq_iff_iff, h.present, contains_assembleParts]
    · rw [h.entries, find?_assembleParts_eq_some_iff]
  · intro h
    refine ⟨fun t => ?_, fun t name spec => ?_⟩
    · rw [h, contains_assembleParts]
    · rw [h, find?_assembleParts_eq_some_iff]

/-! ### Domains -/

/-- **A domain is read** exactly if it denotes something, as what it denotes. -/
theorem ofDomain_eq_ok_iff_denotes {d : Domain} (hd : d.Ordered) {decl : Declaration} :
    ofDomain d = .ok decl ↔ d.Denotes decl := by
  have hsection : ∀ e ∈ d.sections.entries, ∀ parts,
      sectionParts e.1 e.2 = .ok parts ↔ e.2.DenotesParts e.1 parts :=
    fun e he _ => sectionParts_eq_ok_iff (hd _ _ (Dict.mem_entries_iff.mp he))
  rw [ofDomain_eq_ok_iff]
  simp only [Except.mapM_eq_ok_iff hsection]
  constructor
  · rintro ⟨lists, hlists, rfl⟩
    exact ⟨rfl, rfl, lists, hlists, madeOf_iff.mpr rfl⟩
  · rintro ⟨hname, hderived, lists, hlists, hmade⟩
    obtain ⟨name, sections, derived⟩ := decl
    obtain rfl : name = d.name := hname
    obtain rfl : derived = [] := hderived
    exact ⟨lists, hlists, congrArg (Declaration.mk _ · []) (madeOf_iff.mp hmade)⟩

/-- **The grammar of domains.**  A domain is read exactly if every section bears the tag of a
type and matches the grammar, and the declaration that is read is the one it denotes. -/
theorem ofDomain_grammar {d : Domain} (hd : d.Ordered) :
    ((∃ decl, ofDomain d = .ok decl) ↔ ∀ tag node, d.sections.get? tag = some node →
      (∃ t : ArtifactType, tag = t.tag) ∧ ∃ parts, node.DenotesParts tag parts) ∧
    ∀ decl, ofDomain d = .ok decl ↔ d.Denotes decl := by
  refine ⟨?_, fun decl => ofDomain_eq_ok_iff_denotes hd⟩
  have hread : (∃ decl, ofDomain d = .ok decl)
      ↔ ∀ e ∈ d.sections.entries, ∃ parts, sectionParts e.1 e.2 = .ok parts := by
    rw [← Except.exists_mapM_eq_ok_iff]
    simp only [ofDomain_eq_ok_iff]
    constructor
    · rintro ⟨_, lists, hlists, -⟩
      exact ⟨lists, hlists⟩
    · rintro ⟨lists, hlists⟩
      exact ⟨_, lists, hlists, rfl⟩
  rw [hread, Prod.forall]
  refine forall_congr' fun tag => forall_congr' fun node => ?_
  rw [Dict.mem_entries_iff]
  refine forall_congr' fun hnode => ?_
  simp only [sectionParts_eq_ok_iff (hd tag node hnode)]
  constructor
  · rintro ⟨parts, hparts⟩
    exact ⟨exists_tag_of_denotesParts hparts, parts, hparts⟩
  · rintro ⟨-, hparts⟩
    exact hparts

end Declaration

/-- A domain that says some things twice: a kind by two words, events under two keys, and
query stores in three places. -/
def bazaarDomain : Domain where
  name := "Bazaar"
  sections := .ofList
    [("entity", .ofEntries [("stall", .list [.string "rent", .string "rent"])]),
      ("value_object", .ofEntries
        [("money", .ofEntries [("kind", .string "int"), ("type", .string "float")])]),
      ("command", .ofEntries
        [("trade", .ofEntries [("event", .ofEntries [("bought", .null)]),
          ("events", .ofEntries [("sold", .string "trade")])])]),
      ("repository", .ofEntries
        [("archive", .null), ("query", .ofEntries [("stall", .null), ("ware", .null)]),
          ("query_store", .ofEntries [("stall", .list [.string "App\\Rows"])])]),
      ("repository_query_store", .ofEntries
        [("ware", .list [.ofEntries [("limit", .string "int")]])])]

/-- The later word, the later key and the later place count. -/
theorem ofDomain_grammar_bazaarDomain :
    bazaarDomain.Ordered ∧
      ∃ decl, Declaration.ofDomain bazaarDomain = .ok decl ∧ bazaarDomain.Denotes decl ∧
        decl.sections.find? .valueObject "money" = some { kind := some "float" } ∧
        decl.sections.find? .command "trade"
          = some { events := .ofList [("sold", .next "trade")] } ∧
        decl.sections.find? .repository "archive" = some {} ∧
        decl.sections.find? .repositoryQueryStore "stall"
          = some { args := [.external "App\\Rows"] } ∧
        decl.sections.find? .repositoryQueryStore "ware"
          = some { args := [.scalar "limit" .int] } := by
  have hordered : bazaarDomain.Ordered := by
    refine .ofEntries ?_
    simp only [List.forall_mem_cons]
    refine ⟨.ofEntries ?_, .ofEntries ?_, .ofEntries ?_, .ofEntries ?_, .ofEntries ?_,
      List.forall_mem_nil _⟩ <;>
      simp [Node.Ordered.ofEntries, Node.Ordered.list, Node.Ordered.string, Node.Ordered.null]
  have hfacts : (Declaration.ofDomain bazaarDomain).toOption.any (fun decl => decide
      (decl.sections.find? .valueObject "money" = some { kind := some "float" } ∧
        decl.sections.find? .command "trade"
          = some { events := .ofList [("sold", .next "trade")] } ∧
        decl.sections.find? .repository "archive" = some {} ∧
        decl.sections.find? .repositoryQueryStore "stall"
          = some { args := [.external "App\\Rows"] } ∧
        decl.sections.find? .repositoryQueryStore "ware"
          = some { args := [.scalar "limit" .int] })) = true := by decide +kernel
  cases hdecl : Declaration.ofDomain bazaarDomain with
  | error fault =>
    rw [hdecl] at hfacts
    cases hfacts
  | ok decl =>
    rw [hdecl] at hfacts
    have hdenotes := ((Declaration.ofDomain_grammar hordered).2 decl).mp hdecl
    exact ⟨hordered, decl, rfl, hdenotes, of_decide_eq_true hfacts⟩

end Scaffold
