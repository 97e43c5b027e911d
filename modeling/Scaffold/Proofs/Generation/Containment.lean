import Scaffold.Generation
import Scaffold.Proofs.Expansion.Interfaces
import Scaffold.Proofs.Path

/-!
# Where files go

The files of a domain go below the directory of the domain, each into the directory of
its type, as long as artifacts are called after names without slashes.  The names of
all artifacts come from names that are checked when they are read, but one: the
interface of a repository may be declared for an entity that is not, and the text that
stands for it is checked nowhere.  So the files of a domain stay where they belong
exactly when no declared interface of a repository names an entity with a slash.

## Main definitions

* `Leaf.logicalName` — the name that a leaf is called after.
* `Leaf.Contained` — its file lies in the directory of its type.

## Main results

* `Leaf.contained_iff` — one file.
* `Domain.leaves_contained_iff` — the files of a domain.
-/

namespace Scaffold

/-- The name of a file does not start at the root where what it is called after has no
slash. -/
theorem head?_targetFile_ne_slash {o : RunOptions} {r : ResolvedNames}
    (hslash : '/' ∉ r.emittedName.toList) : (targetFile o r).toList.head? ≠ some '/' := by
  unfold targetFile
  rw [String.toList_append, String.toList_append]
  intro hhead
  cases hname : r.emittedName.toList with
  | nil =>
    rw [hname] at hhead
    exact absurd (Option.some.inj hhead) (by decide)
  | cons c cs =>
    rw [hname] at hhead
    rw [hname, List.mem_cons, not_or] at hslash
    exact hslash.1 (Option.some.inj hhead).symm

/-! ### What leaves are called after -/

namespace Leaf

/-- The name that a leaf is called after. -/
def logicalName (l : Leaf) : String :=
  if l.type = .repositoryInterface then l.abstractedName else l.name

theorem slash_mem_emittedName_names_iff {l : Leaf} :
    '/' ∈ l.names.emittedName.toList ↔ '/' ∈ l.logicalName.toList := by
  unfold names logicalName
  split
  · exact slash_mem_emittedName_iff
  · exact slash_mem_emittedName_iff

theorem slash_mem_of_afterDot? {name rest : String} (h : afterDot? name = some rest)
    (hmem : '/' ∈ rest.toList) : '/' ∈ name.toList := by
  unfold afterDot? at h
  split at h
  · cases h
  · next c cs hdrop =>
    obtain rfl := Option.some.inj h
    rw [String.toList_ofList] at hmem
    have hsuffix : '/' ∈ name.toList.dropWhile (· != '.') := by
      rw [hdrop]
      exact List.mem_cons_of_mem _ hmem
    exact (List.dropWhile_suffix _).subset hsuffix

/-- An interface is called after its entity, or else after a part of its key. -/
theorem slash_mem_abstractedName {l : Leaf} (h : '/' ∈ l.abstractedName.toList) :
    (∃ entity, l.spec.entity = some entity ∧ '/' ∈ entity.toList) ∨ '/' ∈ l.name.toList := by
  unfold abstractedName at h
  cases hentity : l.spec.entity with
  | some entity =>
    rw [hentity] at h
    exact .inl ⟨entity, rfl, h⟩
  | none =>
    rw [hentity, Option.orElse_none] at h
    cases hdot : afterDot? l.name with
    | some rest =>
      rw [hdot] at h
      exact .inr (slash_mem_of_afterDot? hdot h)
    | none =>
      rw [hdot] at h
      exact .inr h

/-! ### One file -/

/-- The file of a leaf lies in the directory of its type: below the directory of the run
stand the domain, the parts of the namespace and one name. -/
def Contained (o : RunOptions) (domain : String) (l : Leaf) : Prop :=
  targetPath o domain l.names
      = o.outputDir.below (domain :: l.type.namespaceSegments ++ [targetFile o l.names]) ∧
    '/' ∉ (targetFile o l.names).toList

theorem slash_mem_targetFile_iff {o : RunOptions} (ho : '/' ∉ o.extension.toList) {l : Leaf} :
    '/' ∈ (targetFile o l.names).toList ↔ '/' ∈ l.logicalName.toList := by
  unfold targetFile
  rw [String.toList_append, List.mem_append, or_iff_left ho, String.toList_append,
    List.mem_append, or_iff_left (by decide), slash_mem_emittedName_names_iff]

/-- **A path leads below the directory of the run** if its artifact is called after a name
without slashes. -/
theorem targetPath_eq_below {o : RunOptions} {domain : String} {l : Leaf}
    (hdomain : Name.isValid domain = true) (hslash : '/' ∉ l.names.emittedName.toList) :
    targetPath o domain l.names
      = o.outputDir.below (domain :: l.type.namespaceSegments ++ [targetFile o l.names]) := by
  have hparts : ∀ part ∈ domain :: l.type.namespaceSegments,
      part ≠ "" ∧ '/' ∉ part.toList := by
    refine List.forall_mem_cons.mpr ⟨⟨?_, Name.slash_not_mem_of_isValid hdomain⟩,
      namespaceSegments_ne_and_slash_not_mem _⟩
    rintro rfl
    cases hdomain
  rw [← Path.joinAll_eq_below hparts (head?_targetFile_ne_slash hslash), Path.joinAll_append]
  unfold targetPath
  rw [artifactType_names]
  rfl

/-- **A file is contained** exactly when the name its leaf is called after holds no slash. -/
theorem contained_iff {o : RunOptions} {domain : String} {l : Leaf}
    (ho : '/' ∉ o.extension.toList) (hdomain : Name.isValid domain = true) :
    Contained o domain l ↔ '/' ∉ l.logicalName.toList := by
  unfold Contained
  rw [slash_mem_targetFile_iff ho]
  refine and_iff_right_of_imp fun hslash => targetPath_eq_below hdomain ?_
  exact mt slash_mem_emittedName_names_iff.mp hslash

end Leaf

/-! ### The files of a domain -/

/-- **The files of a domain stay below the directories of their types** exactly when no
declared interface of a repository is bound to an entity with a slash in its name. -/
theorem Domain.leaves_contained_iff {dom : Domain} {b : Blueprint} (h : dom.expand = .ok b) :
    ∃ d, Declaration.ofDomain dom = .ok d ∧
      ∀ o : RunOptions, '/' ∉ o.extension.toList →
        ((∀ l ∈ b.leaves, l.Contained o b.domain) ↔
          ∀ name spec entity, d.sections.find? .repositoryInterface name = some spec →
            spec.entity = some entity → '/' ∉ entity.toList) := by
  obtain ⟨hvalidate, d, hd, s, hs, rfl⟩ := Domain.expand_eq_ok_iff.mp h
  refine ⟨d, hd, fun o ho => ?_⟩
  have hread : ∀ t name spec, d.sections.find? t name = some spec →
      Name.isValid name = true ∧ spec.EventsValid :=
    fun _ _ _ hspec => Declaration.isValid_of_ofDomain hd hspec
  have hsound : d.Sound :=
    (Declaration.merges_iff_sound (Declaration.derived_of_ofDomain hd)).mp ⟨s, hs⟩
  obtain ⟨-, -, -, rfl⟩ := Declaration.merge_eq_ok_iff.mp hs
  have hvalid := (Domain.validate_eq_ok_iff.mp hvalidate).1
  simp only [Blueprint.domain_ofSections, Leaf.contained_iff ho hvalid,
    Blueprint.mem_leaves_ofSections_iff]
  constructor
  · intro hleaves name spec entity hspec hentity hslash
    -- the interface as declared is a leaf, and it is called after its entity
    refine hleaves ⟨_, .repositoryInterface, name, spec⟩ ⟨rfl, ?_⟩ ?_
    · exact Sections.find?_addInterfaces_of_some (Declaration.find?_assemble_of_declared hspec)
    · rw [Leaf.logicalName, if_pos rfl, Leaf.abstractedName, hentity]
      exact hslash
  · rintro hentities l ⟨-, hfind⟩ hslash
    unfold Leaf.logicalName at hslash
    split at hslash
    · -- an interface that nobody declared has a checked entity, and a declared one has a
      -- checked key
      next htype =>
      rw [htype] at hfind
      rcases Declaration.entity_of_repositoryInterface hread hsound hfind with
        hown | ⟨entity, hentity, hname⟩
      · rcases Leaf.slash_mem_abstractedName hslash with ⟨entity, hentity, hmem⟩ | hmem
        · exact hentities l.name l.spec entity hown hentity hmem
        · exact Name.slash_not_mem_of_isValid (hread _ _ _ hown).1 hmem
      · rw [Leaf.abstractedName, hentity] at hslash
        exact Name.slash_not_mem_of_isValid hname hslash
    · next htype =>
      have hmem : l.name ∈ d.names l.type := by
        rw [← hsound.commandsBound.has_merged_iff, Sections.has, hfind, Option.isSome_some]
      exact Name.slash_not_mem_of_isValid
        (Declaration.isValid_of_mem_names hread hsound htype hmem) hslash

/-- A domain with a declared interface of a repository that is bound to an entity. -/
def catalogDomain : Domain where
  name := "Shop"
  sections := .ofList
    [("entity", .map [("product", .list [])]), ("value_object", .null), ("command", .null),
      ("repository_interface", .map [("catalog", .map [("entity", .string "product")])])]

theorem leaves_contained_catalogDomain :
    ∃ b d, catalogDomain.expand = .ok b ∧ Declaration.ofDomain catalogDomain = .ok d ∧
      d.entries .repositoryInterface = [("catalog", { entity := some "product" })] ∧
      ∀ l ∈ b.leaves, l.Contained {} b.domain := by
  have hok : catalogDomain.expand.isOk = true := by decide +kernel
  have hread : (Declaration.ofDomain catalogDomain).toOption.map (·.entries .repositoryInterface)
      = some [("catalog", { entity := some "product" })] := by decide +kernel
  obtain ⟨b, hb⟩ := Except.exists_eq_ok_of_isOk hok
  obtain ⟨d, hd, hiff⟩ := Domain.leaves_contained_iff hb
  rw [hd] at hread
  have hentries : d.entries .repositoryInterface = _ := Option.some.inj hread
  refine ⟨b, d, hb, hd, hentries, (hiff {} (by decide)).mpr fun name spec entity hspec => ?_⟩
  rw [← Declaration.mem_entries_iff, hentries, List.mem_singleton] at hspec
  obtain ⟨rfl, rfl⟩ := Prod.mk.inj hspec
  rintro ⟨⟩
  decide

/-- A domain with a declared interface of a repository that is bound to a path. -/
def cronDomain : Domain where
  name := "User"
  sections := .ofList
    [("entity", .map [("user", .list [])]), ("value_object", .null), ("command", .null),
      ("repository_interface", .map [("x", .map [("entity", .string "/etc/cron.d/job")])])]

/-- Its interface is written outside the directory of the run. -/
theorem exists_leaf_not_contained :
    ∃ b l, cronDomain.expand = .ok b ∧ l ∈ b.leaves ∧
      targetPath {} b.domain l.names = ⟨"/etc/cron.d/jobRepositoryInterface.php"⟩ ∧
      ¬l.Contained {} b.domain := by
  have hleaf : cronDomain.anyLeaf (fun b l =>
      targetPath {} b.domain l.names = ⟨"/etc/cron.d/jobRepositoryInterface.php"⟩ &&
        (targetFile {} l.names).toList.contains '/') = true := by decide +kernel
  obtain ⟨b, l, hb, hl, hleaf⟩ := Domain.exists_leaf_of_anyLeaf hleaf
  rw [Bool.and_eq_true, decide_eq_true_eq, List.contains_iff_mem] at hleaf
  exact ⟨b, l, hb, hl, hleaf.1, fun h => h.2 hleaf.2⟩

end Scaffold
