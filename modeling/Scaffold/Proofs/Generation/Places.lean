import Mathlib.Data.List.Nodup
import Scaffold.Proofs.Generation.Containment
import Scaffold.Proofs.Generation.WriteOnce
import Scaffold.Template

/-!
# A file for every artifact

A path tells the domain, the type and the emitted name of its artifact, for namespaces
hold no dots and every file name does.  So two leaves of a run share a path only if they
are of one domain and one type and are called alike.  Where the names in each section
make different class names this leaves the interfaces of repositories, which are called
after what stands behind them.  Two of them are called alike if one stands for a
repository of tasks and the other for a repository whose name ends in that word, or if
an author declares one beside that of a repository, or if one of them stands for an
entity that its key does not name.

Where no two leaves collide in one of these ways, nothing is passed over as a duplicate,
and every leaf gets a file of its own.

## Main definitions

* `Blueprint.NamesDistinct` — in each section, names make different class names.
* `Leaf.Collides` — the ways in which the interfaces of repositories are called alike.

## Main results

* `ResolvedNames.components_targetPath_inj` — what a path tells.
* `Domain.collides_of_emittedName_eq` — which leaves of a type are called alike.
* `Schema.files_apart` — the files of a run.
-/

namespace Scaffold

open Name

/-! ### What a path tells -/

theorem plain_namespaceSegments (t : ArtifactType) :
    ∀ part ∈ t.namespaceSegments, Path.Plain part := by
  intro part hpart
  obtain ⟨hne, hslash⟩ := namespaceSegments_ne_and_slash_not_mem t part hpart
  exact ⟨hne, hslash, dot_not_mem_namespaceSegments t part hpart⟩

namespace ResolvedNames

variable {o : RunOptions} {domain domain' : String} {r r' : ResolvedNames}

/-- The components of a path: below the directory of the run those of the domain, of the
namespace and of the file. -/
theorem components_targetPath (o : RunOptions) (hdomain : Path.Plain domain)
    (hslash : '/' ∉ r.emittedName.toList) :
    (targetPath o domain r).components
      = o.outputDir.components ++ (domain :: (r.artifactType.namespaceSegments ++
          Path.named (targetFile o r).toList)) := by
  have hdir : ((o.outputDir.join domain).joinAll r.artifactType.namespaceSegments).components
      = o.outputDir.components ++ domain :: r.artifactType.namespaceSegments := by
    have hparts : ∀ part ∈ domain :: r.artifactType.namespaceSegments, Path.Plain part :=
      List.forall_mem_cons.mpr ⟨hdomain, plain_namespaceSegments _⟩
    exact Path.components_joinAll hparts o.outputDir
  unfold targetPath
  rw [Path.components_join (head?_targetFile_ne_slash hslash) (.inl ?_), hdir,
    List.append_assoc, List.cons_append]
  rw [hdir]
  exact List.append_ne_nil_of_right_ne_nil _ (List.cons_ne_nil _ _)

/-- **A path tells the domain, the type and the emitted name** of an artifact. -/
theorem components_targetPath_inj (hdomain : Path.Plain domain) (hdomain' : Path.Plain domain')
    (hslash : '/' ∉ r.emittedName.toList) (hslash' : '/' ∉ r'.emittedName.toList) :
    (targetPath o domain r).components = (targetPath o domain' r').components ↔
      domain = domain' ∧ r.artifactType = r'.artifactType ∧ r.emittedName = r'.emittedName := by
  have hfile (r : ResolvedNames) :
      (targetFile o r).toList = r.emittedName.toList ++ '.' :: o.extension.toList := by
    rw [targetFile, String.toList_append, String.toList_append, List.append_assoc]
    rfl
  obtain ⟨part, parts, hsplit⟩ :=
    List.exists_cons_of_ne_nil (Path.splitSlashes_ne_nil o.extension.toList)
  rw [components_targetPath o hdomain hslash, components_targetPath o hdomain' hslash',
    List.append_cancel_left_eq, List.cons.injEq, hfile, hfile, Path.named_append_dot hslash hsplit,
    Path.named_append_dot hslash' hsplit, ← List.append_assoc, ← List.append_assoc,
    List.append_cancel_right_eq,
    Path.append_dotted_inj (dot_not_mem_namespaceSegments _) (dot_not_mem_namespaceSegments _),
    namespaceSegments_inj, String.toList_inj]

end ResolvedNames

/-! ### Interfaces that are called alike -/

/-- In each section, different names make different class names. -/
def Blueprint.NamesDistinct (b : Blueprint) : Prop :=
  ∀ l ∈ b.leaves, ∀ m ∈ b.leaves, l.type = m.type →
    className l.type l.name = className m.type m.name → l.name = m.name

instance (b : Blueprint) : Decidable b.NamesDistinct :=
  inferInstanceAs (Decidable (∀ l ∈ b.leaves, ∀ m ∈ b.leaves, l.type = m.type →
    className l.type l.name = className m.type m.name → l.name = m.name))

theorem Blueprint.NamesDistinct.name_eq {domain : String} {s : Sections}
    (h : (ofSections domain s).NamesDistinct) {t : ArtifactType} {m n : String}
    {spec spec' : Spec} (hm : s.find? t m = some spec) (hn : s.find? t n = some spec')
    (hclass : className t m = className t n) : m = n :=
  h ⟨t.layer, t, m, spec⟩ (mem_leaves_ofSections_iff.mpr ⟨rfl, hm⟩)
    ⟨t.layer, t, n, spec'⟩ (mem_leaves_ofSections_iff.mpr ⟨rfl, hn⟩) rfl hclass

namespace Leaf

/-- The kind of repository that an interface stands for. -/
def repositoryKind (l : Leaf) : ArtifactType := l.spec.repository.getD .repository

/-- What the key of an interface says that it is called after. -/
def keyName (l : Leaf) : String := (afterDot? l.name).getD l.name

/-- The name that an interface is called after, in the case of its file. -/
def stem (l : Leaf) : String := camelCase l.abstractedName

/-- The first stands for a repository of tasks, and the second is called as if it did. -/
def ReadsAsTask (l m : Leaf) : Prop :=
  l.repositoryKind = .repositoryTask ∧ m.repositoryKind = .repository ∧ m.stem = l.stem ++ "Task"

/-- The first is an author's, and the second is that of a repository of the same name. -/
def DeclaredBeside (l m : Leaf) : Prop :=
  l.spec.repository = none ∧ m.spec.repository = some .repository ∧ l.stem = m.stem

/-- The first stands for another entity than its key says, and is called as the second is. -/
def BoundElsewhere (l m : Leaf) : Prop :=
  l.repositoryKind = m.repositoryKind ∧ l.stem = m.stem ∧ l.stem ≠ camelCase l.keyName

/-- Two interfaces of repositories are called alike, in one of three ways. -/
def Collides (l m : Leaf) : Prop :=
  l.type = .repositoryInterface ∧ m.type = .repositoryInterface ∧
    (l.ReadsAsTask m ∨ l.DeclaredBeside m ∨ l.BoundElsewhere m)

instance (l m : Leaf) : Decidable (l.Collides m) :=
  inferInstanceAs (Decidable (l.type = .repositoryInterface ∧ m.type = .repositoryInterface ∧
    ((l.repositoryKind = .repositoryTask ∧ m.repositoryKind = .repository ∧
        m.stem = l.stem ++ "Task") ∨
      (l.spec.repository = none ∧ m.spec.repository = some .repository ∧ l.stem = m.stem) ∨
      (l.repositoryKind = m.repositoryKind ∧ l.stem = m.stem ∧ l.stem ≠ camelCase l.keyName))))

end Leaf

namespace Declaration

variable {d : Declaration} {l m : Leaf}

/-- **An interface of a repository** is an author's, called after its key, or that of a
repository that the key tells. -/
theorem origin_of_repositoryInterface
    (hread : ∀ name spec, d.sections.find? .repositoryInterface name = some spec →
      Name.isValid name = true ∧ spec.AsRead) (htype : l.type = .repositoryInterface)
    (hl : d.withDefaults.assemble.addInterfaces.find? l.type l.name = some l.spec) :
    l.spec.repository = none ∧ l.name = l.keyName ∨
      ∃ concrete ∈ ArtifactType.repositories, l.spec.repository = some concrete ∧
        l.name = repositoryInterfaceKey concrete l.keyName ∧
        ∃ own, d.withDefaults.assemble.addInterfaces.find? concrete l.keyName = some own := by
  rw [htype] at hl
  unfold Leaf.keyName
  rcases find?_repositoryInterface_cases hl with hown | ⟨concrete, hc, name, own, hown, hkey, hspec⟩
  · obtain ⟨hvalid, hasRead⟩ := hread _ _ hown
    refine .inl ⟨hasRead.repository, ?_⟩
    rw [afterDot?_of_not_mem (Name.dot_not_mem_of_isValid hvalid)]
    rfl
  · have hne : concrete ≠ .repositoryInterface := by
      rintro rfl
      exact absurd hc (by decide)
    rw [← hkey, afterDot?_repositoryInterfaceKey, Option.getD_some, hspec]
    exact .inr ⟨concrete, hc, rfl, rfl, own, by rw [Sections.find?_addInterfaces_of_ne hne, hown]⟩

/-- Interfaces for repositories of one kind with keys that read alike have one key, or one
of them is an author's. -/
theorem keys_of_repositoryInterface
    (hread : ∀ name spec, d.sections.find? .repositoryInterface name = some spec →
      Name.isValid name = true ∧ spec.AsRead) {domain : String}
    (hnames : (Blueprint.ofSections domain d.withDefaults.assemble.addInterfaces).NamesDistinct)
    (hltype : l.type = .repositoryInterface) (hmtype : m.type = .repositoryInterface)
    (hl : d.withDefaults.assemble.addInterfaces.find? l.type l.name = some l.spec)
    (hm : d.withDefaults.assemble.addInterfaces.find? m.type m.name = some m.spec)
    (hkind : l.repositoryKind = m.repositoryKind)
    (hkeys : camelCase l.keyName = camelCase m.keyName) :
    l.name = m.name ∨ (l.spec.repository = none ∧ m.spec.repository = some .repository ∨
      m.spec.repository = none ∧ l.spec.repository = some .repository) := by
  unfold Leaf.repositoryKind at hkind
  rcases origin_of_repositoryInterface hread hltype hl with
    ⟨hlnone, hlname⟩ | ⟨concrete, hc, hlsome, hlname, own, hown⟩
  · rcases origin_of_repositoryInterface hread hmtype hm with
      ⟨-, hmname⟩ | ⟨concrete', -, hmsome, -, -⟩
    · -- two names of the section that the interfaces are in
      rw [hltype] at hl
      rw [hmtype] at hm
      refine .inl (hnames.name_eq hl hm ((className_inj (by decide)).mpr ?_))
      rw [hlname, hmname]
      exact hkeys
    · rw [hlnone, hmsome] at hkind
      obtain rfl : ArtifactType.repository = concrete' := hkind
      exact .inr (.inl ⟨hlnone, hmsome⟩)
  · rcases origin_of_repositoryInterface hread hmtype hm with
      ⟨hmnone, -⟩ | ⟨concrete', -, hmsome, hmname, own', hown'⟩
    · rw [hlsome, hmnone] at hkind
      obtain rfl : concrete = .repository := hkind
      exact .inr (.inr ⟨hmnone, hlsome⟩)
    · -- two names of the section that their repositories are in
      rw [hlsome, hmsome] at hkind
      obtain rfl : concrete = concrete' := hkind
      have hevent : concrete ≠ .event := by
        rintro rfl
        exact absurd hc (by decide)
      have hname := hnames.name_eq hown hown' ((className_inj hevent).mpr hkeys)
      rw [hlname, hmname, hname]
      exact .inl rfl

end Declaration

variable {dom : Domain} {b : Blueprint} {l m : Leaf}

theorem repositoryKind_mem_of_expand (h : dom.expand = .ok b) (hl : l ∈ b.leaves)
    (htype : l.type = .repositoryInterface) : l.repositoryKind ∈ ArtifactType.repositories := by
  obtain ⟨-, d, hd, -, rfl⟩ := Domain.exists_of_expand h
  unfold Leaf.repositoryKind
  rcases Declaration.origin_of_repositoryInterface
    (fun _ _ => Declaration.asRead_of_ofDomain hd) htype
    (Blueprint.mem_leaves_ofSections_iff.mp hl).2 with ⟨hnone, -⟩ | ⟨concrete, hc, hsome, -⟩
  · rw [hnone]
    decide
  · rw [hsome]
    exact hc

/-- Two interfaces for repositories of one kind are called alike only if one of them is
declared beside the other, or stands for another entity than its key says. -/
theorem collides_of_stem_eq (h : dom.expand = .ok b) (hnames : b.NamesDistinct)
    (hl : l ∈ b.leaves) (hm : m ∈ b.leaves) (hne : l ≠ m) (hltype : l.type = .repositoryInterface)
    (hmtype : m.type = .repositoryInterface) (hkind : l.repositoryKind = m.repositoryKind)
    (hstem : l.stem = m.stem) : l.Collides m ∨ m.Collides l := by
  by_cases hlkey : l.stem = camelCase l.keyName
  case neg => exact .inl ⟨hltype, hmtype, .inr (.inr ⟨hkind, hstem, hlkey⟩)⟩
  by_cases hmkey : m.stem = camelCase m.keyName
  case neg => exact .inr ⟨hmtype, hltype, .inr (.inr ⟨hkind.symm, hstem.symm, hmkey⟩)⟩
  have hkeys : camelCase l.keyName = camelCase m.keyName := by rw [← hlkey, hstem, hmkey]
  obtain ⟨-, d, hd, -, rfl⟩ := Domain.exists_of_expand h
  rcases Declaration.keys_of_repositoryInterface (fun _ _ => Declaration.asRead_of_ofDomain hd)
    hnames hltype hmtype (Blueprint.mem_leaves_ofSections_iff.mp hl).2
    (Blueprint.mem_leaves_ofSections_iff.mp hm).2 hkind hkeys with
    hname | ⟨hlnone, hmsome⟩ | ⟨hmnone, hlsome⟩
  · exact absurd (Blueprint.eq_of_mem_leaves hl hm (hltype.trans hmtype.symm) hname) hne
  · exact .inl ⟨hltype, hmtype, .inr (.inl ⟨hlnone, hmsome, hstem⟩)⟩
  · exact .inr ⟨hmtype, hltype, .inr (.inl ⟨hmnone, hlsome, hstem.symm⟩)⟩

/-- **Leaves of a type that are called alike** are interfaces of repositories. -/
theorem Domain.collides_of_emittedName_eq (h : dom.expand = .ok b) (hnames : b.NamesDistinct)
    (hl : l ∈ b.leaves) (hm : m ∈ b.leaves) (hne : l ≠ m) (htype : l.type = m.type)
    (hemitted : l.names.emittedName = m.names.emittedName) : l.Collides m ∨ m.Collides l := by
  by_cases hltype : l.type = .repositoryInterface
  case neg =>
    have hmtype : m.type ≠ .repositoryInterface := htype ▸ hltype
    rw [Leaf.names_of_ne hltype, Leaf.names_of_ne hmtype, emittedName_resolve,
      emittedName_resolve] at hemitted
    have hname := hnames l hl m hm htype hemitted
    obtain ⟨-, d, -, -, rfl⟩ := Domain.exists_of_expand h
    exact absurd (Blueprint.eq_of_mem_leaves hl hm htype hname) hne
  have hmtype : m.type = .repositoryInterface := htype.symm.trans hltype
  rw [Leaf.emittedName_of_repositoryInterface hltype,
    Leaf.emittedName_of_repositoryInterface hmtype] at hemitted
  rcases interfaceName_eq_cases (repositoryKind_mem_of_expand h hl hltype)
    (repositoryKind_mem_of_expand h hm hmtype) hemitted with
    ⟨hkind, hstem⟩ | ⟨hlkind, hmkind, hstem⟩ | ⟨hmkind, hlkind, hstem⟩
  · exact collides_of_stem_eq h hnames hl hm hne hltype hmtype hkind hstem
  · exact .inr ⟨hmtype, hltype, .inl ⟨hmkind, hlkind, hstem⟩⟩
  · exact .inl ⟨hltype, hmtype, .inl ⟨hlkind, hmkind, hstem⟩⟩

/-! ### The files of a run -/

theorem plain_domain_of_expand (h : dom.expand = .ok b) : Path.Plain b.domain := by
  obtain ⟨hvalid, d, -, -, rfl⟩ := Domain.exists_of_expand h
  rw [Blueprint.domain_ofSections]
  refine ⟨?_, Name.slash_not_mem_of_isValid hvalid, Name.dot_not_mem_of_isValid hvalid⟩
  intro hempty
  rw [hempty] at hvalid
  cases hvalid

theorem exists_domain_of_mem_expand {schema : Schema} {only : Option String}
    {blueprints : List Blueprint} (h : schema.expand only = .ok blueprints)
    (hb : b ∈ blueprints) : ∃ dom : Domain, dom.expand = .ok b := by
  obtain ⟨dom, -, hdom⟩ := Except.exists_of_mapM_eq_ok h hb
  exact ⟨dom, hdom⟩

theorem mem_jobs_iff {blueprints : List Blueprint} {j : Job} :
    j ∈ jobs blueprints ↔ j.blueprint ∈ blueprints ∧ j.leaf ∈ j.blueprint.leaves := by
  rw [jobs, List.mem_flatMap]
  constructor
  · rintro ⟨b, hb, hj⟩
    obtain ⟨l, hl, rfl⟩ := List.mem_map.mp hj
    exact ⟨hb, hl⟩
  · rintro ⟨hb, hl⟩
    have hj : j ∈ j.blueprint.leaves.map (Job.mk j.blueprint) :=
      List.mem_map.mpr ⟨j.leaf, hl, rfl⟩
    exact ⟨j.blueprint, hb, hj⟩

/-- No job comes twice where no domain does. -/
theorem nodup_jobs {blueprints : List Blueprint} (h : (blueprints.map (·.domain)).Nodup) :
    (jobs blueprints).Nodup := by
  refine List.pairwise_flatMap.mpr ⟨?_, ?_⟩
  · intro b _
    refine List.pairwise_map.mpr (b.nodup_leaves.imp ?_)
    intro l m hne heq
    exact hne (Job.mk.inj heq).2
  · refine (List.pairwise_map.mp h).imp ?_
    intro b c hne i hi j hj heq
    obtain ⟨l, -, rfl⟩ := List.mem_map.mp hi
    obtain ⟨m, -, rfl⟩ := List.mem_map.mp hj
    apply hne
    rw [(Job.mk.inj heq).1]

theorem Schema.nodup_domains_of_expand {schema : Schema} {only : Option String}
    {blueprints : List Blueprint} (h : schema.expand only = .ok blueprints)
    (hdomains : schema.domainNames.Nodup) : (blueprints.map (·.domain)).Nodup := by
  rw [Schema.domains_of_expand h]
  unfold Schema.selected
  split
  · exact hdomains
  · exact hdomains.sublist (List.filter_sublist.map _)

section Run

variable {schema : Schema} {o : RunOptions} {blueprints : List Blueprint}

/-- **Leaves of one place** are interfaces of repositories that collide. -/
theorem Job.collides_of_place_eq (h : schema.expand o.domain = .ok blueprints)
    (hdomains : schema.domainNames.Nodup) (hnames : ∀ b ∈ blueprints, b.NamesDistinct)
    (hslash : ∀ b ∈ blueprints, ∀ l ∈ b.leaves, '/' ∉ l.logicalName.toList) {i j : Job}
    (hi : i ∈ jobs blueprints) (hj : j ∈ jobs blueprints) (hne : i ≠ j)
    (hplace : i.place o = j.place o) :
    i.blueprint = j.blueprint ∧ (i.leaf.Collides j.leaf ∨ j.leaf.Collides i.leaf) := by
  obtain ⟨b, l⟩ := i
  obtain ⟨c, m⟩ := j
  obtain ⟨hb, hl⟩ := mem_jobs_iff.mp hi
  obtain ⟨hc, hm⟩ := mem_jobs_iff.mp hj
  dsimp only at hb hl hc hm ⊢
  obtain ⟨dom, hdom⟩ := exists_domain_of_mem_expand h hb
  obtain ⟨dom', hdom'⟩ := exists_domain_of_mem_expand h hc
  obtain ⟨hdomain, htype, hemitted⟩ := (ResolvedNames.components_targetPath_inj
    (plain_domain_of_expand hdom) (plain_domain_of_expand hdom')
    (mt Leaf.slash_mem_emittedName_names_iff.mp (hslash b hb l hl))
    (mt Leaf.slash_mem_emittedName_names_iff.mp (hslash c hc m hm))).mp hplace
  rw [Leaf.artifactType_names, Leaf.artifactType_names] at htype
  obtain rfl : b = c :=
    List.inj_on_of_nodup_map (Schema.nodup_domains_of_expand h hdomains) hb hc hdomain
  refine ⟨rfl, Domain.collides_of_emittedName_eq hdom (hnames b hb) hl hm ?_ htype hemitted⟩
  rintro rfl
  exact hne rfl

/-- Where no two leaves have one place, a run that ends passes over what is there, and
leaves the file of every other leaf behind. -/
theorem files_of_pairwise {templates : TemplateSet} {s s' : FileStore} {report : RunReport}
    (h : schema.expand o.domain = .ok blueprints)
    (hplaces : (jobs blueprints).Pairwise fun i j => i.place o ≠ j.place o)
    (hrun : (execute FileStore.system templates o schema).run s = (.ok report, s')) :
    report.written = ((jobs blueprints).filter fun j => !s.has (j.target o)).map (·.target o) ∧
      report.skipped = ((jobs blueprints).filter fun j => s.has (j.target o)).map
        (fun j => ⟨j.leaf.path, j.target o, .present⟩) ∧
      (o.dryRun = false → ∀ j ∈ jobs blueprints, s'.has (j.target o) = true ∧
        (s.has (j.target o) = false → ∃ content, j.source o templates = .ok content ∧
          s'.files.get? (j.target o).text = some content)) := by
  rw [run_execute_of_ok h] at hrun
  cases hleaves : (runLeaves FileStore.system templates o {} (jobs blueprints)).run s with
  | mk result store =>
  rw [hleaves] at hrun
  cases result with
  | error fault => cases hrun
  | ok p =>
  obtain ⟨hreport, rfl⟩ := Prod.mk.inj hrun
  obtain rfl := Except.ok.inj hreport
  obtain ⟨hfill, rfl⟩ := runLeaves_eq_ok_iff.mp hleaves
  refine ⟨?_, ?_, ?_⟩
  · rw [← due_of_pairwise hplaces]
    rfl
  · rw [← passedOver_of_pairwise hplaces]
    rfl
  · intro hwet j hj
    cases hhas : s.has (j.target o) with
    | true => exact ⟨(has_of_runLeaves hwet hleaves).mpr (.inl hhas), nofun⟩
    | false =>
      -- the file was missing, so the leaf was due and has been filled in
      have hdue : j ∈ due o s [] (jobs blueprints) := by
        rw [due_of_pairwise hplaces, List.mem_filter, hhas]
        exact ⟨hj, rfl⟩
      have hfirst : FirstIn o (jobs blueprints) j := (mem_due_iff.mp hdue).2.1
      obtain ⟨content, hsource⟩ := FileStore.exists_source_of_fill hfill j hdue
      have hfile : store.files.get? (j.target o).text = some content :=
        (get?_files_of_runLeaves hwet hleaves).mpr (.inr ⟨j, hfirst, hhas, rfl, hsource⟩)
      have htaken : store.has (j.target o) = true :=
        (has_of_runLeaves hwet hleaves).mpr (.inr ⟨j, hfirst, hhas, rfl⟩)
      exact ⟨htaken, fun _ => ⟨content, hsource, hfile⟩⟩

/-- **A file for every artifact.**  Where each section gives its names different class
names and no artifact is called after a name with a slash, two leaves of a run have one
place only if they are interfaces of repositories that collide.  If none do, a run that
ends passes over nothing but what is there, and leaves a file at the place of every leaf,
with the source of the leaf unless it was there before. -/
theorem Schema.files_apart (h : schema.expand o.domain = .ok blueprints)
    (hdomains : schema.domainNames.Nodup) (hnames : ∀ b ∈ blueprints, b.NamesDistinct)
    (hslash : ∀ b ∈ blueprints, ∀ l ∈ b.leaves, '/' ∉ l.logicalName.toList) :
    (∀ i ∈ jobs blueprints, ∀ j ∈ jobs blueprints, i ≠ j → i.place o = j.place o →
      i.blueprint = j.blueprint ∧ (i.leaf.Collides j.leaf ∨ j.leaf.Collides i.leaf)) ∧
    ((∀ b ∈ blueprints, ∀ l ∈ b.leaves, ∀ m ∈ b.leaves, l ≠ m → ¬l.Collides m) →
      ∀ templates s report s',
        (execute FileStore.system templates o schema).run s = (.ok report, s') →
        report.written
            = ((jobs blueprints).filter fun j => !s.has (j.target o)).map (·.target o) ∧
          report.skipped = ((jobs blueprints).filter fun j => s.has (j.target o)).map
            (fun j => ⟨j.leaf.path, j.target o, .present⟩) ∧
          (o.dryRun = false → ∀ j ∈ jobs blueprints, s'.has (j.target o) = true ∧
            (s.has (j.target o) = false → ∃ content, j.source o templates = .ok content ∧
              s'.files.get? (j.target o).text = some content))) := by
  have hcollides : ∀ i ∈ jobs blueprints, ∀ j ∈ jobs blueprints, i ≠ j →
      i.place o = j.place o →
      i.blueprint = j.blueprint ∧ (i.leaf.Collides j.leaf ∨ j.leaf.Collides i.leaf) :=
    fun i hi j hj => Job.collides_of_place_eq h hdomains hnames hslash hi hj
  refine ⟨hcollides, ?_⟩
  intro hnone templates s report s' hrun
  refine files_of_pairwise h ?_ hrun
  -- two leaves at one place are in one blueprint, where no leaves collide
  have hnodup : (jobs blueprints).Nodup := nodup_jobs (nodup_domains_of_expand h hdomains)
  refine hnodup.pairwise_of_forall_ne ?_
  rintro ⟨b, l⟩ hi ⟨c, m⟩ hj hne hplace
  obtain ⟨hblueprint, hcollides⟩ := hcollides _ hi _ hj hne hplace
  obtain rfl : b = c := hblueprint
  obtain ⟨hb, hl⟩ := mem_jobs_iff.mp hi
  obtain ⟨-, hm⟩ := mem_jobs_iff.mp hj
  have hlm : l ≠ m := fun heq => hne (congrArg (Job.mk b) heq)
  rcases hcollides with hcollides | hcollides
  · exact hnone b hb l hl m hm hlm hcollides
  · exact hnone b hb m hm l hl hlm.symm hcollides

end Run

theorem files_apart_orderDomain :
    ∃ b report s', orderDomain.expand = .ok b ∧
      (execute FileStore.system builtinTemplates {} ⟨[orderDomain]⟩).run {} = (.ok report, s') ∧
      report.skipped = [] ∧ ∀ l ∈ b.leaves, s'.has (targetPath {} b.domain l.names) = true := by
  have hfacts : orderDomain.anyBlueprint (fun b =>
      decide (b.NamesDistinct ∧ (∀ l ∈ b.leaves, '/' ∉ l.logicalName.toList) ∧
        (∀ l ∈ b.leaves, ∀ m ∈ b.leaves, l ≠ m → ¬l.Collides m) ∧
        ∀ l ∈ b.leaves, (Job.source {} builtinTemplates ⟨b, l⟩).isOk = true)) = true := by
    decide +kernel
  obtain ⟨b, hb, hpass⟩ := Domain.exists_of_anyBlueprint hfacts
  obtain ⟨hnames, hslash, hnone, hsource⟩ := of_decide_eq_true hpass
  have hexpand : Schema.expand ⟨[orderDomain]⟩ ({} : RunOptions).domain = .ok [b] := by
    show (List.mapM Domain.expand [orderDomain] : Except ExpandFault (List Blueprint)) = _
    rw [List.mapM_cons, hb]
    rfl
  have hjobs : ∀ j ∈ jobs [b], (j.source {} builtinTemplates).isOk = true := by
    rintro ⟨c, l⟩ hj
    obtain ⟨hc, hl⟩ := mem_jobs_iff.mp hj
    obtain rfl : c = b := List.mem_singleton.mp hc
    exact hsource l hl
  obtain ⟨report, s', hrun⟩ := exists_report_of_sources (s := {}) hexpand hjobs fun _ => rfl
  have hapart := Schema.files_apart hexpand (List.nodup_singleton _)
    (List.forall_mem_singleton.mpr hnames) (List.forall_mem_singleton.mpr hslash)
  obtain ⟨-, hskipped, hfiles⟩ :=
    hapart.2 (List.forall_mem_singleton.mpr hnone) _ _ _ _ hrun
  have hempty (path : Path) : ({} : FileStore).has path = false := rfl
  refine ⟨b, report, s', hb, hrun, ?_, fun l hl => ?_⟩
  · rw [hskipped, List.filter_eq_nil_iff.mpr fun j _ => by rw [hempty]; decide, List.map_nil]
  · exact (hfiles rfl ⟨b, l⟩ (mem_jobs_iff.mpr ⟨List.mem_singleton_self b, hl⟩)).1

/-- A domain with a repository of tasks, one that is called as if it were of tasks, and an
interface that is declared beside that of a repository. -/
def taskDomain : Domain where
  name := "User"
  sections := .ofList
    [("entity", .map [("user", .list []), ("user_task", .list [])]), ("value_object", .null),
      ("command", .null), ("repository_task", .map [("user", .null)]),
      ("repository", .map [("user", .null), ("user_task", .null)]),
      ("repository_interface", .map [("user", .null)])]

/-- Two pairs of its interfaces have one file each. -/
theorem exists_shared_paths :
    ∃ b, taskDomain.expand = .ok b ∧ b.NamesDistinct ∧
      (∀ l ∈ b.leaves, '/' ∉ l.logicalName.toList) ∧
      (∃ l ∈ b.leaves, ∃ m ∈ b.leaves,
        l.path = "domain.repository_interface.repository_task.user" ∧
        m.path = "domain.repository_interface.repository.user_task" ∧
        targetPath {} b.domain l.names = targetPath {} b.domain m.names) ∧
      ∃ l ∈ b.leaves, ∃ m ∈ b.leaves,
        l.path = "domain.repository_interface.user" ∧
        m.path = "domain.repository_interface.repository.user" ∧
        targetPath {} b.domain l.names = targetPath {} b.domain m.names := by
  have hfacts : taskDomain.anyBlueprint (fun b =>
      decide (b.NamesDistinct ∧ (∀ l ∈ b.leaves, '/' ∉ l.logicalName.toList) ∧
        (∃ l ∈ b.leaves, ∃ m ∈ b.leaves,
          l.path = "domain.repository_interface.repository_task.user" ∧
          m.path = "domain.repository_interface.repository.user_task" ∧
          targetPath {} b.domain l.names = targetPath {} b.domain m.names) ∧
        ∃ l ∈ b.leaves, ∃ m ∈ b.leaves,
          l.path = "domain.repository_interface.user" ∧
          m.path = "domain.repository_interface.repository.user" ∧
          targetPath {} b.domain l.names = targetPath {} b.domain m.names)) = true := by
    decide +kernel
  obtain ⟨b, hb, hpass⟩ := Domain.exists_of_anyBlueprint hfacts
  exact ⟨b, hb, of_decide_eq_true hpass⟩

end Scaffold
