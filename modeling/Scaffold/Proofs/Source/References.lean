import Scaffold.Proofs.Blueprint
import Scaffold.Proofs.Expansion.Acceptance
import Scaffold.Proofs.Source.Interfaces

/-!
# What references are resolved to

An argument may name an artifact of the domain or ask for its interface.  The artifact
must be there, or the domain is not accepted; whether there is an interface is not asked.
The parameter computes the full name from the type and the name in the reference alone.
So a reference answers to the leaf it is to, unless it asks for an interface that is not
there, or the leaf is the interface of a repository and is called after something else.

## Main definitions

* `Leaf.fullName` — the full name of what is generated for a leaf.
* `referredType`, `referredKey` — the leaf that a reference is to.
* `Declaration.Answers` — the references that are resolved to their leaves.

## Main results

* `Declaration.answers_iff` — when the leaf that a reference is to bears its name.
* `Domain.importName_iff_answers` — the references in a domain.
-/

namespace Scaffold

open Name

/-- The full name of what is generated for a leaf. -/
def Leaf.fullName (scope : Scope) (l : Leaf) : String :=
  qualify (scope.namespaceOf l.names.artifactType) l.names.emittedName

/-! ### The leaf that a reference is to -/

/-- The type of the leaf that a reference is to. -/
def referredType (t : ArtifactType) (interface : Bool) : ArtifactType :=
  if interface then t.interfaceType else t

/-- The name of the leaf that a reference is to. -/
def referredKey (t : ArtifactType) (name : String) (interface : Bool) : String :=
  if interface && t.isRepository then repositoryInterfaceKey t name else name

/-- The name that a reference gives to what it is to. -/
def referredName (t : ArtifactType) (name : String) (interface : Bool) : String :=
  if interface then interfaceName t name else className t name

theorem importName_artifact (scope : Scope) (name : String) (t : ArtifactType)
    (interface : Bool) :
    (Parameter.ofArgument scope (.artifact name t interface)).importName
      = some (qualify (scope.namespaceOf (referredType t interface))
          (referredName t name interface)) := by
  cases interface <;> rfl

/-- A reference is resolved to a leaf of the type it is to when the leaf bears its name. -/
theorem importName_eq_fullName_iff {scope : Scope} {name : String} {t : ArtifactType}
    {interface : Bool} {l : Leaf} (h : l.type = referredType t interface) :
    (Parameter.ofArgument scope (.artifact name t interface)).importName
        = some (l.fullName scope)
      ↔ l.names.emittedName = referredName t name interface := by
  rw [importName_artifact, Leaf.fullName, Leaf.artifactType_names, h, Option.some_inj, qualify,
    qualify, String.append_right_inj, eq_comm]

/-! ### Types and the types of their interfaces -/

theorem ArtifactType.interfaceType_of_isInterface {t : ArtifactType} (h : t.isInterface = true) :
    t.interfaceType = t := by
  revert h
  cases t <;> decide

theorem ArtifactType.interfaceType_ne {t : ArtifactType} (h : t.isRepository = false)
    (ht : t ≠ .repositoryInterface) : t.interfaceType ≠ .repositoryInterface := by
  revert h ht
  cases t <;> decide

theorem ArtifactType.interfaceType_of_not_mem_abstracted {t : ArtifactType}
    (h : t.isRepository = false) (ha : t ∉ abstracted) : t.interfaceType = t := by
  revert h ha
  cases t <;> decide

/-- An artifact that is no repository is abstracted by an interface of its own, if its type
has interfaces at all. -/
theorem className_interfaceType_iff {t : ArtifactType} (h : t.isRepository = false)
    {name : String} :
    className t.interfaceType name = interfaceName t name
      ↔ t ∈ ArtifactType.abstracted ∨ t.isInterface = true := by
  by_cases ha : t ∈ ArtifactType.abstracted
  · refine iff_of_true ?_ (.inl ha)
    rw [className_of_isInterface (ArtifactType.of_mem_abstracted t ha).1]
    simp only [ArtifactType.abstracted, List.mem_cons, List.not_mem_nil, or_false] at ha
    rcases ha with rfl | rfl | rfl | rfl <;> rfl
  · rw [ArtifactType.interfaceType_of_not_mem_abstracted h ha, or_iff_right ha]
    cases hinterface : t.isInterface with
    | true => exact iff_of_true (className_of_isInterface hinterface name) rfl
    | false => exact iff_of_false (className_ne_interfaceName hinterface name) Bool.false_ne_true

/-! ### References that are resolved -/

namespace Declaration

/-- **The references that are resolved to the leaves they are to.** -/
inductive Answers (d : Declaration) : ArtifactType → String → Bool → Prop
  /-- The artifact itself, unless it is the interface of a repository. -/
  | artifact {t : ArtifactType} {name : String} (ht : t ≠ .repositoryInterface) :
    Answers d t name false
  /-- An interface that is there whenever the artifact is. -/
  | interface {t : ArtifactType} {name : String}
    (ht : t ∈ [.entity, .dto, .service] ∨ t.isInterface = true ∧ t ≠ .repositoryInterface) :
    Answers d t name true
  /-- The interface of a factory that has one. -/
  | factory {name : String} (h : name ∈ d.names .factoryInterface) :
    Answers d .factory name true
  /-- The interface of a repository that has one, and is called as its entity is. -/
  | repository {t : ArtifactType} {name : String} (h : d.Exposes t name)
    (hentity : ∀ own, d.sections.find? t name = some own →
      camelCase (own.entity.getD name) = camelCase name) : Answers d t name true
  /-- A declared interface of a repository, called as its entity is. -/
  | repositoryInterface {name : String} {own : Spec} {interface : Bool}
    (h : d.sections.find? .repositoryInterface name = some own)
    (hentity : camelCase (own.entity.getD name) = camelCase name) :
    Answers d .repositoryInterface name interface

variable {d : Declaration}

/-! ### Leaves that bear the names of references -/

/-- All leaves but the interfaces of repositories bear their class names. -/
private theorem exists_named_of_ne {s : Sections} {t : ArtifactType} {key name : String}
    (ht : t ≠ .repositoryInterface) :
    (∃ spec, s.find? t key = some spec ∧
        (⟨t.layer, t, key, spec⟩ : Leaf).names.emittedName = name)
      ↔ s.has t key = true ∧ className t key = name := by
  have hnames (spec : Spec) :
      (⟨t.layer, t, key, spec⟩ : Leaf).names.emittedName = className t key := by
    rw [Leaf.names_of_ne ht, emittedName_resolve]
  simp only [hnames, Sections.has_iff, exists_and_right]

/-- A declared interface of a repository is called after its entity. -/
theorem emittedName_of_declared {name : String} {own : Spec} (hname : Name.isValid name = true)
    (hown : own.AsRead) (layer : Layer) :
    (⟨layer, .repositoryInterface, name, own⟩ : Leaf).names.emittedName
      = interfaceName .repository (own.entity.getD name) := by
  have hdot := afterDot?_of_not_mem (Name.dot_not_mem_of_isValid hname)
  have habstracted : (⟨layer, .repositoryInterface, name, own⟩ : Leaf).abstractedName
      = own.entity.getD name := by
    rw [Leaf.abstractedName, hdot]
    cases own.entity <;> rfl
  rw [Leaf.emittedName_of_repositoryInterface rfl, habstracted, hown.repository]
  rfl

/-- **A reference to the interface of a repository** is resolved to its leaf if the author
declared the interface, and called it as its entity. -/
theorem exists_named_repositoryInterface_iff
    (hread : ∀ t name spec, d.sections.find? t name = some spec →
      Name.isValid name = true ∧ spec.AsRead)
    (hsound : d.Sound) {name : String} :
    (∃ spec, d.withDefaults.assemble.addInterfaces.find? .repositoryInterface name = some spec ∧
        (⟨.domain, .repositoryInterface, name, spec⟩ : Leaf).names.emittedName
          = interfaceName .repository name)
      ↔ ∃ own, d.sections.find? .repositoryInterface name = some own ∧
        camelCase (own.entity.getD name) = camelCase name := by
  constructor
  · rintro ⟨spec, hfind, hnames⟩
    have hown : d.sections.find? .repositoryInterface name = some spec := by
      rcases find?_repositoryInterface_cases hfind with hown | ⟨concrete, -, n, -, -, hkey, -⟩
      · exact hown
      rcases entity_of_repositoryInterface
        (fun t n s h => (hread t n s h).imp_right Spec.AsRead.events) hsound hfind with
        hown | ⟨entity, hentity, hvalid⟩
      · exact hown
      -- the key of a repository holds a dot, and the name of its interface holds none
      have hdot : '.' ∈ (interfaceName .repository name).toList := by
        rw [mark_mem_interfaceName_iff isMark_dot, ← hkey]
        exact dot_mem_repositoryInterfaceKey concrete n
      rw [← hnames, Leaf.emittedName_of_repositoryInterface rfl,
        mark_mem_interfaceName_iff isMark_dot, Leaf.abstractedName, hentity] at hdot
      exact absurd hdot (Name.dot_not_mem_of_isValid hvalid)
    obtain ⟨hname, hspec⟩ := hread _ _ _ hown
    rw [emittedName_of_declared hname hspec, interfaceName_inj] at hnames
    exact ⟨spec, hown, hnames⟩
  · rintro ⟨own, hown, hentity⟩
    obtain ⟨hname, hspec⟩ := hread _ _ _ hown
    refine ⟨own, Sections.find?_addInterfaces_of_some ?_, ?_⟩
    · rw [find?_assemble_repositoryInterface, hown]
    · rw [emittedName_of_declared hname hspec, interfaceName_inj]
      exact hentity

/-- The entity of a repository is the one the author bound it to. -/
theorem camelCase_entity_iff {concrete : ArtifactType} (hc : concrete ∈ ArtifactType.repositories)
    {name : String} {spec : Spec}
    (h : d.withDefaults.assemble.find? concrete name = some spec) :
    camelCase (spec.entity.getD name) = camelCase name
      ↔ ∀ own, d.sections.find? concrete name = some own →
        camelCase (own.entity.getD name) = camelCase name := by
  cases hown : d.sections.find? concrete name with
  | some own =>
    rw [find?_assemble_of_declared hown] at h
    obtain rfl := Option.some.inj h
    rw [entity_kept]
    constructor
    · rintro hentity _ ⟨⟩
      exact hentity
    · exact fun hall => hall own rfl
  | none =>
    rcases entity_of_find?_assemble hc h with ⟨own, hsome, -⟩ | ⟨hentity, -⟩
    · rw [hown] at hsome
      cases hsome
    · rw [hentity]
      refine iff_of_true rfl fun own hnone => ?_
      cases hnone

/-- **A reference to the interface of a repository by the repository** is resolved to its
leaf if there is one, and the repository is called as its entity. -/
theorem exists_named_repository_iff
    (hread : ∀ t name spec, d.sections.find? t name = some spec →
      Name.isValid name = true ∧ spec.AsRead)
    (hsound : d.Sound) {t : ArtifactType} (ht : t.isRepository = true) {name : String}
    (hname : name ∈ d.names t) :
    (∃ spec, d.withDefaults.assemble.addInterfaces.find? .repositoryInterface
          (repositoryInterfaceKey t name) = some spec ∧
        (⟨.domain, .repositoryInterface, repositoryInterfaceKey t name, spec⟩ :
          Leaf).names.emittedName = interfaceName t name)
      ↔ d.Exposes t name ∧ ∀ own, d.sections.find? t name = some own →
        camelCase (own.entity.getD name) = camelCase name := by
  have hc := ArtifactType.isRepository_iff.mp ht
  have hne : t ≠ .repositoryInterface := by
    rintro rfl
    cases ht
  have hvalid : ∀ n spec, d.sections.find? .repositoryInterface n = some spec →
      Name.isValid n = true := fun n spec h => (hread _ n spec h).1
  obtain ⟨own, hown⟩ := Sections.has_iff.mp (hsound.commandsBound.has_merged_iff.mpr hname)
  have hassembled : d.withDefaults.assemble.find? t name = some own := by
    rw [← Sections.find?_addInterfaces_of_ne hne]
    exact hown
  -- the interface is there when the repository exposes one
  have hexposes : d.withDefaults.assemble.addInterfaces.has .repositoryInterface
      (repositoryInterfaceKey t name) = true ↔ d.Exposes t name := by
    rw [hsound.commandsBound.has_merged_iff]
    constructor
    · rintro (hdeclared | ⟨concrete, n, hexposes, hkey⟩)
      · obtain ⟨spec, hspec⟩ := mem_declared_iff.mp hdeclared
        exact absurd (dot_mem_repositoryInterfaceKey t name)
          (Name.dot_not_mem_of_isValid (hvalid _ _ hspec))
      · obtain ⟨rfl, rfl⟩ := repositoryInterfaceKey_inj.mp hkey
        exact hexposes
    · exact fun h => .inr ⟨t, name, h, rfl⟩
  -- and it is called after the entity of the repository
  have hnames (spec : Spec) (hspec : d.withDefaults.assemble.addInterfaces.find?
      .repositoryInterface (repositoryInterfaceKey t name) = some spec) :
      (⟨.domain, .repositoryInterface, repositoryInterfaceKey t name, spec⟩ :
          Leaf).names.emittedName = interfaceName t name
        ↔ camelCase (own.entity.getD name) = camelCase name := by
    have hafter := emittedName_of_repository
      (l := ⟨.domain, .repositoryInterface, repositoryInterfaceKey t name, spec⟩)
      hvalid ht hown rfl rfl hspec
    rw [hafter, interfaceName_inj]
  rw [← hexposes, Sections.has_iff, ← camelCase_entity_iff hc hassembled, ← exists_and_right]
  exact exists_congr fun spec => and_congr_right (hnames spec)

/-- References to the interfaces of artifacts that are no repositories. -/
private theorem answers_true_iff {t : ArtifactType} (hrepository : t.isRepository = false)
    (ht : t ≠ .repositoryInterface) {name : String} (hname : name ∈ d.names t) :
    d.Answers t name true
      ↔ name ∈ d.names t.interfaceType ∧ (t ∈ ArtifactType.abstracted ∨ t.isInterface = true) := by
  constructor
  · intro h
    cases h with
    | interface h =>
      rcases h with hmem | ⟨hinterface, -⟩
      · simp only [List.mem_cons, List.not_mem_nil, or_false] at hmem
        -- these bring their interfaces
        rcases hmem with rfl | rfl | rfl
        · exact ⟨.inr hname, .inl (by decide)⟩
        · exact ⟨.inr hname, .inl (by decide)⟩
        · exact ⟨.inr hname, .inl (by decide)⟩
      · have hself := ArtifactType.interfaceType_of_isInterface hinterface
        exact ⟨by rw [hself]; exact hname, .inr hinterface⟩
    | factory h => exact ⟨h, .inl (by decide)⟩
    | repository h _ =>
      rw [ArtifactType.isRepository_iff.mpr h.mem_repositories] at hrepository
      cases hrepository
    | repositoryInterface _ _ => exact absurd rfl ht
  · rintro ⟨h, hmem | hinterface⟩
    · simp only [ArtifactType.abstracted, List.mem_cons, List.not_mem_nil, or_false] at hmem
      rcases hmem with rfl | rfl | rfl | rfl
      · exact .interface (.inl (by decide))
      · exact .interface (.inl (by decide))
      · exact .interface (.inl (by decide))
      · exact .factory h
    · exact .interface (.inr ⟨hinterface, ht⟩)

private theorem answers_repositoryInterface_iff {name : String} {interface : Bool} :
    d.Answers .repositoryInterface name interface
      ↔ ∃ own, d.sections.find? .repositoryInterface name = some own ∧
        camelCase (own.entity.getD name) = camelCase name := by
  constructor
  · intro h
    cases h with
    | artifact ht => exact absurd rfl ht
    | interface ht =>
      rcases ht with hmem | ⟨-, hne⟩
      · exact absurd hmem (by decide)
      · exact absurd rfl hne
    | repository h _ => exact absurd h.mem_repositories (by decide)
    | repositoryInterface h hentity => exact ⟨_, h, hentity⟩
  · rintro ⟨own, h, hentity⟩
    exact .repositoryInterface h hentity

private theorem answers_repository_iff {t : ArtifactType} (ht : t.isRepository = true)
    {name : String} :
    d.Answers t name true
      ↔ d.Exposes t name ∧ ∀ own, d.sections.find? t name = some own →
        camelCase (own.entity.getD name) = camelCase name := by
  constructor
  · intro h
    cases h with
    | interface h =>
      rcases h with hmem | ⟨hinterface, -⟩
      · simp only [List.mem_cons, List.not_mem_nil, or_false] at hmem
        rcases hmem with rfl | rfl | rfl <;> cases ht
      · cases t <;> cases ht <;> cases hinterface
    | factory _ => cases ht
    | repository h hentity => exact ⟨h, hentity⟩
    | repositoryInterface _ _ => cases ht
  · rintro ⟨h, hentity⟩
    exact .repository h hentity

/-- **When the leaf that a reference is to bears its name.** -/
theorem answers_iff
    (hread : ∀ t name spec, d.sections.find? t name = some spec →
      Name.isValid name = true ∧ spec.AsRead)
    (hsound : d.Sound) {t : ArtifactType} {name : String} (hname : name ∈ d.names t)
    (interface : Bool) :
    (∃ spec, d.withDefaults.assemble.addInterfaces.find? (referredType t interface)
          (referredKey t name interface) = some spec ∧
        (⟨(referredType t interface).layer, referredType t interface,
          referredKey t name interface, spec⟩ : Leaf).names.emittedName
            = referredName t name interface)
      ↔ d.Answers t name interface := by
  by_cases ht : t = .repositoryInterface
  · -- with the flag or without it, the reference is to the declared interface
    subst ht
    rw [answers_repositoryInterface_iff, ← exists_named_repositoryInterface_iff hread hsound]
    cases interface with
    | true => exact Iff.rfl
    | false =>
      rw [referredName, if_neg Bool.false_ne_true, className_of_isInterface rfl]
      exact Iff.rfl
  cases interface with
  | false =>
    refine (exists_named_of_ne ht).trans (iff_of_true ⟨?_, rfl⟩ (.artifact ht))
    exact hsound.commandsBound.has_merged_iff.mpr hname
  | true =>
    cases hrepository : t.isRepository with
    | true =>
      rw [answers_repository_iff hrepository,
        ← exists_named_repository_iff hread hsound hrepository hname]
      simp only [referredType, referredKey, referredName, if_true,
        ArtifactType.interfaceType_of_isRepository hrepository, hrepository, Bool.and_true]
      exact Iff.rfl
    | false =>
      have hkey : referredKey t name true = name := by
        rw [referredKey, hrepository, if_neg (by decide)]
      rw [answers_true_iff hrepository ht hname, ← hsound.commandsBound.has_merged_iff,
        ← className_interfaceType_iff hrepository, hkey]
      exact exists_named_of_ne (ArtifactType.interfaceType_ne hrepository ht)

end Declaration

/-! ### References in a domain -/

/-- **A declared reference** is resolved to the full name of the leaf it is to, unless it
asks for an interface that is not there or the name of the leaf is that of its entity. -/
theorem Domain.importName_iff_answers {dom : Domain} {b : Blueprint} (h : dom.expand = .ok b) :
    ∃ d, Declaration.ofDomain dom = .ok d ∧
      ∀ root owner key spec, d.sections.find? owner key = some spec →
        ∀ name t interface, Argument.artifact name t interface ∈ spec.allArgs →
          ((∃ l ∈ b.leaves, l.type = referredType t interface ∧
              l.name = referredKey t name interface ∧
              (Parameter.ofArgument ⟨root, b.domain⟩ (.artifact name t interface)).importName
                = some (l.fullName ⟨root, b.domain⟩))
            ↔ d.Answers t name interface) := by
  obtain ⟨-, d, hd, s, hs, rfl⟩ := Domain.expand_eq_ok_iff.mp h
  have hsound := (Declaration.merges_iff_sound (Declaration.derived_of_ofDomain hd)).mp ⟨s, hs⟩
  obtain rfl := (Declaration.merge_eq_ok_iff.mp hs).2.2.2
  refine ⟨d, hd, fun root owner key spec hspec name t interface harg => ?_⟩
  -- what a reference names is there, or the domain would not have been accepted
  have hname : name ∈ d.names t :=
    hsound.artifacts owner key spec name t hspec (List.mem_filterMap.mpr ⟨_, harg, rfl⟩)
  rw [Blueprint.exists_leaf_iff, ← Declaration.answers_iff
    (fun _ _ _ hown => Declaration.asRead_of_ofDomain hd hown) hsound hname]
  exact exists_congr fun found => and_congr_right fun _ =>
    importName_eq_fullName_iff (l := ⟨_, referredType t interface, _, found⟩) rfl

/-- The author of a domain declared a spec that passes a test. -/
def Domain.anyDeclared (dom : Domain) (t : ArtifactType) (name : String)
    (p : Spec → Bool) : Bool :=
  match Declaration.ofDomain dom with
  | .ok d => (d.sections.find? t name).any p
  | .error _ => false

theorem Domain.exists_spec_of_anyDeclared {dom : Domain} {t : ArtifactType} {name : String}
    {p : Spec → Bool} (h : dom.anyDeclared t name p = true) {d : Declaration}
    (hd : Declaration.ofDomain dom = .ok d) :
    ∃ spec, d.sections.find? t name = some spec ∧ p spec = true := by
  unfold anyDeclared at h
  rw [hd] at h
  exact Option.any_eq_true _ _ |>.mp h

/-- A domain with two services that take the interface of one store: the first by the
store, the second by the key of the interface. -/
def checkoutDomain : Domain where
  name := "User"
  sections := .ofList
    [("entity", .map [("user", .list [])]), ("value_object", .null), ("command", .null),
      ("repository_entity_store", .map [("user", .map [("entity", .string "user")])]),
      ("service", .map
        [("checkout", .map [("args", .list [.map [("name", .string "user"),
            ("type", .string "repository_entity_store"), ("interface", .bool true)]])]),
          ("refund", .map [("args", .list [.map [("name", .string "repository_entity_store.user"),
            ("type", .string "repository_interface")]])])])]

/-- The first service finds the interface. -/
theorem importName_iff_answers_checkoutDomain :
    ∃ b d spec, checkoutDomain.expand = .ok b ∧ Declaration.ofDomain checkoutDomain = .ok d ∧
      d.sections.find? .service "checkout" = some spec ∧
      .artifact "user" .repositoryEntityStore true ∈ spec.allArgs ∧
      ∃ l ∈ b.leaves, l.type = .repositoryInterface ∧
        l.name = repositoryInterfaceKey .repositoryEntityStore "user" ∧
        (Parameter.ofArgument ⟨"App", b.domain⟩
            (.artifact "user" .repositoryEntityStore true)).importName
          = some (l.fullName ⟨"App", b.domain⟩) := by
  have hok : checkoutDomain.expand.isOk = true := by decide +kernel
  have hservice : checkoutDomain.anyDeclared .service "checkout"
      (.artifact "user" .repositoryEntityStore true ∈ ·.allArgs) = true := by decide +kernel
  have hstore : checkoutDomain.anyDeclared .repositoryEntityStore "user"
      (fun own => own.repositoryInterface && own.entity = some "user") = true := by decide +kernel
  obtain ⟨b, hb⟩ := Except.exists_eq_ok_of_isOk hok
  obtain ⟨d, hd, hiff⟩ := Domain.importName_iff_answers hb
  obtain ⟨spec, hspec, hmem⟩ := Domain.exists_spec_of_anyDeclared hservice hd
  obtain ⟨own, hown, hpass⟩ := Domain.exists_spec_of_anyDeclared hstore hd
  obtain ⟨hflag, hentity⟩ := Bool.and_eq_true_iff.mp hpass
  have hanswers : d.Answers .repositoryEntityStore "user" true := by
    refine .repository (.declared (by decide) hown hflag) fun _ h => ?_
    obtain rfl := Option.some.inj (hown.symm.trans h)
    rw [of_decide_eq_true hentity, Option.getD_some]
  exact ⟨b, d, spec, hb, hd, hspec, of_decide_eq_true hmem,
    (hiff "App" _ _ _ hspec _ _ _ (of_decide_eq_true hmem)).mpr hanswers⟩

/-- The second looks for it under a name that no leaf bears. -/
theorem exists_reference_not_resolved :
    ∃ b d spec, checkoutDomain.expand = .ok b ∧ Declaration.ofDomain checkoutDomain = .ok d ∧
      d.sections.find? .service "refund" = some spec ∧
      .artifact "repository_entity_store.user" .repositoryInterface false ∈ spec.allArgs ∧
      ∀ l ∈ b.leaves, (Parameter.ofArgument ⟨"App", b.domain⟩
          (.artifact "repository_entity_store.user" .repositoryInterface false)).importName
        ≠ some (l.fullName ⟨"App", b.domain⟩) := by
  have hservice : checkoutDomain.anyDeclared .service "refund"
      (.artifact "repository_entity_store.user" .repositoryInterface false ∈ ·.allArgs) = true := by
    decide +kernel
  have hleaves : checkoutDomain.anyLeaf (fun b _ => b.leaves.all fun l =>
      (Parameter.ofArgument ⟨"App", b.domain⟩
          (.artifact "repository_entity_store.user" .repositoryInterface false)).importName
        != some (l.fullName ⟨"App", b.domain⟩)) = true := by
    decide +kernel
  obtain ⟨b, -, hb, -, hall⟩ := Domain.exists_leaf_of_anyLeaf hleaves
  obtain ⟨-, d, hd, -⟩ := Domain.expand_eq_ok_iff.mp hb
  obtain ⟨spec, hspec, hmem⟩ := Domain.exists_spec_of_anyDeclared hservice hd
  exact ⟨b, d, spec, hb, hd, hspec, of_decide_eq_true hmem,
    fun l hl => bne_iff_ne.mp (List.all_eq_true.mp hall l hl)⟩

end Scaffold
