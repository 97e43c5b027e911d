import Scaffold.Proofs.Blueprint
import Scaffold.Proofs.Expansion.Interfaces
import Scaffold.Proofs.Expansion.Obligations
import Scaffold.Source
import Scaffold.Template

/-!
# The interfaces that classes implement

A class implements at most one interface, which is there: the blueprint keeps an
interface for that very class, and the class imports it from the namespace of its type.
The class calls the interface after itself.  So is the interface called, except that of a
repository, which is called after the entity the repository is bound to.

## Main definitions

* `Leaf.generatedClass?` — the class that is generated for a leaf.
* `Leaf.interfaceKey` — the name under which the interface of a leaf is kept.

## Main results

* `Leaf.source_of_generatedClass?` — the class is what the source is made from.
* `Leaf.of_mem_implements` — what a class implements.
* `Domain.interface_of_mem_implements` — the interface that goes with it.
-/

namespace Scaffold

theorem ArtifactType.interfaceType_of_isRepository {t : ArtifactType}
    (h : t.isRepository = true) : t.interfaceType = .repositoryInterface := by
  cases t with
  | repository | repositoryEntityStore | repositoryEventSourcingStore | repositoryReadModel
  | repositoryQueryStore | repositoryTask => rfl
  | _ => cases h

/-- The types other than those of repositories whose classes may implement an interface. -/
def ArtifactType.abstracted : List ArtifactType := [.entity, .dto, .service, .factory]

theorem ArtifactType.of_mem_abstracted : ∀ t ∈ abstracted,
    t.interfaceType.isInterface = true ∧ t.isRepository = false := by decide

theorem ArtifactType.eq_factory_of_generator {t : ArtifactType} (h : t.generator = .factories)
    (hne : t ≠ .factoryInterface) : t = .factory := by
  cases t with
  | factory => rfl
  | factoryInterface => exact absurd rfl hne
  | _ => cases h

/-! ### Steps of a class -/

namespace ClassBody

@[simp] theorem implements_use (b : ClassBody) (full : String) :
    (b.use full).implements = b.implements := rfl

/-- **Only the names in use** change when names come into use. -/
theorem useAll_eq (b : ClassBody) (fulls : List String) :
    b.useAll fulls = { b with uses := (b.useAll fulls).uses } := by
  induction fulls generalizing b with
  | nil => rfl
  | cons full fulls ih => exact ih (b.use full)

/-- **Only the names in use and the interfaces** change when an interface is implemented. -/
theorem implement_eq (b : ClassBody) (space interface : String) :
    b.implement space interface
      = { b with
          uses := (b.use (qualify space interface)).uses
          implements := (b.implement space interface).implements } := by
  unfold implement
  dsimp only
  split
  · rfl
  · rfl

@[simp] theorem implements_useAll (b : ClassBody) (fulls : List String) :
    (b.useAll fulls).implements = b.implements := by rw [useAll_eq]

@[simp] theorem implements_takes (b : ClassBody) (p : Parameter) :
    (b.takes p).implements = b.implements := implements_useAll b _

@[simp] theorem implements_offers (b : ClassBody) (m : SourceMethod) :
    (b.offers m).implements = b.implements := implements_useAll b _

/-- What each step keeps is kept by all of them. -/
theorem foldl_keeps {α β : Type} {step : ClassBody → α → ClassBody} {field : ClassBody → β}
    (h : ∀ b a, field (step b a) = field b) (l : List α) (b : ClassBody) :
    field (l.foldl step b) = field b := by
  induction l generalizing b with
  | nil => rfl
  | cons a l ih => rw [List.foldl_cons, ih, h]

@[simp] theorem implements_takesArguments (scope : Scope) (b : ClassBody) (args : List Argument) :
    (b.takesArguments scope args).implements = b.implements :=
  foldl_keeps implements_takes _ b

@[simp] theorem implements_offersMethods (scope : Scope) (b : ClassBody)
    (methods : Dict String Method) :
    (b.offersMethods scope methods).implements = b.implements :=
  foldl_keeps implements_offers _ b

theorem contains_use_iff {b : ClassBody} {full n : String} :
    (b.use full).uses.contains n = true ↔ full = n ∨ b.uses.contains n = true := by
  rw [use, Dict.contains_insert, Bool.or_eq_true, decide_eq_true_eq]

theorem contains_useAll_iff {b : ClassBody} {fulls : List String} {n : String} :
    (b.useAll fulls).uses.contains n = true ↔ n ∈ fulls ∨ b.uses.contains n = true := by
  induction fulls generalizing b with
  | nil => simp [useAll]
  | cons full fulls ih =>
    have hstep : b.useAll (full :: fulls) = (b.use full).useAll fulls := rfl
    rw [hstep, ih, contains_use_iff, List.mem_cons]
    tauto

/-- A name stays in use. -/
theorem contains_offers {b : ClassBody} {n : String} (h : b.uses.contains n = true)
    (m : SourceMethod) : (b.offers m).uses.contains n = true := contains_useAll_iff.mpr (.inr h)

theorem uses_implement (b : ClassBody) (space interface : String) :
    (b.implement space interface).uses = (b.use (qualify space interface)).uses := by
  rw [implement_eq]

/-- An interface that is implemented is in use. -/
theorem contains_implement (b : ClassBody) (space interface : String) :
    (b.implement space interface).uses.contains (qualify space interface) = true := by
  rw [uses_implement]
  exact contains_use_iff.mpr (.inl rfl)

theorem implements_implement {b : ClassBody} (h : b.implements = []) (space interface : String) :
    (b.implement space interface).implements = [interface] := by
  simp [implement, h]

end ClassBody

/-! ### The class of a leaf -/

namespace Leaf

/-- The class that is generated for a leaf, if one is. -/
def generatedClass? (leaf : Leaf) (ctx : SourceContext) : Option ClassBody :=
  match leaf.type.generator with
  | .classes => some (leaf.classBody ctx)
  | .factories => if leaf.type = .factoryInterface then none else some (leaf.factoryClass ctx)
  | .interfaces | .valueObjects | .migrations => none

/-- The name under which the interface of a leaf is kept. -/
def interfaceKey (leaf : Leaf) : String :=
  if leaf.type.isRepository then repositoryInterfaceKey leaf.type leaf.name else leaf.name

variable {leaf : Leaf} {ctx : SourceContext} {body : ClassBody}

/-- **The source of a class** is its template filled with the class. -/
theorem source_of_generatedClass? (h : leaf.generatedClass? ctx = some body) :
    leaf.source ctx = (do
      let file ← ctx.template (if leaf.type = .factory then .factoryFile else .classFile)
      let method ← ctx.template .methodBlock
      return file.render (body.classVariables (ctx.namespaceOf leaf.type) leaf.names.className
        classModifier method)) := by
  unfold generatedClass? at h
  unfold source
  split at h
  · next hgenerator =>
    obtain rfl := Option.some.inj h
    have hne : leaf.type ≠ .factory := by
      intro heq
      rw [heq] at hgenerator
      cases hgenerator
    rw [hgenerator, if_neg hne]
    rfl
  · next hgenerator =>
    split at h
    · cases h
    · next hne =>
      obtain rfl := Option.some.inj h
      rw [hgenerator, if_pos (ArtifactType.eq_factory_of_generator hgenerator hne)]
      show leaf.factorySource ctx = _
      unfold factorySource
      rw [if_neg hne]
  all_goals cases h

/-- A leaf with an interface goes by a type that has interfaces, and its interface is
there. -/
theorem of_hasInterface {b : Blueprint} (h : leaf.hasInterface b = true) :
    (leaf.type.isRepository = true ∨ leaf.type ∈ [.entity, .dto, .service]) ∧
      b.has leaf.type.interfaceType leaf.interfaceKey = true := by
  unfold hasInterface at h
  unfold interfaceKey
  split at h
  · next hrepository =>
    rw [if_pos hrepository, ArtifactType.interfaceType_of_isRepository hrepository]
    exact ⟨.inl hrepository, h⟩
  · next hrepository =>
    rw [if_neg hrepository]
    split at h
    · next htype => exact ⟨.inr (by simp [htype]), h⟩
    · next htype => exact ⟨.inr (by simp [htype]), h⟩
    · next htype => exact ⟨.inr (by simp [htype]), h⟩
    · cases h

private theorem implements_classBody (leaf : Leaf) (ctx : SourceContext) :
    (leaf.classBody ctx).implements
      = ((leaf.implementedInterface? ctx.blueprint).map (·.2)).toList := by
  have hdeclared : (ClassBody.offersMethods ctx.scope (ClassBody.takesArguments ctx.scope {}
      leaf.spec.args) leaf.spec.methods).implements = [] := by
    rw [ClassBody.implements_offersMethods, ClassBody.implements_takesArguments]
  unfold classBody
  cases leaf.implementedInterface? ctx.blueprint with
  | none => cases leaf.spec.nextCommand <;> cases leaf.spec.terminal <;> simp
  | some found =>
    cases leaf.spec.nextCommand <;> cases leaf.spec.terminal <;>
      simp [ClassBody.implements_implement hdeclared]

private theorem contains_classBody {t : ArtifactType} {interface : String}
    (h : leaf.implementedInterface? ctx.blueprint = some (t, interface)) :
    (leaf.classBody ctx).uses.contains (qualify (ctx.namespaceOf t) interface) = true := by
  unfold classBody
  rw [h]
  dsimp only
  have himplement := ClassBody.contains_implement (ClassBody.offersMethods ctx.scope
    (ClassBody.takesArguments ctx.scope {} leaf.spec.args) leaf.spec.methods)
    (ctx.namespaceOf t) interface
  -- the steps that follow only add to what is in use
  have hchained : ∀ {b : ClassBody} {n : String}, b.uses.contains n = true →
      (if leaf.spec.terminal then b.offers terminalMethod else b).uses.contains n = true := by
    intro b n hb
    split
    · exact ClassBody.contains_offers hb _
    · exact hb
  refine hchained ?_
  split
  · exact ClassBody.contains_offers (ClassBody.contains_use_iff.mpr (.inr himplement)) _
  · exact himplement

private theorem implements_factoryBody (leaf : Leaf) (ctx : SourceContext) :
    (leaf.factoryBody ctx).implements = [] :=
  ClassBody.foldl_keeps (fun b p => by simp) leaf.spec.products {}

/-- **What a class implements** is the interface of its type that is called after it, and
which is there. -/
theorem of_mem_implements (h : leaf.generatedClass? ctx = some body) {interface : String}
    (hi : interface ∈ body.implements) :
    interface = interfaceName leaf.type leaf.name ∧
      (leaf.type.isRepository = true ∨ leaf.type ∈ ArtifactType.abstracted) ∧
      ctx.blueprint.has leaf.type.interfaceType leaf.interfaceKey = true ∧
      body.uses.contains (qualify (ctx.namespaceOf leaf.type.interfaceType) interface) = true := by
  unfold generatedClass? at h
  split at h
  · obtain rfl := Option.some.inj h
    rw [implements_classBody, Option.mem_toList, Option.map_eq_some_iff] at hi
    obtain ⟨⟨t, _⟩, himplemented, rfl⟩ := hi
    have huses := contains_classBody himplemented
    unfold implementedInterface? at himplemented
    split at himplemented
    · next hinterface =>
      obtain ⟨rfl, rfl⟩ := Prod.mk.inj (Option.some.inj himplemented)
      obtain ⟨htype, hhas⟩ := of_hasInterface hinterface
      refine ⟨rfl, htype.imp_right fun hmem => ?_, hhas, huses⟩
      exact List.mem_append_left [.factory] hmem
    · cases himplemented
  · next hgenerator =>
    split at h
    · cases h
    next hne =>
    obtain rfl := Option.some.inj h
    -- the creation methods of a factory implement nothing, so only its interface is left
    have htype := ArtifactType.eq_factory_of_generator hgenerator hne
    have hname : leaf.names.interfaceName = interfaceName leaf.type leaf.name := by
      rw [names_of_ne (by rw [htype]; decide)]
      rfl
    unfold factoryClass at hi ⊢
    dsimp only at hi ⊢
    split at hi
    · next hhas =>
      rw [ClassBody.implements_implement (implements_factoryBody leaf ctx), List.mem_singleton,
        hname] at hi
      subst hi
      rw [if_pos hhas, hname, interfaceKey, htype]
      exact ⟨rfl, .inr (by decide), hhas, ClassBody.contains_implement _ _ _⟩
    · rw [implements_factoryBody] at hi
      cases hi
  all_goals cases h

/-- The interface of an artifact that is no repository is called after the artifact. -/
theorem emittedName_of_interfaceType {t : ArtifactType}
    (ht : t ∈ ArtifactType.abstracted) {l : Leaf} (h : l.type = t.interfaceType) :
    l.names.emittedName = interfaceName t l.name := by
  obtain ⟨layer, type, name, spec⟩ := l
  obtain rfl : type = t.interfaceType := h
  simp only [ArtifactType.abstracted, List.mem_cons, List.not_mem_nil, or_false] at ht
  rcases ht with rfl | rfl | rfl | rfl <;> rfl

end Leaf

/-! ### The interface of a class -/

/-- **The interface that a class implements** is there, and registered for that very class.
It is called as the class calls it, unless the class is a repository that is bound to an
entity of another name. -/
theorem Domain.interface_of_mem_implements {dom : Domain} {b : Blueprint}
    (h : dom.expand = .ok b) (root : String) (templates : TemplateSet) {leaf : Leaf}
    (hleaf : leaf ∈ b.leaves) {body : ClassBody}
    (hbody : leaf.generatedClass? ⟨b, root, templates⟩ = some body) {interface : String}
    (hi : interface ∈ body.implements) :
    ∃ registered ∈ b.leaves, registered.type = leaf.type.interfaceType ∧
      registered.name = leaf.interfaceKey ∧ registered.type.isInterface = true ∧
      body.uses.contains
        (qualify (Scope.namespaceOf ⟨root, b.domain⟩ registered.type) interface) = true ∧
      (registered.names.emittedName = interface ↔
        (leaf.type.isRepository = true →
          Name.camelCase (leaf.spec.entity.getD leaf.name) = Name.camelCase leaf.name)) := by
  obtain ⟨rfl, htype, hhas, huses⟩ := Leaf.of_mem_implements hbody hi
  change b.has _ _ = true at hhas
  obtain ⟨-, d, hd, s, hs, rfl⟩ := Domain.expand_eq_ok_iff.mp h
  obtain ⟨registered, hregistered, hrtype, hrname⟩ := Blueprint.exists_leaf_of_has hhas
  have hmerged := (Declaration.merge_eq_ok_iff.mp hs).2.2.2
  have hown := (Blueprint.mem_leaves_ofSections_iff.mp hleaf).2
  have hfound := (Blueprint.mem_leaves_ofSections_iff.mp hregistered).2
  rw [← hmerged] at hown hfound
  refine ⟨registered, hregistered, hrtype, hrname, ?_, by rw [hrtype]; exact huses, ?_⟩
  · rw [hrtype]
    rcases htype with hrepository | hmem
    · rw [ArtifactType.interfaceType_of_isRepository hrepository]
      rfl
    · exact (ArtifactType.of_mem_abstracted _ hmem).1
  rcases htype with hrepository | hmem
  · -- the interface of a repository is called after its entity
    have hinterface := ArtifactType.interfaceType_of_isRepository hrepository
    rw [Leaf.interfaceKey, if_pos hrepository] at hrname
    rw [Declaration.emittedName_of_repository
      (fun _ _ hspec => (Declaration.isValid_of_ofDomain hd hspec).1) hrepository hown
      (hrtype.trans hinterface) hrname hfound, interfaceName_inj]
    exact ⟨fun heq _ => heq, fun himp => himp hrepository⟩
  · have hrepository := (ArtifactType.of_mem_abstracted _ hmem).2
    refine iff_of_true ?_ fun htrue => ?_
    · rw [Leaf.emittedName_of_interfaceType hmem hrtype, hrname, Leaf.interfaceKey, hrepository]
      rfl
    · rw [hrepository] at htrue
      cases htrue

/-- The class of a leaf implements an interface of this name. -/
def Leaf.implementsIn (b : Blueprint) (interface : String) (l : Leaf) : Bool :=
  match l.generatedClass? ⟨b, "App", builtinTemplates⟩ with
  | some body => interface ∈ body.implements
  | none => false

theorem Leaf.exists_of_implementsIn {b : Blueprint} {interface : String} {l : Leaf}
    (h : l.implementsIn b interface = true) :
    ∃ body, l.generatedClass? ⟨b, "App", builtinTemplates⟩ = some body ∧
      interface ∈ body.implements := by
  unfold implementsIn at h
  split at h
  · next body hbody => exact ⟨body, hbody, of_decide_eq_true h⟩
  · cases h

theorem interface_of_mem_implements_orderDomain :
    ∃ b leaf, orderDomain.expand = .ok b ∧ leaf ∈ b.leaves ∧
      leaf.implementsIn b "OrderRepositoryEntityStoreInterface" = true ∧
      ∃ registered ∈ b.leaves, registered.name = leaf.interfaceKey ∧
        registered.names.emittedName = "OrderRepositoryEntityStoreInterface" := by
  have hleaf : orderDomain.anyLeaf (fun b l =>
      l.implementsIn b "OrderRepositoryEntityStoreInterface" &&
        decide (Name.camelCase (l.spec.entity.getD l.name) = Name.camelCase l.name)) = true := by
    decide +kernel
  obtain ⟨b, leaf, hb, hl, hp⟩ := Domain.exists_leaf_of_anyLeaf hleaf
  obtain ⟨himplements, hname⟩ := Bool.and_eq_true_iff.mp hp
  obtain ⟨body, hbody, hi⟩ := Leaf.exists_of_implementsIn himplements
  obtain ⟨registered, hmem, -, hkey, -, -, hiff⟩ :=
    Domain.interface_of_mem_implements hb "App" builtinTemplates hl hbody hi
  exact ⟨b, leaf, hb, hl, himplements, registered, hmem, hkey,
    hiff.mpr fun _ => of_decide_eq_true hname⟩

/-- A domain with a repository that is bound to an entity of another name. -/
def reboundDomain : Domain where
  name := "User"
  sections := .ofList
    [("entity", .map [("user", .list [])]), ("value_object", .null), ("command", .null),
      ("repository_entity_store", .map [("main", .map [("entity", .string "user")])])]

/-- Its class implements an interface that is not there. -/
theorem exists_implements_not_generated :
    ∃ b leaf, reboundDomain.expand = .ok b ∧ leaf ∈ b.leaves ∧
      leaf.implementsIn b "MainRepositoryEntityStoreInterface" = true ∧
      ∀ l ∈ b.leaves, l.names.emittedName ≠ "MainRepositoryEntityStoreInterface" := by
  have hleaf : reboundDomain.anyLeaf (fun b l =>
      l.implementsIn b "MainRepositoryEntityStoreInterface" &&
        b.leaves.all fun l => l.names.emittedName != "MainRepositoryEntityStoreInterface")
        = true := by
    decide +kernel
  obtain ⟨b, leaf, hb, hl, hp⟩ := Domain.exists_leaf_of_anyLeaf hleaf
  obtain ⟨himplements, hall⟩ := Bool.and_eq_true_iff.mp hp
  exact ⟨b, leaf, hb, hl, himplements, fun l hl => bne_iff_ne.mp (List.all_eq_true.mp hall l hl)⟩

end Scaffold
