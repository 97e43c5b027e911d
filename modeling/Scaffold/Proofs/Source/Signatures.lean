import Scaffold.Proofs.Expansion.Mirrors
import Scaffold.Proofs.Source.Interfaces

/-!
# What interfaces promise

A class takes the arguments of its spec and offers the methods of its spec, and an interface
lists the methods of its own.  Where an interface was not declared, its spec mirrors that of
an artifact in the same blueprint, so whatever the interface lists is a method of that
artifact's class, with the same parameters and the same type.

## Main definitions

* `Leaf.generatedInterface?` — the interface that is generated for a leaf.

## Main results

* `Leaf.constructor_classBody`, `Leaf.methods_classBody` — what a class takes and offers.
* `Leaf.source_of_generatedInterface?` — the interface is what the source is made from.
* `Leaf.generated_cases` — what is generated for a leaf.
* `Domain.interfaces_mirror` — interfaces and variants mirror what they abstract.
-/

namespace Scaffold

/-! ### Constructors and methods, step by step -/

namespace ClassBody

@[simp] theorem methods_use (b : ClassBody) (full : String) : (b.use full).methods = b.methods :=
  rfl

@[simp] theorem constructor_use (b : ClassBody) (full : String) :
    (b.use full).constructor = b.constructor := rfl

@[simp] theorem methods_useAll (b : ClassBody) (fulls : List String) :
    (b.useAll fulls).methods = b.methods := by rw [useAll_eq]

@[simp] theorem constructor_useAll (b : ClassBody) (fulls : List String) :
    (b.useAll fulls).constructor = b.constructor := by rw [useAll_eq]

@[simp] theorem methods_implement (b : ClassBody) (space interface : String) :
    (b.implement space interface).methods = b.methods := by rw [implement_eq]

@[simp] theorem constructor_implement (b : ClassBody) (space interface : String) :
    (b.implement space interface).constructor = b.constructor := by rw [implement_eq]

@[simp] theorem methods_takes (b : ClassBody) (p : Parameter) :
    (b.takes p).methods = b.methods := methods_useAll b _

@[simp] theorem constructor_takes (b : ClassBody) (p : Parameter) :
    (b.takes p).constructor = b.constructor ++ [p] := by
  rw [takes]
  exact congrArg (· ++ [p]) (constructor_useAll b _)

@[simp] theorem methods_offers (b : ClassBody) (m : SourceMethod) :
    (b.offers m).methods = b.methods ++ [m] := by
  rw [offers]
  exact congrArg (· ++ [m]) (methods_useAll b _)

@[simp] theorem constructor_offers (b : ClassBody) (m : SourceMethod) :
    (b.offers m).constructor = b.constructor := constructor_useAll b _

/-- What steps add to a list, one element each, stands there in their order. -/
theorem foldl_adds {α β : Type} {step : ClassBody → α → ClassBody} {list : ClassBody → List β}
    {added : α → β} (h : ∀ b a, list (step b a) = list b ++ [added a]) (l : List α)
    (b : ClassBody) : list (l.foldl step b) = list b ++ l.map added := by
  induction l generalizing b with
  | nil => exact (List.append_nil _).symm
  | cons a l ih =>
    rw [List.foldl_cons, ih, h, List.append_assoc, List.map_cons, List.singleton_append]

/-- Taking arguments leaves the methods, and adds a parameter for each argument. -/
theorem takesArguments_fields (scope : Scope) (b : ClassBody) (args : List Argument) :
    (b.takesArguments scope args).methods = b.methods ∧
      (b.takesArguments scope args).constructor
        = b.constructor ++ args.map (Parameter.ofArgument scope) := by
  refine ⟨foldl_keeps methods_takes _ b, ?_⟩
  rw [takesArguments, foldl_adds constructor_takes, List.map_id']

/-- Offering methods leaves the constructor, and adds the methods in their order. -/
theorem foldl_offers_fields (b : ClassBody) (ms : List SourceMethod) :
    (ms.foldl offers b).methods = b.methods ++ ms ∧
      (ms.foldl offers b).constructor = b.constructor := by
  refine ⟨?_, foldl_keeps constructor_offers ms b⟩
  rw [foldl_adds methods_offers, List.map_id']

end ClassBody

/-! ### Generators of one type -/

theorem ArtifactType.eq_valueObject_of_generator {t : ArtifactType}
    (h : t.generator = .valueObjects) : t = .valueObject := by
  cases t with
  | valueObject => rfl
  | _ => cases h

theorem ArtifactType.eq_migrations_of_generator {t : ArtifactType}
    (h : t.generator = .migrations) : t = .migrations := by
  cases t with
  | migrations => rfl
  | _ => cases h

/-! ### Classes -/

namespace Leaf

/-- The methods of a spec, as sources offer them. -/
def declaredMethods (leaf : Leaf) (scope : Scope) : List SourceMethod :=
  leaf.spec.methods.entries.map fun e => SourceMethod.ofMethod scope e.1 e.2

/-- The methods by which an event tells what it sets off and whether it ends its process. -/
def chainMethods (leaf : Leaf) : List SourceMethod :=
  (leaf.spec.nextCommand.toList.map fun next => nextCommandMethod (className .command next)) ++
    if leaf.spec.terminal then [terminalMethod] else []

/-- The class of a leaf, field by field. -/
private theorem classBody_fields (leaf : Leaf) (ctx : SourceContext) :
    (leaf.classBody ctx).methods = leaf.declaredMethods ctx.scope ++ leaf.chainMethods ∧
      (leaf.classBody ctx).constructor
        = leaf.spec.args.map (Parameter.ofArgument ctx.scope) := by
  obtain ⟨htaken, hconstructor⟩ := ClassBody.takesArguments_fields ctx.scope {} leaf.spec.args
  obtain ⟨hmethods, hkept⟩ := ClassBody.foldl_offers_fields
    (ClassBody.takesArguments ctx.scope {} leaf.spec.args) (leaf.declaredMethods ctx.scope)
  rw [htaken] at hmethods
  rw [hconstructor] at hkept
  have hdeclared : ClassBody.offersMethods ctx.scope
      (ClassBody.takesArguments ctx.scope {} leaf.spec.args) leaf.spec.methods
        = (leaf.declaredMethods ctx.scope).foldl ClassBody.offers
            (ClassBody.takesArguments ctx.scope {} leaf.spec.args) := rfl
  unfold classBody chainMethods
  dsimp only
  rw [hdeclared]
  -- an interface that is implemented, the next command and the end of the process
  cases leaf.implementedInterface? ctx.blueprint <;> cases leaf.spec.nextCommand <;>
    cases leaf.spec.terminal <;> simp [hmethods, hkept]

/-- **A class offers** the methods of its spec, and those that chain an event. -/
theorem methods_classBody (leaf : Leaf) (ctx : SourceContext) :
    (leaf.classBody ctx).methods = leaf.declaredMethods ctx.scope ++ leaf.chainMethods :=
  (classBody_fields leaf ctx).1

/-- **The constructor of a class takes** what its spec says. -/
theorem constructor_classBody (leaf : Leaf) (ctx : SourceContext) :
    (leaf.classBody ctx).constructor = leaf.spec.args.map (Parameter.ofArgument ctx.scope) :=
  (classBody_fields leaf ctx).2

/-- A factory has one method for each product, and no constructor. -/
theorem factoryBody_fields (leaf : Leaf) (ctx : SourceContext) :
    (leaf.factoryBody ctx).methods = leaf.spec.products.map (createMethod ctx) ∧
      (leaf.factoryBody ctx).constructor = [] := by
  have hstep (b : ClassBody) (p : Product) :
      let body := (b.use (qualify (ctx.namespaceOf p.type) (className p.type p.name))).offers
        (createMethod ctx p)
      body.methods = b.methods ++ [createMethod ctx p] ∧ body.constructor = b.constructor :=
    ⟨ClassBody.methods_offers _ _, ClassBody.constructor_offers _ _⟩
  exact ⟨ClassBody.foldl_adds (fun b p => (hstep b p).1) leaf.spec.products {},
    ClassBody.foldl_keeps (fun b p => (hstep b p).2) leaf.spec.products {}⟩

theorem factoryClass_fields (leaf : Leaf) (ctx : SourceContext) :
    (leaf.factoryClass ctx).methods = leaf.spec.products.map (createMethod ctx) ∧
      (leaf.factoryClass ctx).constructor = [] := by
  obtain ⟨hmethods, hconstructor⟩ := factoryBody_fields leaf ctx
  unfold factoryClass
  dsimp only
  split
  · rw [ClassBody.methods_implement, ClassBody.constructor_implement]
    exact ⟨hmethods, hconstructor⟩
  · exact ⟨hmethods, hconstructor⟩

/-! ### Interfaces -/

/-- The interface that is generated for a leaf, if one is. -/
def generatedInterface? (leaf : Leaf) (ctx : SourceContext) : Option ClassBody :=
  match leaf.type.generator with
  | .interfaces => some (ClassBody.offersMethods ctx.scope {} leaf.spec.methods)
  | .factories => if leaf.type = .factoryInterface then some (leaf.factoryBody ctx) else none
  | .classes | .valueObjects | .migrations => none

variable {leaf : Leaf} {ctx : SourceContext} {body : ClassBody}

/-- **The source of an interface** is the template filled with the signatures of its
methods. -/
theorem source_of_generatedInterface? (h : leaf.generatedInterface? ctx = some body) :
    leaf.source ctx = (do
      let file ← ctx.template .interfaceFile
      return file.render (body.interfaceVariables (ctx.namespaceOf leaf.type)
        leaf.names.interfaceName)) := by
  unfold generatedInterface? at h
  unfold source
  split at h
  · next hgenerator =>
    obtain rfl := Option.some.inj h
    rw [hgenerator]
    rfl
  · next hgenerator =>
    split at h
    · next htype =>
      obtain rfl := Option.some.inj h
      rw [hgenerator]
      show leaf.factorySource ctx = _
      unfold factorySource
      rw [if_pos htype]
    · cases h
  all_goals cases h

/-- **Every leaf is one of a class or of an interface**, or has a file of its own making. -/
theorem generated_cases (leaf : Leaf) (ctx : SourceContext) :
    (∃ body, leaf.generatedClass? ctx = some body) ∨
      (∃ body, leaf.generatedInterface? ctx = some body) ∨
      leaf.type = .valueObject ∨ leaf.type = .migrations := by
  unfold generatedClass? generatedInterface?
  cases hgenerator : leaf.type.generator with
  | classes => exact .inl ⟨_, rfl⟩
  | interfaces => exact .inr (.inl ⟨_, rfl⟩)
  | factories =>
    by_cases htype : leaf.type = .factoryInterface
    · exact .inr (.inl ⟨_, if_pos htype⟩)
    · exact .inl ⟨_, if_neg htype⟩
  | valueObjects =>
    exact .inr (.inr (.inl (ArtifactType.eq_valueObject_of_generator hgenerator)))
  | migrations =>
    exact .inr (.inr (.inr (ArtifactType.eq_migrations_of_generator hgenerator)))

theorem source_of_valueObject (h : leaf.type = .valueObject) :
    leaf.source ctx = leaf.valueObjectSource ctx := by
  rw [source, h]
  rfl

theorem source_of_migrations (h : leaf.type = .migrations) :
    leaf.source ctx = leaf.migrationSource ctx := by
  rw [source, h]
  rfl

/-- An interface and a class whose specs have the same methods. -/
private theorem mem_methods_of_class {i c : Leaf} (hi : i.type.generator = .interfaces)
    (hc : c.type.generator = .classes) (hmethods : i.spec.methods = c.spec.methods)
    (ctx : SourceContext) :
    ∃ signatures body, i.generatedInterface? ctx = some signatures ∧
      c.generatedClass? ctx = some body ∧ ∀ m ∈ signatures.methods, m ∈ body.methods := by
  refine ⟨ClassBody.offersMethods ctx.scope {} i.spec.methods, c.classBody ctx, ?_, ?_, ?_⟩
  · rw [generatedInterface?, hi]
  · rw [generatedClass?, hc]
  · intro m hm
    have hlisted : (ClassBody.offersMethods ctx.scope {} i.spec.methods).methods
        = i.declaredMethods ctx.scope :=
      (ClassBody.foldl_offers_fields {} (i.declaredMethods ctx.scope)).1
    have hdeclared : i.declaredMethods ctx.scope = c.declaredMethods ctx.scope := by
      rw [declaredMethods, declaredMethods, hmethods]
    rw [hlisted, hdeclared] at hm
    rw [methods_classBody]
    exact List.mem_append_left _ hm

/-- The interface of a factory and the factory whose products are the same. -/
private theorem mem_methods_of_factory {i c : Leaf} (hi : i.type = .factoryInterface)
    (hc : c.type = .factory) (hproducts : i.spec.products = c.spec.products)
    (ctx : SourceContext) :
    ∃ signatures body, i.generatedInterface? ctx = some signatures ∧
      c.generatedClass? ctx = some body ∧ ∀ m ∈ signatures.methods, m ∈ body.methods := by
  refine ⟨i.factoryBody ctx, c.factoryClass ctx, ?_, ?_, ?_⟩
  · rw [generatedInterface?, hi]
    rfl
  · rw [generatedClass?, hc]
    rfl
  · rw [(factoryBody_fields i ctx).1, (factoryClass_fields c ctx).1, hproducts]
    exact fun m hm => hm

end Leaf

/-! ### Blueprints -/

namespace Declaration

variable {d : Declaration}

private theorem generator_of_mem_repositories :
    ∀ t ∈ ArtifactType.repositories, t.generator = .classes := by decide

/-- The artifact that an interface abstracts, when nobody declared the interface: it has the
same methods or, if it is a factory, the same products. -/
private theorem exists_abstracted (hbound : d.CommandsBound) {t : ArtifactType} {name : String}
    {spec : Spec} (ht : t.isInterface = true) (hnone : name ∉ d.declared t)
    (h : d.withDefaults.assemble.addInterfaces.find? t name = some spec) :
    ∃ u n own, d.withDefaults.assemble.addInterfaces.find? u n = some own ∧
      u.interfaceType = t ∧ (if u.isRepository then repositoryInterfaceKey u n else n) = name ∧
      ((t.generator = .interfaces ∧ u.generator = .classes ∧ spec.methods = own.methods) ∨
        (t = .factoryInterface ∧ u = .factory ∧ spec.products = own.products)) := by
  -- an interface that nobody declared has the spec of what it abstracts
  have hcopy {original : ArtifactType} (hmem : (t, original) ∈ copies) :
      d.withDefaults.assemble.addInterfaces.find? original name = some spec := by
    rw [← hbound.find?_merged_copy hmem hnone, h]
  cases t with
  | entityInterface =>
    exact ⟨.entity, name, spec, hcopy (by decide), rfl, rfl, .inl ⟨rfl, rfl, rfl⟩⟩
  | dtoInterface =>
    exact ⟨.dto, name, spec, hcopy (by decide), rfl, rfl, .inl ⟨rfl, rfl, rfl⟩⟩
  | serviceInterface =>
    exact ⟨.service, name, spec, hcopy (by decide), rfl, rfl, .inl ⟨rfl, rfl, rfl⟩⟩
  | factoryInterface =>
    exact ⟨.factory, name, spec, find?_merged_factory h hnone, rfl, rfl, .inr ⟨rfl, rfl, rfl⟩⟩
  | repositoryInterface =>
    rcases find?_repositoryInterface_cases h with hown | ⟨concrete, hc, n, own, hown, hkey, rfl⟩
    · exact absurd (mem_declared_iff.mpr ⟨spec, hown⟩) hnone
    · have hrepository := ArtifactType.isRepository_iff.mpr hc
      have hclasses : concrete.generator = .classes := generator_of_mem_repositories concrete hc
      have hne : concrete ≠ .repositoryInterface := by
        rintro rfl
        cases hrepository
      rw [← Sections.find?_addInterfaces_of_ne hne] at hown
      refine ⟨concrete, n, own, hown, ArtifactType.interfaceType_of_isRepository hrepository, ?_,
        .inl ⟨rfl, hclasses, rfl⟩⟩
      rw [if_pos hrepository, hkey]
  | _ => cases ht

end Declaration

/-- **Interfaces and variants mirror what they abstract.**  A repository has an interface
exactly when its flag says so, made from the repository in its final state; an entry that was
not declared but made after another equals it; and what an interface lists that was not
declared, the class of its counterpart offers. -/
theorem Domain.interfaces_mirror {dom : Domain} {b : Blueprint} (h : dom.expand = .ok b) :
    ∃ d, Declaration.ofDomain dom = .ok d ∧
      (∀ t ∈ ArtifactType.repositories, ∀ name interface,
        b.get? .repositoryInterface (t.tag ++ "." ++ name) = some interface ↔
          ∃ own, b.get? t name = some own ∧ own.repositoryInterface = true ∧
            interface =
              { args := own.args, methods := own.methods
                entity := some (own.entity.getD name), repository := some t }) ∧
      (∀ copy original, (copy, original) ∈ Declaration.copies → ∀ name ∉ d.declared copy,
        b.get? copy name = b.get? original name) ∧
      ∀ root templates, ∀ i ∈ b.leaves, i.type.isInterface = true → i.name ∉ d.declared i.type →
        ∃ c ∈ b.leaves, c.type.interfaceType = i.type ∧ c.interfaceKey = i.name ∧
          ∃ signatures body, i.generatedInterface? ⟨b, root, templates⟩ = some signatures ∧
            c.generatedClass? ⟨b, root, templates⟩ = some body ∧
            ∀ m ∈ signatures.methods, m ∈ body.methods := by
  obtain ⟨-, d, hd, hsound, rfl⟩ := Domain.exists_of_expand h
  refine ⟨d, hd, fun t ht name interface => ?_, fun copy original hmem name hname => ?_,
    fun root templates i hi hinterface hname => ?_⟩
  · simp only [Blueprint.get?_ofSections]
    exact Declaration.find?_merged_repositoryInterfaceKey_iff
      (fun _ _ hspec => (Declaration.isValid_of_ofDomain hd hspec).1) ht
  · rw [Blueprint.get?_ofSections, Blueprint.get?_ofSections]
    exact hsound.commandsBound.find?_merged_copy hmem hname
  · have hfind := (Blueprint.mem_leaves_ofSections_iff.mp hi).2
    obtain ⟨u, n, own, hown, htype, hkey, hsame⟩ :=
      Declaration.exists_abstracted hsound.commandsBound hinterface hname hfind
    refine ⟨⟨u.layer, u, n, own⟩, Blueprint.mem_leaves_ofSections_iff.mpr ⟨rfl, hown⟩, htype,
      hkey, ?_⟩
    rcases hsame with ⟨hi, hc, hmethods⟩ | ⟨hi, hc, hproducts⟩
    · exact Leaf.mem_methods_of_class hi hc hmethods _
    · exact Leaf.mem_methods_of_factory hi hc hproducts _

/-- The task repository has its own method and that of the command, and so has its
interface. -/
theorem interfaces_mirror_orderDomain :
    ∃ b own, orderDomain.expand = .ok b ∧ b.get? .repositoryTask "order" = some own ∧
      own.methods.keys = ["archive", "place"] ∧
      b.get? .repositoryInterface "repository_task.order" = some
        { args := own.args, methods := own.methods
          entity := some (own.entity.getD "order"), repository := some .repositoryTask } := by
  have htask : orderDomain.anyLeaf (fun b _ => (b.get? .repositoryTask "order").any fun own =>
      own.repositoryInterface && own.methods.keys == ["archive", "place"]) = true := by
    decide +kernel
  obtain ⟨b, -, hb, -, hp⟩ := Domain.exists_leaf_of_anyLeaf htask
  obtain ⟨own, hown, hpass⟩ := (Option.any_eq_true _ _).mp hp
  obtain ⟨hflag, hkeys⟩ := Bool.and_eq_true_iff.mp hpass
  obtain ⟨d, -, hinterfaces, -, -⟩ := Domain.interfaces_mirror hb
  exact ⟨b, own, hb, hown, eq_of_beq hkeys,
    (hinterfaces .repositoryTask (by decide) "order" _).mpr ⟨own, hown, hflag, rfl⟩⟩

end Scaffold
