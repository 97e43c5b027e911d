import Scaffold.Proofs.Source.Signatures
import Scaffold.Proofs.Template

/-!
# The constructors that factories call

A factory makes an artifact by calling the constructor of its class: the method takes some
parameters and hands them on.  For entities, read models, services, commands, their tasks
and events the two lists are the same, because both are made from the arguments of one
spec.  The constructor of a value object is written by its template and takes the wrapped
scalar, whatever the arguments of its spec are, while the factory hands on the arguments.
So for value objects the two agree only where the author repeated the scalar as an argument.

All of this is about the texts that the templates of the program give.

## Main definitions

* `ConstructorText`, `Constructs` — what the constructor of a class in a source takes.
* `Offers` — a source has a method.
* `creation` — the method that makes an artifact.

## Main results

* `Leaf.exists_source_of_class`, `Leaf.exists_source_of_valueObject` — the constructors.
* `Leaf.exists_source_of_factory` — the methods of a factory.
* `Domain.constructors_of_products` — how the two go together.
-/

namespace Scaffold

/-! ### Texts of classes -/

/-- The text of a class, its members with an empty line between them. -/
def classText (before name clause : String) (members : List String) : String :=
  before ++ "final class " ++ name ++ clause ++ "\n\x7b\n" ++ "\n".intercalate members ++ "\x7d\n"

/-- How a constructor is written: not at all where it takes nothing, with a line for each
parameter, or with its only parameter in line. -/
inductive ConstructorText : List Parameter → List String → Prop
  | absent : ConstructorText [] []
  | lines {ps : List Parameter} (h : ps ≠ []) : ConstructorText ps
    [indent ++ "public function __construct(\n" ++
      String.join (ps.map fun p => indent ++ indent ++ "private readonly " ++ p.render ++ ",\n") ++
      indent ++ ") \x7b\n" ++ indent ++ "\x7d\n"]
  | inline (p : Parameter) : ConstructorText [p]
    [indent ++ "public function __construct(private readonly " ++ p.render ++ ")\n" ++
      indent ++ "\x7b\n" ++ indent ++ "\x7d\n"]

/-- The source is that of a class of this name whose constructor takes these parameters.
No other method is a constructor. -/
def Constructs (source name : String) (taken : List Parameter) : Prop :=
  ∃ (before clause : String) (written : List String) (methods : List SourceMethod),
    ConstructorText taken written ∧ (∀ m ∈ methods, m.name ≠ "__construct") ∧
      source = classText before name clause (written ++ methods.map SourceMethod.text)

/-- The source has this method. -/
def Offers (source : String) (m : SourceMethod) : Prop :=
  ∃ before after, source = before ++ m.text ++ after

/-- The method that makes an artifact of a class: it takes parameters and hands them on. -/
def creation (name : String) (ps : List Parameter) : SourceMethod where
  name := "create" ++ name
  parameters := ps
  returns := name
  body := ["return new " ++ name ++ "(" ++ callArguments ps ++ ");"]

theorem ClassBody.constructorText_renderConstructor (b : ClassBody) :
    ConstructorText b.constructor b.renderConstructor := by
  unfold renderConstructor
  cases hps : b.constructor with
  | nil => exact .absent
  | cons p ps => exact .lines (List.cons_ne_nil p ps)

/-- A member of a class is somewhere in the text of the class. -/
private theorem exists_classText_eq {member : String} {members : List String}
    (h : member ∈ members) (before name clause : String) :
    ∃ front back, classText before name clause members = front ++ member ++ back := by
  have hjoin : ∃ front back, "\n".intercalate members = front ++ member ++ back := by
    induction members with
    | nil => cases h
    | cons m ms ih =>
      cases ms with
      | nil =>
        obtain rfl := List.mem_singleton.mp h
        exact ⟨"", "", by simp⟩
      | cons m' ms =>
        rw [String.intercalate_cons_cons]
        rcases List.mem_cons.mp h with rfl | h
        · exact ⟨"", "\n" ++ "\n".intercalate (m' :: ms), by simp [String.append_assoc]⟩
        · obtain ⟨front, back, heq⟩ := ih h
          exact ⟨m ++ "\n" ++ front, back, by rw [heq]; simp [String.append_assoc]⟩
  obtain ⟨front, back, heq⟩ := hjoin
  refine ⟨before ++ "final class " ++ name ++ clause ++ "\n\x7b\n" ++ front, back ++ "\x7d\n", ?_⟩
  rw [classText, heq]
  simp only [String.append_assoc]

/-! ### Rendered sources -/

section Rendered

variable (b : ClassBody) (space name : String)

private theorem renderBody_builtin :
    b.renderBody TemplateId.methodBlock.builtin
      = "\n".intercalate (b.renderConstructor ++ b.methods.map SourceMethod.text) := by
  rw [ClassBody.renderBody]
  simp only [SourceMethod.render_text]

/-- The template of a class, filled with a class. -/
private theorem render_class :
    TemplateId.classFile.builtin.render
        (b.classVariables space name classModifier TemplateId.methodBlock.builtin)
      = classText (fileStart space ++ b.renderUses space ++ "\n") name b.renderImplements
          (b.renderConstructor ++ b.methods.map SourceMethod.text) := by
  have hfinal : "final class " = "final " ++ "class " := by decide
  rw [ClassBody.classVariables, renderBody_builtin, TemplateId.render_classFile, classText, hfinal,
    classModifier]
  simp only [String.append_assoc, -String.reduceAppend]

private theorem render_factory :
    TemplateId.factoryFile.builtin.render
        (b.classVariables space name classModifier TemplateId.methodBlock.builtin)
      = classText (fileStart space ++ b.renderUses space ++ "\n") name b.renderImplements
          (b.renderConstructor ++ b.methods.map SourceMethod.text) := by
  have hfinal : "\nfinal class " = "\n" ++ "final class " := by decide
  rw [ClassBody.classVariables, renderBody_builtin, TemplateId.render_factoryFile, classText,
    hfinal]
  simp only [String.append_assoc, -String.reduceAppend]

end Rendered

/-- The method of a value object that gives the scalar back. -/
def valueMethod (typeName : String) : SourceMethod where
  name := "value"
  returns := typeName
  body := ["return $this->value;"]

/-- The template of a value object has a constructor in line and one method. -/
private theorem render_valueObject (space name typeName : String) :
    TemplateId.valueObjectFile.builtin.render (.ofList
        [("namespace", space), ("class_name", name), ("scalar_type", typeName)])
      = classText (fileStart space ++ "\n") name ""
          ([indent ++ "public function __construct(private readonly " ++
              Parameter.render { typeName, variableName := "value" } ++ ")\n" ++
              indent ++ "\x7b\n" ++ indent ++ "\x7d\n"] ++
            [valueMethod typeName].map SourceMethod.text) := by
  rw [TemplateId.render_valueObjectFile]
  apply String.toList_inj.mp
  simp [classText, valueMethod, SourceMethod.text, Parameter.render, Parameter.renderList, indent]

theorem SourceContext.template_builtin {ctx : SourceContext}
    (h : ctx.templates = builtinTemplates) (id : TemplateId) :
    ctx.template id = .ok id.builtin := by
  rw [template, h]
  rfl

namespace Leaf

variable {leaf : Leaf} (ctx : SourceContext)

/-- No method that a spec declares, and none that chains an event, is a constructor. -/
private theorem name_ne_construct {m : SourceMethod}
    (h : m ∈ leaf.declaredMethods ctx.scope ++ leaf.chainMethods) : m.name ≠ "__construct" := by
  rcases List.mem_append.mp h with h | h
  · obtain ⟨e, -, rfl⟩ := List.mem_map.mp h
    intro heq
    have hunderscore : '_' ∈ (SourceMethod.ofMethod ctx.scope e.1 e.2).name.toList := by
      rw [heq]
      decide
    exact Name.underscore_not_mem_lowerCamelCase e.1 hunderscore
  · rcases List.mem_append.mp h with h | h
    · obtain ⟨next, -, rfl⟩ := List.mem_map.mp h
      have hname : "nextCommand" ≠ "__construct" := by decide
      exact hname
    · split at h
      · obtain rfl := List.mem_singleton.mp h
        decide
      · cases h

/-- **The constructor of a class** takes what the spec of its leaf says. -/
theorem exists_source_of_class (hgenerator : leaf.type.generator = .classes)
    (htemplates : ctx.templates = builtinTemplates) :
    ∃ source, leaf.source ctx = .ok source ∧
      Constructs source leaf.names.className
        (leaf.spec.args.map (Parameter.ofArgument ctx.scope)) := by
  have hclass : leaf.generatedClass? ctx = some (leaf.classBody ctx) := by
    rw [generatedClass?, hgenerator]
  have hne : leaf.type ≠ .factory := by
    intro heq
    rw [heq] at hgenerator
    cases hgenerator
  have hsource := source_of_generatedClass? hclass
  rw [if_neg hne] at hsource
  simp only [SourceContext.template_builtin htemplates] at hsource
  rw [← constructor_classBody]
  refine ⟨_, hsource, _, _, _, (leaf.classBody ctx).methods,
    (leaf.classBody ctx).constructorText_renderConstructor, fun m hm => ?_, render_class _ _ _⟩
  rw [methods_classBody] at hm
  exact name_ne_construct ctx hm

/-- **The constructor of a value object** takes the scalar that it wraps. -/
theorem exists_source_of_valueObject (htype : leaf.type = .valueObject)
    (htemplates : ctx.templates = builtinTemplates) {scalar : Scalar}
    (hscalar : wrappedScalar leaf.spec.kind = .ok scalar) :
    ∃ source, leaf.source ctx = .ok source ∧
      Constructs source leaf.names.className
        [{ typeName := scalar.phpType, variableName := "value" }] := by
  have hsource : leaf.source ctx = _ := source_of_valueObject htype
  rw [valueObjectSource, hscalar, SourceContext.template_builtin htemplates] at hsource
  refine ⟨_, hsource, _, _, _, [valueMethod scalar.phpType], .inline _, fun m hm => ?_,
    render_valueObject _ _ _⟩
  obtain rfl := List.mem_singleton.mp hm
  have hname : "value" ≠ "__construct" := by decide
  exact hname

/-- **A factory has a method for each product**, which takes and hands on what the arguments
of the product say. -/
theorem exists_source_of_factory (htype : leaf.type = .factory)
    (htemplates : ctx.templates = builtinTemplates) :
    ∃ source, leaf.source ctx = .ok source ∧ ∀ p ∈ leaf.spec.products,
      Offers source (creation (className p.type p.name) (productParameters ctx p)) := by
  have hclass : leaf.generatedClass? ctx = some (leaf.factoryClass ctx) := by
    rw [generatedClass?, htype]
    rfl
  have hsource := source_of_generatedClass? hclass
  rw [if_pos htype] at hsource
  simp only [SourceContext.template_builtin htemplates] at hsource
  refine ⟨_, hsource, fun p hp => ?_⟩
  have hmethod : (createMethod ctx p).text ∈ (leaf.factoryClass ctx).renderConstructor ++
      (leaf.factoryClass ctx).methods.map SourceMethod.text := by
    rw [(factoryClass_fields leaf ctx).1]
    exact List.mem_append_right _ (List.mem_map.mpr ⟨_, List.mem_map.mpr ⟨p, hp, rfl⟩, rfl⟩)
  obtain ⟨front, back, heq⟩ := exists_classText_eq hmethod _ _ _
  exact ⟨front, back, (render_factory _ _ _).trans heq⟩

end Leaf

/-! ### Products -/

namespace Declaration

variable {d : Declaration}

/-- Every value object that is there wraps a scalar. -/
theorem Sound.exists_wrappedScalar (hsound : d.Sound) {name : String} {spec : Spec}
    (h : d.withDefaults.assemble.addInterfaces.find? .valueObject name = some spec) :
    ∃ scalar, wrappedScalar spec.kind = .ok scalar := by
  have hkind {word : String} (hword : ∃ kind : ValueKind, word = kind.tag) :
      ∃ scalar, wrappedScalar (some word) = .ok scalar := by
    obtain ⟨kind, hkind⟩ := ValueKind.exists_ofTag_eq_ok_iff.mpr hword
    refine ⟨kind.scalar, ?_⟩
    rw [wrappedScalar, kindOfWord, hkind]
    rfl
  rw [Sections.find?_addInterfaces_of_ne (by decide)] at h
  have hdeclared : name ∈ d.declared .valueObject := by
    have hhas := has_assemble_iff.mp (Sections.has_iff.mpr ⟨spec, h⟩)
    rw [broughtNames, Set.union_self, declared_withDefaults_of_not_mem (by decide)] at hhas
    exact hhas
  obtain ⟨own, hown⟩ := mem_declared_iff.mp hdeclared
  obtain rfl := Option.some.inj ((find?_assemble_of_declared hown).symm.trans h)
  unfold kept
  dsimp only
  split
  · exact hkind ⟨.identityUuid, rfl⟩
  · cases hword : own.kind with
    | none => exact ⟨.string, rfl⟩
    | some word => exact hkind (hsound.kinds name own word hown hword)

/-- What a factory builds, the declaration brings, since an author lists no products. -/
theorem mem_products_of_find?_merged
    (hread : ∀ t name spec, d.sections.find? t name = some spec → spec.products = [])
    {family : String} {spec : Spec}
    (h : d.withDefaults.assemble.addInterfaces.find? .factory family = some spec) {p : Product}
    (hp : p ∈ spec.products) : (family, p) ∈ d.withDefaults.products := by
  rw [Sections.find?_addInterfaces_of_ne (by decide)] at h
  rcases mem_products_of_find?_assemble (.inl rfl) h hp with ⟨own, hown, hmem⟩ | hmem
  · rw [find?_withDefaults_of_not_mem (by decide)] at hown
    rw [hread _ _ _ hown] at hmem
    cases hmem
  · exact hmem

private theorem of_mem_productTypes : ∀ t ∈ productTypes,
    t ≠ .repositoryInterface ∧ (t ≠ .valueObject → t.generator = .classes) := by decide

end Declaration

/-- The product of a factory is a leaf of the blueprint, which has a class. -/
private theorem Domain.exists_product_leaf {dom : Domain} {b : Blueprint}
    (h : dom.expand = .ok b) {leaf : Leaf} (hleaf : leaf ∈ b.leaves)
    (htype : leaf.type = .factory) {p : Product} (hp : p ∈ leaf.spec.products) :
    ∃ product ∈ b.leaves, product.type = p.type ∧ product.name = p.name ∧
      p.type ∈ Declaration.productTypes ∧ b.get? p.type p.name = some product.spec ∧
      (p.type = .valueObject → ∃ scalar, wrappedScalar product.spec.kind = .ok scalar) := by
  obtain ⟨-, d, hd, hsound, rfl⟩ := Domain.exists_of_expand h
  have hfind := (Blueprint.mem_leaves_ofSections_iff.mp hleaf).2
  rw [htype] at hfind
  -- the product is one that the declaration brings, so it is there
  have hbrought := Declaration.mem_products_of_find?_merged
    (fun t name spec hspec => (Declaration.asRead_of_ofDomain hd hspec).2.products) hfind hp
  obtain ⟨hptype, hhas⟩ := Declaration.of_mem_products hbrought
  obtain ⟨spec, hspec⟩ := Sections.has_iff.mp hhas
  rw [← Sections.find?_addInterfaces_of_ne (Declaration.of_mem_productTypes _ hptype).1] at hspec
  refine ⟨⟨p.type.layer, p.type, p.name, spec⟩,
    Blueprint.mem_leaves_ofSections_iff.mpr ⟨rfl, hspec⟩, rfl, rfl, hptype, ?_, fun hvalue => ?_⟩
  · rw [Blueprint.get?_ofSections, hspec]
  · rw [hvalue] at hspec
    exact hsound.exists_wrappedScalar hspec

/-- **What factories call.**  Each product of a factory is there and has a class, and the
factory has a method that takes and hands on what the arguments of the product say.  The
constructor of the class takes just that, unless the product is a value object: then it
takes the wrapped scalar, whatever the arguments say. -/
theorem Domain.constructors_of_products {dom : Domain} {b : Blueprint}
    (h : dom.expand = .ok b) (root : String) {leaf : Leaf} (hleaf : leaf ∈ b.leaves)
    (htype : leaf.type = .factory) {p : Product} (hp : p ∈ leaf.spec.products) :
    ∃ product ∈ b.leaves, product.type = p.type ∧ product.name = p.name ∧
      ∃ source text passed taken, leaf.source ⟨b, root, builtinTemplates⟩ = .ok source ∧
        product.source ⟨b, root, builtinTemplates⟩ = .ok text ∧
        passed = product.spec.args.map (Parameter.ofArgument ⟨root, b.domain⟩) ∧
        Offers source (creation (className p.type p.name) passed) ∧
        Constructs text (className p.type p.name) taken ∧
        (p.type ≠ .valueObject → passed = taken) ∧
        (p.type = .valueObject → ∃ scalar, wrappedScalar product.spec.kind = .ok scalar ∧
          taken = [{ typeName := scalar.phpType, variableName := "value" }]) := by
  obtain ⟨product, hmem, hptype, hpname, hproduct, hget, hscalar⟩ :=
    Domain.exists_product_leaf h hleaf htype hp
  obtain ⟨hne, hclasses⟩ := Declaration.of_mem_productTypes _ hproduct
  obtain ⟨source, hsource, hoffers⟩ :=
    Leaf.exists_source_of_factory ⟨b, root, builtinTemplates⟩ htype rfl
  have hpassed : productParameters ⟨b, root, builtinTemplates⟩ p
      = product.spec.args.map (Parameter.ofArgument ⟨root, b.domain⟩) := by
    rw [productParameters]
    dsimp only
    rw [hget]
    rfl
  have hoffer := hoffers p hp
  rw [hpassed] at hoffer
  have hname : product.names.className = className p.type p.name := by
    rw [Leaf.names_of_ne (hptype ▸ hne), hptype, hpname]
    rfl
  refine ⟨product, hmem, hptype, hpname, source, ?_⟩
  -- only the class of a value object does not take the arguments of its spec
  by_cases hvalue : p.type = .valueObject
  · obtain ⟨scalar, hscalar⟩ := hscalar hvalue
    obtain ⟨text, htext, hconstructs⟩ := Leaf.exists_source_of_valueObject
      ⟨b, root, builtinTemplates⟩ (hptype.trans hvalue) rfl hscalar
    rw [hname] at hconstructs
    exact ⟨text, _, _, hsource, htext, rfl, hoffer, hconstructs, fun hnot => absurd hvalue hnot,
      fun _ => ⟨scalar, hscalar, rfl⟩⟩
  · have hgenerator : product.type.generator = .classes := hptype ▸ hclasses hvalue
    obtain ⟨text, htext, hconstructs⟩ :=
      Leaf.exists_source_of_class ⟨b, root, builtinTemplates⟩ hgenerator rfl
    rw [hname] at hconstructs
    exact ⟨text, _, _, hsource, htext, rfl, hoffer, hconstructs, fun _ => rfl,
      fun heq => absurd heq hvalue⟩

/-- The factory of commands makes the command of the domain with what its constructor
takes. -/
theorem constructors_of_products_orderDomain :
    ∃ b leaf, orderDomain.expand = .ok b ∧ leaf ∈ b.leaves ∧ leaf.type = .factory ∧
      ⟨"place", .command⟩ ∈ leaf.spec.products ∧
      ∃ source text passed, leaf.source ⟨b, "App", builtinTemplates⟩ = .ok source ∧
        Offers source (creation (className .command "place") passed) ∧
        Constructs text (className .command "place") passed := by
  have hleaf : orderDomain.anyLeaf (fun _ l => decide (l.type = .factory) &&
      decide (⟨"place", .command⟩ ∈ l.spec.products)) = true := by
    decide +kernel
  obtain ⟨b, leaf, hb, hl, hpass⟩ := Domain.exists_leaf_of_anyLeaf hleaf
  obtain ⟨htype, hp⟩ := Bool.and_eq_true_iff.mp hpass
  obtain ⟨product, -, -, -, source, text, passed, taken, hsource, -, -, hoffers, hconstructs, hsame,
      -⟩ :=
    Domain.constructors_of_products hb "App" hl (of_decide_eq_true htype) (of_decide_eq_true hp)
  obtain rfl := hsame (by decide)
  exact ⟨b, leaf, hb, hl, of_decide_eq_true htype, of_decide_eq_true hp, source, text, passed,
    hsource, hoffers, hconstructs⟩

/-- A domain with a value object that wraps a decimal number. -/
def pricedDomain : Domain where
  name := "User"
  sections := .ofList
    [("entity", .map [("user", .list [])]), ("command", .null),
      ("value_object", .map [("price", .string "money_amount")])]

/-- Its factory calls a constructor without parameters, and the class has one that takes a
number. -/
theorem exists_product_not_constructed :
    ∃ b leaf product source text, pricedDomain.expand = .ok b ∧ leaf ∈ b.leaves ∧
      leaf.type = .factory ∧ ⟨"price", .valueObject⟩ ∈ leaf.spec.products ∧ product ∈ b.leaves ∧
      product.type = .valueObject ∧ product.name = "price" ∧
      leaf.source ⟨b, "App", builtinTemplates⟩ = .ok source ∧
      Offers source (creation "Price" []) ∧
      product.source ⟨b, "App", builtinTemplates⟩ = .ok text ∧
      Constructs text "Price" [{ typeName := "float", variableName := "value" }] := by
  have hfactory : pricedDomain.anyLeaf (fun b l => decide (l.type = .factory) &&
      decide (⟨"price", .valueObject⟩ ∈ l.spec.products) &&
      (productParameters ⟨b, "App", builtinTemplates⟩ ⟨"price", .valueObject⟩).isEmpty &&
      b.leaves.any fun v => decide (v.type = .valueObject) && decide (v.name = "price") &&
        decide (v.spec.kind = some "money_amount")) = true := by
    decide +kernel
  obtain ⟨b, leaf, hb, hl, hpass⟩ := Domain.exists_leaf_of_anyLeaf hfactory
  simp only [Bool.and_eq_true, decide_eq_true_eq, List.any_eq_true, List.isEmpty_iff] at hpass
  obtain ⟨⟨⟨htype, hp⟩, hempty⟩, product, hproduct, ⟨hptype, hpname⟩, hkind⟩ := hpass
  obtain ⟨source, hsource, hoffers⟩ :=
    Leaf.exists_source_of_factory ⟨b, "App", builtinTemplates⟩ htype rfl
  have hscalar : wrappedScalar product.spec.kind = .ok .float := by
    rw [hkind]
    rfl
  obtain ⟨text, htext, hconstructs⟩ :=
    Leaf.exists_source_of_valueObject ⟨b, "App", builtinTemplates⟩ hptype rfl hscalar
  have hprice : className .valueObject "price" = "Price" := by decide +kernel
  have hname : product.names.className = "Price" := by
    rw [Leaf.names_of_ne (by rw [hptype]; decide), hptype, hpname]
    exact hprice
  have hoffer := hoffers _ hp
  rw [hempty, hprice] at hoffer
  rw [hname] at hconstructs
  exact ⟨b, leaf, product, source, text, hb, hl, htype, hp, hproduct, hptype, hpname, hsource,
    hoffer, htext, hconstructs⟩

end Scaffold
