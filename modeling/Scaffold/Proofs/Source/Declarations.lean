import Scaffold.Proofs.Generation.Containment
import Scaffold.Proofs.Source.Columns
import Scaffold.Generation

/-!
# Where a class is declared

The name of a class in full and the path of its file have to agree, or nobody finds the
class.  They are settled apart: the path by a run, the namespace by whoever fills in the
templates, and whether a class or an interface is declared by the template, which each
generator picks on its own.

## Main definitions

* `SourceFile` — what a file of source declares, and where.
* `Leaf.Declares` — it declares what it is to declare for a leaf.

## Main results

* `Leaf.exists_declares` — what the source of a leaf declares.
* `Domain.declared_at_target` — the declaration and the path agree.
-/

namespace Scaffold

/-! ### Files of source -/

/-- What can be declared. -/
inductive SourceKind where
  /-- A class that cannot be extended. -/
  | finalClass
  /-- An interface. -/
  | interface
  deriving DecidableEq, Repr

/-- The words that stand before the name. -/
def SourceKind.words : SourceKind → String
  | finalClass => "final class "
  | interface => "interface "

/-- A file of source: one declaration in a namespace. -/
structure SourceFile where
  /-- The namespace. -/
  space : String
  /-- The names that are imported. -/
  imports : List String := []
  /-- What is declared. -/
  kind : SourceKind
  /-- The name that is declared. -/
  name : String
  /-- The interfaces that it implements. -/
  implements : List String := []
  /-- What stands between the braces. -/
  block : String
  deriving DecidableEq, Repr

namespace SourceFile

/-- The lines of imports, after an empty line. -/
def importLines : List String → String
  | [] => ""
  | fulls => "\n" ++ String.join (fulls.map fun full => "use " ++ full ++ ";\n")

/-- The list of interfaces. -/
def implementsClause (interfaces : List String) : String :=
  if interfaces.isEmpty then "" else " implements " ++ ", ".intercalate interfaces

/-- The text of a file. -/
def text (f : SourceFile) : String :=
  fileStart f.space ++ importLines f.imports ++ "\n" ++ f.kind.words ++ f.name ++
    implementsClause f.implements ++ "\n\x7b\n" ++ f.block ++ "\x7d\n"

end SourceFile

/-! ### Templates that are filled in -/

namespace ClassBody

variable (b : ClassBody) (space name : String) (method : Template)

/-- The file of a class. -/
def classSourceFile : SourceFile where
  space
  imports := b.importsInto space
  kind := .finalClass
  name
  implements := b.implements
  block := b.renderBody method

/-- The file of an interface, which lists signatures and implements nothing. -/
def interfaceSourceFile : SourceFile where
  space
  imports := b.importsInto space
  kind := .interface
  name
  block := String.join (b.methods.map (·.signature))

theorem importLines_importsInto :
    SourceFile.importLines (b.importsInto space) = b.renderUses space := by
  unfold renderUses
  cases b.importsInto space with
  | nil => rfl
  | cons full fulls => rfl

/-- The templates of classes and of factories make the same file. -/
theorem text_classSourceFile {id : TemplateId} (hid : id = .classFile ∨ id = .factoryFile) :
    id.builtin.render (b.classVariables space name classModifier method)
      = (b.classSourceFile space name method).text := by
  have hclause : SourceFile.implementsClause b.implements = b.renderImplements := rfl
  rw [SourceFile.text, classSourceFile, importLines_importsInto, hclause, classVariables]
  dsimp only
  rcases hid with rfl | rfl
  · have hfinal : SourceKind.finalClass.words = "final " ++ "class " := by decide
    rw [TemplateId.render_classFile, hfinal, classModifier]
    simp only [String.append_assoc, -String.reduceAppend]
  · have hfinal : "\nfinal class " = "\n" ++ SourceKind.finalClass.words := by decide
    rw [TemplateId.render_factoryFile, hfinal]
    simp only [String.append_assoc, -String.reduceAppend]

theorem text_interfaceSourceFile :
    TemplateId.interfaceFile.builtin.render (b.interfaceVariables space name)
      = (b.interfaceSourceFile space name).text := by
  have hinterface : "\ninterface " = "\n" ++ SourceKind.interface.words := by decide
  have hclause : SourceFile.implementsClause [] = "" := rfl
  rw [SourceFile.text, interfaceSourceFile, importLines_importsInto, hclause,
    interfaceVariables, TemplateId.render_interfaceFile, hinterface]
  simp only [String.append_assoc, String.append_empty, -String.reduceAppend]

end ClassBody

/-- A value object holds its constructor and the method that gives the scalar back. -/
def valueObjectFile (space name typeName : String) : SourceFile where
  space
  kind := .finalClass
  name
  block := "    public function __construct(private readonly " ++ typeName ++
    " $value)\n    \x7b\n    \x7d\n\n    public function value(): " ++ typeName ++
    "\n    \x7b\n        return $this->value;\n    \x7d\n"

theorem text_valueObjectFile (space name typeName : String) :
    TemplateId.valueObjectFile.builtin.render (.ofList
        [("namespace", space), ("class_name", name), ("scalar_type", typeName)])
      = (valueObjectFile space name typeName).text := by
  rw [TemplateId.render_valueObjectFile]
  apply String.toList_inj.mp
  simp [SourceFile.text, valueObjectFile, SourceFile.importLines, SourceFile.implementsClause,
    SourceKind.words]

/-- A migration holds the name of its table and its columns. -/
def migrationFile (space name table columns : String) : SourceFile where
  space
  kind := .finalClass
  name
  block := "    public const TABLE = '" ++ table ++ "';\n\n    public const COLUMNS = [\n" ++
    columns ++ "    ];\n"

theorem text_migrationFile (space name table columns : String) :
    TemplateId.migrationFile.builtin.render (.ofList
        [("namespace", space), ("class_name", name), ("table", table), ("columns", columns)])
      = (migrationFile space name table columns).text := by
  rw [TemplateId.render_migrationFile]
  apply String.toList_inj.mp
  simp [SourceFile.text, migrationFile, SourceFile.importLines, SourceFile.implementsClause,
    SourceKind.words]

/-! ### What a leaf declares -/

/-- Interfaces come from the generator of interfaces, or are those of factories. -/
theorem ArtifactType.isInterface_iff {t : ArtifactType} :
    t.isInterface = true ↔ t.generator = .interfaces ∨ t = .factoryInterface := by
  cases t <;> decide

namespace Leaf

variable {leaf : Leaf} {ctx : SourceContext} {body : ClassBody} {text : String}

/-- A file declares what a leaf is to declare: a class or an interface, as its type has it,
of the name that its file bears, in the namespace of its type. -/
structure Declares (leaf : Leaf) (ctx : SourceContext) (file : SourceFile) : Prop where
  /-- The namespace is that of the type. -/
  space : file.space = ctx.namespaceOf leaf.type
  /-- Types of interfaces declare interfaces, and no others do. -/
  kind : file.kind = .interface ↔ leaf.type.isInterface = true
  /-- The name is that of the file. -/
  name : file.name = leaf.names.emittedName

/-- A file of a class, for a leaf whose type is not one of interfaces. -/
theorem declares_of_finalClass (h : leaf.type.isInterface = false) {file : SourceFile}
    (hspace : file.space = ctx.namespaceOf leaf.type) (hkind : file.kind = .finalClass)
    (hname : file.name = leaf.names.className) : leaf.Declares ctx file where
  space := hspace
  kind := by
    rw [hkind, h]
    decide
  name := by
    rw [hname, ResolvedNames.emittedName, artifactType_names, h]
    rfl

/-- A file of an interface, for a leaf whose type is one of interfaces. -/
theorem declares_of_interface (h : leaf.type.isInterface = true) {file : SourceFile}
    (hspace : file.space = ctx.namespaceOf leaf.type) (hkind : file.kind = .interface)
    (hname : file.name = leaf.names.interfaceName) : leaf.Declares ctx file where
  space := hspace
  kind := iff_of_true hkind h
  name := by
    rw [hname, ResolvedNames.emittedName, artifactType_names, h]
    rfl

theorem isInterface_of_generatedClass? (h : leaf.generatedClass? ctx = some body) :
    leaf.type.isInterface = false := by
  rw [← Bool.not_eq_true, ArtifactType.isInterface_iff]
  unfold generatedClass? at h
  rintro (hgenerator | htype)
  · rw [hgenerator] at h
    cases h
  · rw [htype] at h
    cases h

theorem isInterface_of_generatedInterface? (h : leaf.generatedInterface? ctx = some body) :
    leaf.type.isInterface = true := by
  rw [ArtifactType.isInterface_iff]
  unfold generatedInterface? at h
  split at h
  · next hgenerator => exact .inl hgenerator
  · split at h
    · next htype => exact .inr htype
    · cases h
  all_goals cases h

/-- **The source of a leaf declares** what it is to declare, with the templates of the
program. -/
theorem exists_declares (htemplates : ctx.templates = builtinTemplates)
    (h : leaf.source ctx = .ok text) :
    ∃ file : SourceFile, text = file.text ∧ leaf.Declares ctx file := by
  rcases generated_cases leaf ctx with ⟨body, hbody⟩ | ⟨body, hbody⟩ | htype | htype
  · rw [source_of_generatedClass? hbody] at h
    simp only [SourceContext.template_builtin htemplates] at h
    refine ⟨_, (Except.ok.inj h).symm.trans (body.text_classSourceFile _ _ _ ?_),
      declares_of_finalClass (isInterface_of_generatedClass? hbody) rfl rfl rfl⟩
    split
    · exact .inr rfl
    · exact .inl rfl
  · rw [source_of_generatedInterface? hbody, SourceContext.template_builtin htemplates] at h
    exact ⟨_, (Except.ok.inj h).symm.trans (body.text_interfaceSourceFile _ _),
      declares_of_interface (isInterface_of_generatedInterface? hbody) rfl rfl rfl⟩
  · have hclass : leaf.type.isInterface = false := htype ▸ rfl
    rw [source_of_valueObject htype] at h
    obtain ⟨scalar, -, h⟩ := Except.bind_eq_ok_iff.mp h
    rw [SourceContext.template_builtin htemplates] at h
    exact ⟨_, (Except.ok.inj h).symm.trans (text_valueObjectFile _ _ _),
      declares_of_finalClass hclass rfl rfl rfl⟩
  · have hclass : leaf.type.isInterface = false := htype ▸ rfl
    rw [source_of_migrations htype] at h
    obtain ⟨columns, -, h⟩ := Except.bind_eq_ok_iff.mp h
    rw [SourceContext.template_builtin htemplates] at h
    exact ⟨_, (Except.ok.inj h).symm.trans (text_migrationFile _ _ _ _),
      declares_of_finalClass hclass rfl rfl rfl⟩

end Leaf

/-! ### Namespaces and paths -/

/-- **A namespace in full** has all its parts, if none of the first two is empty. -/
theorem Scope.namespaceOf_eq_intercalate {scope : Scope} (hroot : scope.root ≠ "")
    (hdomain : scope.domain ≠ "") (t : ArtifactType) :
    scope.namespaceOf t
      = "\\".intercalate (scope.root :: scope.domain :: t.namespaceSegments) := by
  rw [namespaceOf, joinNamespace, List.filter_eq_self.mpr]
  refine List.forall_mem_cons.mpr ⟨bne_iff_ne.mpr hroot,
    List.forall_mem_cons.mpr ⟨bne_iff_ne.mpr hdomain, fun part hpart => bne_iff_ne.mpr ?_⟩⟩
  exact (namespaceSegments_ne_and_slash_not_mem t part hpart).1

/-- **A class is declared where its file is.**  With the templates of the program, the
source of a leaf declares one class or, if its type is one of interfaces, one interface.
Where its name has no slash, the parts of its name in full below the root are those of its
path below the directory of the run. -/
theorem Domain.declared_at_target {dom : Domain} {b : Blueprint} (h : dom.expand = .ok b)
    {l : Leaf} (hslash : '/' ∉ l.names.emittedName.toList) (o : RunOptions)
    (hroot : o.rootNamespace ≠ "") {text : String}
    (hsource : (Job.mk b l).source o builtinTemplates = .ok text) :
    let segments := b.domain :: l.type.namespaceSegments
    ∃ file : SourceFile, text = file.text ∧
      (file.kind = .interface ↔ l.type.isInterface = true) ∧
      file.name = l.names.emittedName ∧
      file.space = "\\".intercalate (o.rootNamespace :: segments) ∧
      qualify file.space file.name
        = "\\".intercalate (o.rootNamespace :: segments ++ [file.name]) ∧
      (Job.mk b l).target o
        = o.outputDir.below (segments ++ [file.name ++ "." ++ o.extension]) := by
  intro segments
  obtain ⟨file, htext, hspace, hkind, hname⟩ :=
    Leaf.exists_declares rfl (show l.source ⟨b, o.rootNamespace, builtinTemplates⟩ = _ from hsource)
  have hvalid : Name.isValid b.domain = true := by
    obtain ⟨hvalid, d, -, -, rfl⟩ := Domain.exists_of_expand h
    rw [Blueprint.domain_ofSections]
    exact hvalid
  have hdomain : b.domain ≠ "" := by
    intro hempty
    rw [hempty] at hvalid
    cases hvalid
  have hfull : file.space = "\\".intercalate (o.rootNamespace :: segments) :=
    hspace.trans (Scope.namespaceOf_eq_intercalate hroot hdomain l.type)
  refine ⟨file, htext, hkind, hname, hfull, ?_, ?_⟩
  · rw [qualify, hfull, String.intercalate_append_of_ne_nil (List.cons_ne_nil _ _)
      (List.cons_ne_nil _ _), String.intercalate_singleton]
  · rw [hname]
    exact Leaf.targetPath_eq_below hvalid hslash

/-- An interface that a factory generator writes, below a root that looks like a placeholder. -/
theorem declared_at_target_orderDomain :
    ∃ b l text, ∃ file : SourceFile, orderDomain.expand = .ok b ∧ l ∈ b.leaves ∧
      l.source ⟨b, "Acme\\\x7bbody\x7d", builtinTemplates⟩ = .ok text ∧ text = file.text ∧
      file.kind = .interface ∧
      qualify file.space file.name
        = "Acme\\\x7bbody\x7d\\Shop\\Domain\\FactoryInterface\\EventFactoryInterface" ∧
      targetPath { outputDir := ⟨"out/"⟩ } b.domain l.names
        = ⟨"out/Shop/Domain/FactoryInterface/EventFactoryInterface.php"⟩ := by
  have hleaf : orderDomain.anyLeaf (fun b l => decide (b.domain = "Shop" ∧
      l.type = .factoryInterface ∧ l.names.emittedName = "EventFactoryInterface")) = true := by
    decide +kernel
  obtain ⟨b, l, hb, hl, hpass⟩ := Domain.exists_leaf_of_anyLeaf hleaf
  obtain ⟨hdomain, htype, hname⟩ := of_decide_eq_true hpass
  have hne : l.type ≠ .migrations := by
    rw [htype]
    decide
  obtain ⟨text, htext⟩ := Except.exists_eq_ok_of_isOk
    (Domain.isOk_source_of_ne_migrations hb "Acme\\\x7bbody\x7d" hl hne)
  have hslash : '/' ∉ l.names.emittedName.toList := by
    rw [hname]
    decide
  obtain ⟨file, hfile, hkind, hemitted, -, hfull, htarget⟩ := Domain.declared_at_target hb hslash
    { outputDir := ⟨"out/"⟩, rootNamespace := "Acme\\\x7bbody\x7d" } (by decide) htext
  rw [hdomain, htype, hemitted, hname] at hfull htarget
  refine ⟨b, l, text, file, hb, hl, htext, hfile, hkind.mpr ?_, ?_, ?_⟩
  · rw [htype]
    rfl
  · rw [hemitted, hname, hfull]
    decide
  · exact htarget.trans (by decide)

end Scaffold
