import Scaffold.Blueprint
import Scaffold.Source.ClassBody
import Scaffold.Template

/-!
# What generators work with

A generator sees the leaf it writes, the blueprint around it and the templates.
It never decides names or paths.

## Main definitions

* `Generator`, `ArtifactType.generator` — who writes which type.
* `SourceContext` — what a generator may look at.
* `SourceFault` — why a source cannot be written.
-/

namespace Scaffold

/-! ### Generators -/

/-- The generators. -/
inductive Generator where
  /-- Concrete classes. -/
  | classes
  /-- Interfaces, those of factories excepted. -/
  | interfaces
  /-- Factories and their interfaces. -/
  | factories
  /-- Value objects. -/
  | valueObjects
  /-- Migrations. -/
  | migrations
  deriving DecidableEq, Repr

/-- The word for a generator. -/
def Generator.tag : Generator → String
  | classes => "class"
  | interfaces => "interface"
  | factories => "factory"
  | valueObjects => "value_object"
  | migrations => "migration"

/-- The generator that writes the artifacts of a type. -/
def ArtifactType.generator : ArtifactType → Generator
  | .valueObject => .valueObjects
  | .migrations => .migrations
  | .factory | .factoryInterface => .factories
  | t => if t.isInterface then .interfaces else .classes

/-! ### Context -/

/-- What a generator may look at. -/
structure SourceContext where
  /-- Everything that is generated for the domain. -/
  blueprint : Blueprint
  /-- The namespace above all domains. -/
  rootNamespace : String
  /-- The templates. -/
  templates : TemplateSet

namespace SourceContext

/-- Where the sources of the domain live. -/
def scope (ctx : SourceContext) : Scope := ⟨ctx.rootNamespace, ctx.blueprint.domain⟩

/-- The namespace of a type in full. -/
def namespaceOf (ctx : SourceContext) (t : ArtifactType) : String := ctx.scope.namespaceOf t

end SourceContext

/-! ### Faults -/

/-- Why the source of an artifact cannot be written. -/
inductive SourceFault where
  /-- A template cannot be had. -/
  | template (fault : TemplateFault)
  /-- A word is outside its closed set. -/
  | word (word : UnknownWord)
  /-- A column of a migration holds neither a value object nor a scalar. -/
  | unsupportedColumn (artifact column : String)
  deriving DecidableEq, Repr

/-- The text of the fault. -/
def SourceFault.message : SourceFault → String
  | template fault => fault.message
  | word unknown => unknown.message
  | unsupportedColumn artifact column =>
    s!"{Generator.migrations.tag} cannot generate {artifact}: " ++
      s!"column '{column}' is not a value object or scalar"

/-- A template of the context. -/
def SourceContext.template (ctx : SourceContext) (id : TemplateId) :
    Except SourceFault Template :=
  match ctx.templates id with
  | .ok t => .ok t
  | .error fault => .error (.template fault)

end Scaffold
