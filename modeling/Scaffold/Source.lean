import Scaffold.Source.Context

/-!
# Sources of artifacts

The text of the file that is generated for a leaf of a blueprint.

Most leaves are concrete classes (an entity, a command, a handler, a repository and so on)
or interfaces.  A factory has one method for each of its products, which takes what the
constructor of the product takes and hands it on.  A value object wraps a scalar.  A
migration describes a table, with a column for each argument.

## Main definitions

* `Leaf.implementedInterface?` — the interface that a class implements.
* `Leaf.classBody`, `Leaf.classSource`, `Leaf.interfaceSource` — classes and interfaces.
* `createMethod` — the method for one product.
* `Leaf.factoryClass`, `Leaf.factorySource` — factories and their interfaces.
* `Leaf.valueObjectSource` — value objects.
* `columnSource`, `Leaf.migrationSource` — columns and migrations.
* `Leaf.source` — the source of any leaf.
-/

namespace Scaffold

/-! ### Classes and interfaces -/

/-- The modifier of generated classes. -/
def classModifier : String := "final "

namespace Leaf

/-- An interface for this class is generated. -/
def hasInterface (leaf : Leaf) (b : Blueprint) : Bool :=
  if leaf.type.isRepository then (b.repositoryInterface? leaf.type leaf.name).isSome
  else match leaf.type with
    | .entity | .dto | .service => b.has leaf.type.interfaceType leaf.name
    | _ => false

/-- The type and the name of the interface that a class implements. -/
def implementedInterface? (leaf : Leaf) (b : Blueprint) : Option (ArtifactType × String) :=
  if leaf.hasInterface b then
    some (leaf.type.interfaceType, interfaceName leaf.type leaf.name)
  else none

/-- The method of an event that names the command it sets off. -/
def nextCommandMethod (command : String) : SourceMethod where
  name := "nextCommand"
  returns := "string"
  body := ["return " ++ command ++ "::class;"]

/-- The method of an event that ends its process. -/
def terminalMethod : SourceMethod where
  name := "isTerminal"
  returns := "bool"
  body := ["return true;"]

/-- What the class of a leaf consists of. -/
def classBody (leaf : Leaf) (ctx : SourceContext) : ClassBody :=
  let declared := ClassBody.offersMethods ctx.scope
    (ClassBody.takesArguments ctx.scope {} leaf.spec.args) leaf.spec.methods
  let implementing := match leaf.implementedInterface? ctx.blueprint with
    | some (t, name) => declared.implement (ctx.namespaceOf t) name
    | none => declared
  let chained := match leaf.spec.nextCommand with
    | some next =>
      let command := className .command next
      (implementing.use (qualify (ctx.namespaceOf .command) command)).offers
        (nextCommandMethod command)
    | none => implementing
  if leaf.spec.terminal then chained.offers terminalMethod else chained

/-- The source of a class. -/
def classSource (leaf : Leaf) (ctx : SourceContext) : Except SourceFault String := do
  let file ← ctx.template .classFile
  let method ← ctx.template .methodBlock
  return file.render ((leaf.classBody ctx).classVariables (ctx.namespaceOf leaf.type)
    leaf.names.className classModifier method)

/-- The source of an interface. -/
def interfaceSource (leaf : Leaf) (ctx : SourceContext) : Except SourceFault String := do
  let file ← ctx.template .interfaceFile
  let body := ClassBody.offersMethods ctx.scope {} leaf.spec.methods
  return file.render (body.interfaceVariables (ctx.namespaceOf leaf.type)
    leaf.names.interfaceName)

end Leaf

/-! ### Factories -/

/-- What the constructor of a product takes. -/
def productParameters (ctx : SourceContext) (p : Product) : List Parameter :=
  match ctx.blueprint.get? p.type p.name with
  | some spec => spec.args.map (Parameter.ofArgument ctx.scope)
  | none => []

/-- The variables of parameters, as they are handed on. -/
def callArguments (ps : List Parameter) : String :=
  ", ".intercalate (ps.map fun p => "$" ++ p.variableName)

/-- The method that builds one product. -/
def createMethod (ctx : SourceContext) (p : Product) : SourceMethod :=
  let product := className p.type p.name
  let parameters := productParameters ctx p
  { name := "create" ++ product
    parameters
    returns := product
    body := ["return new " ++ product ++ "(" ++ callArguments parameters ++ ");"] }

namespace Leaf

/-- What a factory offers: a method for each product, in their order. -/
def factoryBody (leaf : Leaf) (ctx : SourceContext) : ClassBody :=
  leaf.spec.products.foldl (fun body p =>
    (body.use (qualify (ctx.namespaceOf p.type) (className p.type p.name))).offers
      (createMethod ctx p)) {}

/-- What the class of a factory consists of: it implements its interface, if there is one. -/
def factoryClass (leaf : Leaf) (ctx : SourceContext) : ClassBody :=
  let body := leaf.factoryBody ctx
  if ctx.blueprint.has .factoryInterface leaf.name then
    body.implement (ctx.namespaceOf .factoryInterface) leaf.names.interfaceName
  else body

/-- The source of a factory or of its interface. -/
def factorySource (leaf : Leaf) (ctx : SourceContext) : Except SourceFault String := do
  let space := ctx.namespaceOf leaf.type
  if leaf.type = .factoryInterface then
    let file ← ctx.template .interfaceFile
    return file.render ((leaf.factoryBody ctx).interfaceVariables space leaf.names.interfaceName)
  else
    let file ← ctx.template .factoryFile
    let method ← ctx.template .methodBlock
    return file.render ((leaf.factoryClass ctx).classVariables space leaf.names.className
      classModifier method)

end Leaf

/-! ### Value objects and migrations -/

/-- A word that must name a kind of value objects. -/
def kindOfWord (word : String) : Except SourceFault ValueKind :=
  match ValueKind.ofTag word with
  | .ok kind => .ok kind
  | .error unknown => .error (.word unknown)

/-- The scalar that a value object wraps; without a kind it is text. -/
def wrappedScalar : Option String → Except SourceFault Scalar
  | some word => do return (← kindOfWord word).scalar
  | none => .ok .string

/-- What a column for a value object holds.  Identities are told apart from other
texts, by their kind or by a reserved name. -/
def valueObjectColumn (name : String) (kind : Option String) : Except SourceFault ColumnSource :=
  match kind with
  | some word =>
    if word == identityKind then .ok .uuid
    else do return .scalar (← kindOfWord word).scalar
  | none => .ok (if isReservedIdentity name then .uuid else .scalar .string)

/-- What the column of an argument holds. -/
def columnSource (b : Blueprint) (artifact : String) (arg : Argument) :
    Except SourceFault ColumnSource :=
  match arg with
  | .valueObject name => valueObjectColumn name ((b.get? .valueObject name).bind (·.kind))
  | .scalar _ s => .ok (.scalar s)
  | .artifact .. | .external _ => .error (.unsupportedColumn artifact arg.name)

/-- The line of a column. -/
def columnLine (column : String) (storage : Storage) : String :=
  "        '" ++ Name.underscored column ++ "' => '" ++ storage.tag ++ "',\n"

namespace Leaf

/-- The source of a value object. -/
def valueObjectSource (leaf : Leaf) (ctx : SourceContext) : Except SourceFault String := do
  let wrapped ← wrappedScalar leaf.spec.kind
  let file ← ctx.template .valueObjectFile
  return file.render <| .ofList
    [("namespace", ctx.namespaceOf leaf.type), ("class_name", leaf.names.className),
      ("scalar_type", wrapped.phpType)]

/-- The columns of a migration. -/
def columns (leaf : Leaf) (b : Blueprint) : Except SourceFault (List String) :=
  leaf.spec.args.mapM fun arg => do
    return columnLine arg.name (← columnSource b leaf.path arg).storage

/-- The source of a migration. -/
def migrationSource (leaf : Leaf) (ctx : SourceContext) : Except SourceFault String := do
  let columns ← leaf.columns ctx.blueprint
  let file ← ctx.template .migrationFile
  return file.render <| .ofList
    [("namespace", ctx.namespaceOf leaf.type), ("class_name", leaf.names.className),
      ("table", Name.underscored leaf.name), ("columns", String.join columns)]

end Leaf

/-! ### All leaves -/

/-- The source of a leaf, by the generator of its type. -/
def Leaf.source (leaf : Leaf) (ctx : SourceContext) : Except SourceFault String :=
  match leaf.type.generator with
  | .classes => leaf.classSource ctx
  | .interfaces => leaf.interfaceSource ctx
  | .factories => leaf.factorySource ctx
  | .valueObjects => leaf.valueObjectSource ctx
  | .migrations => leaf.migrationSource ctx

end Scaffold
