import Scaffold.Source.Parameter
import Scaffold.Template

/-!
# Bodies of classes and interfaces

A class is collected step by step: names it uses, interfaces it implements,
parameters of its constructor, methods.  The imports are a set, so the order of
the steps does not show in them; constructor and methods keep the order in which
they came.

## Main definitions

* `SourceMethod` — a method with signature and body.
* `ClassBody` and its steps `use`, `implement`, `takes`, `offers`.
* `ClassBody.classVariables`, `ClassBody.interfaceVariables` — what the templates
  of classes and interfaces are filled with.
-/

namespace Scaffold

/-- The blanks of one level. -/
def indent : String := "    "

/-! ### Methods -/

/-- A method of a generated class. -/
structure SourceMethod where
  /-- The name of the method. -/
  name : String
  /-- Its parameters. -/
  parameters : List Parameter := []
  /-- The type it returns. -/
  returns : String
  /-- The lines of its body, without indentation. -/
  body : List String := []
  deriving DecidableEq, Repr, Inhabited

namespace SourceMethod

/-- A declared method.  Its body is left to the author. -/
def ofMethod (scope : Scope) (name : String) (m : Method) : SourceMethod where
  name := Name.lowerCamelCase name
  parameters := m.args.map (Parameter.ofArgument scope)
  returns := m.returns.getD "void"
  body := ["throw new \\LogicException('Not implemented');"]

/-- The imports that the parameters need. -/
def imports (m : SourceMethod) : List String := m.parameters.filterMap (·.importName)

/-- What the template of a method is filled with. -/
def slotValues (m : SourceMethod) : Variables := .ofList
  [("method_name", m.name),
    ("parameters", Parameter.renderList m.parameters),
    ("returns", m.returns),
    ("method_body", String.join (m.body.map fun line => indent ++ indent ++ line ++ "\n"))]

/-- The method as an interface declares it. -/
def signature (m : SourceMethod) : String :=
  indent ++ "public function " ++ m.name ++ "(" ++ Parameter.renderList m.parameters ++ "): " ++
    m.returns ++ ";\n"

end SourceMethod

/-! ### Classes -/

/-- What a class consists of. -/
structure ClassBody where
  /-- The full names that the class uses, as the keys of a dictionary. -/
  uses : Dict String Unit := ∅
  /-- The interfaces it implements, by their short names. -/
  implements : List String := []
  /-- What its constructor takes. -/
  constructor : List Parameter := []
  /-- Its methods. -/
  methods : List SourceMethod := []
  deriving DecidableEq, Repr, Inhabited

namespace ClassBody

/-! ### Steps -/

/-- Use a name. -/
def use (b : ClassBody) (full : String) : ClassBody := { b with uses := b.uses.insert full () }

/-- Use several names. -/
def useAll (b : ClassBody) (fulls : List String) : ClassBody := fulls.foldl use b

/-- Implement an interface of a namespace; naming one twice changes nothing. -/
def implement (b : ClassBody) (space interface : String) : ClassBody :=
  let b := b.use (qualify space interface)
  if interface ∈ b.implements then b else { b with implements := b.implements ++ [interface] }

/-- Take one more parameter in the constructor. -/
def takes (b : ClassBody) (p : Parameter) : ClassBody :=
  let b := b.useAll p.importName.toList
  { b with constructor := b.constructor ++ [p] }

/-- Offer one more method. -/
def offers (b : ClassBody) (m : SourceMethod) : ClassBody :=
  let b := b.useAll m.imports
  { b with methods := b.methods ++ [m] }

/-- Take the arguments of a spec in the constructor. -/
def takesArguments (scope : Scope) (b : ClassBody) (args : List Argument) : ClassBody :=
  (args.map (Parameter.ofArgument scope)).foldl takes b

/-- Offer the methods of a spec. -/
def offersMethods (scope : Scope) (b : ClassBody) (methods : Dict String Method) : ClassBody :=
  (methods.entries.map fun (name, m) => SourceMethod.ofMethod scope name m).foldl offers b

/-! ### Text -/

/-- What stands before the last backslash. -/
def namespacePart? (full : String) : Option String :=
  let short := full.toList.reverse.takeWhile (· != '\\')
  if short.length == full.length then none
  else some (.ofList (full.toList.take (full.length - short.length - 1)))

/-- The names to import into a namespace: all that live elsewhere. -/
def importsInto (b : ClassBody) (space : String) : List String :=
  b.uses.keys.filter fun full => namespacePart? full != some space

/-- The block of imports, with an empty line before it. -/
def renderUses (b : ClassBody) (space : String) : String :=
  match b.importsInto space with
  | [] => ""
  | fulls => "\n" ++ String.join (fulls.map fun full => "use " ++ full ++ ";\n")

/-- The constructor, if it takes anything. -/
def renderConstructor (b : ClassBody) : List String :=
  if b.constructor.isEmpty then []
  else
    let parameters := b.constructor.map fun p =>
      indent ++ indent ++ "private readonly " ++ p.render ++ ",\n"
    [indent ++ "public function __construct(\n" ++ String.join parameters ++ indent ++ ") \x7b\n" ++
      indent ++ "\x7d\n"]

/-- The clause that lists the interfaces. -/
def renderImplements (b : ClassBody) : String :=
  if b.implements.isEmpty then "" else " implements " ++ ", ".intercalate b.implements

/-- The constructor and the methods, with an empty line between them. -/
def renderBody (b : ClassBody) (method : Template) : String :=
  "\n".intercalate (b.renderConstructor ++ b.methods.map fun m => method.render m.slotValues)

/-- What the template of a class is filled with. -/
def classVariables (b : ClassBody) (space className modifier : String) (method : Template) :
    Variables := .ofList
  [("namespace", space),
    ("uses", b.renderUses space),
    ("modifier", modifier),
    ("class_name", className),
    ("implements", b.renderImplements),
    ("body", b.renderBody method)]

/-- What the template of an interface is filled with; it has signatures only. -/
def interfaceVariables (b : ClassBody) (space interfaceName : String) : Variables := .ofList
  [("namespace", space),
    ("uses", b.renderUses space),
    ("interface_name", interfaceName),
    ("body", String.join (b.methods.map (·.signature)))]

end ClassBody

end Scaffold
