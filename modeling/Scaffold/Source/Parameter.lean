import Scaffold.Naming
import Scaffold.Spec

/-!
# Parameters in generated sources

An argument of a spec becomes a typed parameter: a type hint, a variable and, for
a type that lives in another namespace, the name to import.

## Main definitions

* `Scope`, `Scope.namespaceOf` — where the sources of a domain live.
* `Parameter`, `Parameter.ofArgument` — parameters.
-/

namespace Scaffold

/-! ### Namespaces -/

/-- Where the sources of a domain live. -/
structure Scope where
  /-- The namespace above all domains. -/
  root : String
  /-- The name of the domain. -/
  domain : String
  deriving DecidableEq, Repr

/-- Parts of a namespace with backslashes between them; empty parts are left out. -/
def joinNamespace (parts : List String) : String :=
  "\\".intercalate (parts.filter fun part => part != "")

/-- The namespace of a type in full. -/
def Scope.namespaceOf (scope : Scope) (t : ArtifactType) : String :=
  joinNamespace (scope.root :: scope.domain :: t.namespaceSegments)

/-- A name in its namespace. -/
def qualify (space name : String) : String := space ++ "\\" ++ name

/-! ### Parameters -/

/-- A typed parameter and the import its type needs. -/
structure Parameter where
  /-- The type hint. -/
  typeName : String
  /-- The variable, without the dollar sign. -/
  variableName : String
  /-- The full name to import, if the type needs one. -/
  importName : Option String := none
  deriving DecidableEq, Repr, Inhabited

/-- Two colons in a row and a slash count as the backslash that parts namespaces. -/
def withBackslashes : List Char → List Char
  | ':' :: ':' :: rest => '\\' :: withBackslashes rest
  | '/' :: rest => '\\' :: withBackslashes rest
  | c :: rest => c :: withBackslashes rest
  | [] => []

/-- The text without backslashes at its start. -/
def dropBackslashes (cs : List Char) : List Char := cs.dropWhile (· == '\\')

/-- The full name of an external type; a type without a namespace needs no import. -/
def externalImport? (typeName : String) : Option String :=
  let full := withBackslashes typeName.toList
  if full == (lastSegment typeName).toList then none else some (.ofList (dropBackslashes full))

namespace Parameter

/-- The parameter of an argument. -/
def ofArgument (scope : Scope) : Argument → Parameter
  | .valueObject name =>
    let type := className .valueObject name
    { typeName := type
      variableName := Name.lowerCamelCase name
      importName := some (qualify (scope.namespaceOf .valueObject) type) }
  | .artifact name t interface =>
    let type := if interface then interfaceName t name else className t name
    let space := scope.namespaceOf (if interface then t.interfaceType else t)
    { typeName := type
      variableName := Name.lowerCamelCase type
      importName := some (qualify space type) }
  | .scalar name s => { typeName := s.phpType, variableName := Name.lowerCamelCase name }
  | .external typeName =>
    let short := lastSegment typeName
    { typeName := short
      variableName := Name.lowerCamelCase short
      importName := externalImport? typeName }

/-- The parameter as it is written. -/
def render (p : Parameter) : String := p.typeName ++ " $" ++ p.variableName

/-- Parameters with commas between them. -/
def renderList (ps : List Parameter) : String := ", ".intercalate (ps.map render)

end Parameter

end Scaffold
