import Scaffold.ArtifactType
import Scaffold.Name

/-!
# Names of generated artifacts

From the type and the logical name of an artifact follow its class name, the
name of its interface and its namespace.  Nothing else is consulted.

## Main definitions

* `ArtifactType.suffix` — what a type adds to the name.
* `ArtifactType.namespaceSegments` — where artifacts of a type are declared.
* `className`, `interfaceName` — the two names of an artifact.
* `ResolvedNames`, `resolve` — all of it together.
-/

namespace Scaffold

open Name

/-! ### Suffixes -/

/-- The suffix a tag stands for: the tag in camel case, with a few exceptions. -/
def suffixOfTag (tag : String) : String :=
  if tag == "value_object" || tag == "cli" then ""
  else if tag == "command_handler" || tag == "query_handler" then "Handler"
  else if tag == "rpc" then "Method"
  else camelCase tag

/-- The suffix in names; a task repository is named the other way round. -/
def namingSuffix (tag : String) : String :=
  if tag == "repository_task" then suffixOfTag "taskRepository" else suffixOfTag tag

/-- What a type adds to a name. -/
def ArtifactType.suffix (t : ArtifactType) : String := suffixOfTag t.tag

/-- The tag of a type without the word for an interface: what an interface of it
is called after. -/
def ArtifactType.abstractedTag : ArtifactType → String
  | .entityInterface => "entity"
  | .repositoryInterface => "repository"
  | .dtoInterface => "dto"
  | .serviceInterface => "service"
  | .factoryInterface => "factory"
  | t => t.tag

/-! ### Class and interface names -/

/-- The past tense of a word, by the plain rule: `d` after `e`, else `ed`. -/
def pastTense (word : String) : String :=
  if word.toList.getLast? == some 'e' then word ++ "d" else word ++ "ed"

/-- The class name.  An event is something that has happened. -/
def className (t : ArtifactType) (name : String) : String :=
  let stem := camelCase name
  (if t = .event then pastTense stem else stem) ++ namingSuffix t.tag

/-- The name of the interface. -/
def interfaceName (t : ArtifactType) (name : String) : String :=
  camelCase name ++ namingSuffix t.abstractedTag ++ "Interface"

/-! ### Namespaces -/

/-- The last parts of a type's namespace: tasks stand below what they carry out. -/
def ArtifactType.namespaceTail : ArtifactType → List String
  | .commandTask => ["Command", "Task"]
  | .commandHandlerTask => ["CommandHandler", "Task"]
  | t => [camelCase t.tag]

/-- The namespace of a type below its domain, part by part. -/
def ArtifactType.namespaceSegments (t : ArtifactType) : List String :=
  t.layer.directory :: t.namespaceTail

/-- The namespace of a type below its domain, written with slashes. -/
def ArtifactType.namespacePath (t : ArtifactType) : String :=
  "/".intercalate t.namespaceSegments

/-! ### Resolved names -/

/-- What a generator has to know about the identity of an artifact. -/
structure ResolvedNames where
  /-- The type under which the artifact is declared. -/
  artifactType : ArtifactType
  /-- The logical name the others are made from. -/
  name : String
  /-- The name of its class. -/
  className : String
  /-- The name of its interface. -/
  interfaceName : String
  deriving DecidableEq, Repr, Inhabited

namespace ResolvedNames

/-- The layer of the artifact. -/
def layer (r : ResolvedNames) : Layer := r.artifactType.layer

/-- The name of the file and of the declaration in it. -/
def emittedName (r : ResolvedNames) : String :=
  if r.artifactType.isInterface then r.interfaceName else r.className

end ResolvedNames

/-- The names of an artifact declared under one type and called after another. -/
def resolveAs (declared naming : ArtifactType) (name : String) : ResolvedNames where
  artifactType := declared
  name := name
  className := Scaffold.className naming name
  interfaceName := Scaffold.interfaceName naming name

/-- The names of an artifact. -/
def resolve (t : ArtifactType) (name : String) : ResolvedNames := resolveAs t t name

end Scaffold
