import Scaffold.Spec
import Scaffold.Fault
import Scaffold.Name
import Scaffold.Node

/-!
# Specs from node trees

Which nodes declare what:

* an entity is a list of method names, or a map;
* a value object is nothing, the word for its kind, or a map;
* anything else is nothing, a list of arguments, or a map.

A map may hold `args`, `entity`, `kind` or `type`, `methods`, `event` or
`events`, `returns` and `repository_interface`; other keys are passed over.
Where two keys say the same thing the later one in the order of keys counts.

## Main definitions

* `Argument.ofNode`, `Method.ofNode`, `EventOutcome.ofNode` — the parts.
* `Spec.ofNode` — one spec.
* `Section.ofNode` — the specs of one type.
-/

namespace Scaffold

/-- Fail at an artifact. -/
def refuse {α : Type} (owner : ArtifactType) (name : String) (flaw : SpecFlaw) :
    Except SpecFault α :=
  .error ⟨owner, name, flaw⟩

/-- Only a valid name may be declared. -/
def checkName (owner : ArtifactType) (name : String) : Except SpecFault Unit :=
  if Name.isValid name then .ok () else refuse owner name .badName

/-- The text a key must hold. -/
def expectString (owner : ArtifactType) (name key : String) : Node → Except SpecFault String
  | .string s => .ok s
  | other => refuse owner name (.wrongShape key .string other.kind)

/-- The list a key must hold. -/
def expectList (owner : ArtifactType) (name key : String) : Node → Except SpecFault (List Node)
  | .list items => .ok items
  | other => refuse owner name (.wrongShape key .list other.kind)

/-! ### Arguments -/

/-- The two characters stand side by side somewhere. -/
def hasDoubleColon : List Char → Bool
  | ':' :: ':' :: _ => true
  | _ :: rest => hasDoubleColon rest
  | [] => false

/-- A text names a type outside the sources when it holds a backslash or two
colons in a row. -/
def isExternalName (s : String) : Bool := s.toList.contains '\\' || hasDoubleColon s.toList

/-- The argument that a map with a single entry declares: a name and its scalar. -/
def scalarArgument (owner : ArtifactType) (name argument : String) (value : Node) :
    Except SpecFault Argument :=
  match value with
  | .string word =>
    match Scalar.ofTag? word with
    | some s => .ok (.scalar argument s)
    | none => refuse owner name (.argumentNotScalar argument)
  | _ => refuse owner name (.argumentNotScalar argument)

/-- The argument that a map with a name and a type declares. -/
def artifactArgument (owner : ArtifactType) (name : String) (target type : Node)
    (interface : Bool) : Except SpecFault Argument := do
  let target ← expectString owner name "name" target
  let word ← expectString owner name "type" type
  match ArtifactType.ofTag word with
  | .ok t => .ok (.artifact target t interface)
  | .error unknown => refuse owner name (.argumentType target unknown)

/-- The interface is meant only where it is asked for. -/
def asksInterface : Option Node → Bool
  | some (.bool asked) => asked
  | _ => false

/-- One argument. -/
def Argument.ofNode (owner : ArtifactType) (name : String) : Node → Except SpecFault Argument
  | .string s => .ok (if isExternalName s then .external s else .valueObject s)
  | .map entries =>
    match Node.field? "type" entries, Node.field? "name" entries with
    | some type, some target =>
      artifactArgument owner name target type (asksInterface (Node.field? "interface" entries))
    | _, _ =>
      match entries with
      | [(argument, value)] => scalarArgument owner name argument value
      | _ => refuse owner name (.notAnArgument "map")
  | other => refuse owner name (.notAnArgument other.kind)

/-- A list of arguments. -/
def readArguments (owner : ArtifactType) (name : String) (items : List Node) :
    Except SpecFault (List Argument) :=
  items.mapM (Argument.ofNode owner name)

/-! ### Methods and events -/

/-- The name of a method in a list of names. -/
def methodName (owner : ArtifactType) (name : String) :
    Node → Except SpecFault (String × Method)
  | .string method => .ok (method, {})
  | other => refuse owner name (.methodNotNamed other.kind)

/-- Methods given by their names only. -/
def readMethodNames (owner : ArtifactType) (name : String) (items : List Node) :
    Except SpecFault (Dict String Method) := do
  return .ofList (← items.mapM (methodName owner name))

/-- What is declared about one method. -/
def Method.ofNode (owner : ArtifactType) (name method : String) : Node → Except SpecFault Method
  | .null => .ok {}
  | .list items => do return { args := ← readArguments owner name items }
  | .map entries => do
    let args ← match Node.field? "args" entries with
      | some node => do readArguments owner name (← expectList owner name "args" node)
      | none => .ok []
    let returns ← match Node.field? "returns" entries with
      | some node => do pure (some (← expectString owner name "returns" node))
      | none => .ok none
    return { args, returns }
  | other => refuse owner name (.notAMethod method other.kind)

/-- The methods of an artifact. -/
def readMethods (owner : ArtifactType) (name : String) :
    Node → Except SpecFault (Dict String Method)
  | .list items => readMethodNames owner name items
  | .map entries => do
    return .ofList (← entries.mapM fun (method, node) => do
      return (method, ← Method.ofNode owner name method node))
  | other => refuse owner name (.wrongShape "methods" .listOrMap other.kind)

/-- What is declared about one event. -/
def EventOutcome.ofNode (owner : ArtifactType) (name event : String) :
    Node → Except SpecFault EventOutcome
  | .null => .ok (.args [])
  | .list items => do return .args (← readArguments owner name items)
  | .string command => .ok (.next command)
  | .bool ends => .ok (.terminal ends)
  | other => refuse owner name (.notAnOutcome event other.kind)

/-- One event of an artifact; its name must be valid, because the event will be
an artifact of its own. -/
def readEvent (owner : ArtifactType) (name : String) (entry : String × Node) :
    Except SpecFault (String × EventOutcome) := do
  checkName .event entry.1
  return (entry.1, ← EventOutcome.ofNode owner name entry.1 entry.2)

/-- The events of an artifact. -/
def readEvents (owner : ArtifactType) (name : String) :
    Node → Except SpecFault (Dict String EventOutcome)
  | .map entries => do return .ofList (← entries.mapM (readEvent owner name))
  | other => refuse owner name (.wrongShape "event" .map other.kind)

/-! ### Specs -/

/-- The spec with what one key of its map says. -/
def Spec.withKey (owner : ArtifactType) (name : String) (spec : Spec) (key : String)
    (value : Node) : Except SpecFault Spec :=
  if key == "args" then do
    return { spec with args := ← readArguments owner name (← expectList owner name key value) }
  else if key == "entity" then do
    return { spec with entity := some (← expectString owner name key value) }
  else if key == "kind" || key == "type" then do
    return { spec with kind := some (← expectString owner name key value) }
  else if key == "returns" then do
    return { spec with returns := some (← expectString owner name key value) }
  else if key == "repository_interface" then
    match value with
    | .bool flag => .ok { spec with repositoryInterface := flag }
    | other => refuse owner name (.wrongShape key .boolean other.kind)
  else if key == "methods" then do
    return { spec with methods := ← readMethods owner name value }
  else if key == "event" || key == "events" then do
    return { spec with events := ← readEvents owner name value }
  else .ok spec

/-- The spec that a map declares, key by key. -/
def Spec.ofEntries (owner : ArtifactType) (name : String) (entries : List (String × Node)) :
    Except SpecFault Spec :=
  entries.foldlM (fun spec entry => spec.withKey owner name entry.1 entry.2) {}

/-- One spec. -/
def Spec.ofNode (owner : ArtifactType) (name : String) : Node → Except SpecFault Spec
  | .null => .ok {}
  | .list items =>
    if owner = .entity then do return { methods := ← readMethodNames owner name items }
    else do return { args := ← readArguments owner name items }
  | .map entries => Spec.ofEntries owner name entries
  | .string word =>
    if owner = .valueObject then .ok { kind := some word }
    else refuse owner name (.notASpec "string")
  | other => refuse owner name (.notASpec other.kind)

/-! ### Sections -/

/-- One entry of a section. -/
def readEntry (owner : ArtifactType) (entry : String × Node) :
    Except SpecFault (String × Spec) := do
  checkName owner entry.1
  return (entry.1, ← Spec.ofNode owner entry.1 entry.2)

/-- One value object that is declared by its name only. -/
def readValueObjectName : Node → Except SpecFault (String × Spec)
  | .string name => do
    checkName .valueObject name
    return (name, {})
  | other => refuse .valueObject "" (.valueObjectNotNamed other.kind)

/-- The specs of one type.  Value objects may be listed by their names. -/
def Section.ofNode (owner : ArtifactType) : Node → Except SpecFault Section
  | .null => .ok ∅
  | .map entries => do return .ofList (← entries.mapM (readEntry owner))
  | .list items =>
    if owner = .valueObject then do return .ofList (← items.mapM readValueObjectName)
    else refuse owner "" (.sectionNotMap "list")
  | other => refuse owner "" (.sectionNotMap other.kind)

end Scaffold
