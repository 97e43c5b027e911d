import Scaffold.Spec
import Scaffold.Node

/-!
# Specs as node trees

The form in which other programs read specs.  A part that says nothing (an empty
list, an absent name, a flag at its default) is left out.
-/

namespace Scaffold

/-- An argument says which kind it is, and then its own parts. -/
def Argument.toNode : Argument → Node
  | valueObject name => .map [("kind", .string "value_object"), ("name", .string name)]
  | artifact name type interface =>
    .map [("artifact", .string type.tag), ("interface", .bool interface),
      ("kind", .string "artifact"), ("name", .string name)]
  | scalar name type =>
    .map [("kind", .string "scalar"), ("name", .string name), ("scalar", .string type.tag)]
  | external typeName => .map [("kind", .string "external"), ("type_name", .string typeName)]

/-- An outcome is a list, a text or a truth value; which one tells what it is. -/
def EventOutcome.toNode : EventOutcome → Node
  | args items => .list (items.map Argument.toNode)
  | next command => .string command
  | terminal ends => .bool ends

/-- An entry of a view unless the list is empty. -/
def listEntry (key : String) (items : List Node) : List (String × Node) :=
  if items.isEmpty then [] else [(key, .list items)]

/-- An entry of a view if the name is given. -/
def textEntry (key : String) : Option String → List (String × Node)
  | some text => [(key, .string text)]
  | none => []

/-- An entry of a view unless the dictionary is empty. -/
def dictEntry (key : String) (d : Dict String Node) : List (String × Node) :=
  if d.isEmpty then [] else [(key, .ofDict d)]

/-- An entry of a view for a flag that is not at its default. -/
def flagEntry (key : String) (default value : Bool) : List (String × Node) :=
  if value == default then [] else [(key, .bool value)]

/-- The view of a method. -/
def Method.toNode (m : Method) : Node :=
  .map (listEntry "args" (m.args.map Argument.toNode) ++ textEntry "returns" m.returns)

/-- The view of a product. -/
def Product.toNode (p : Product) : Node :=
  .map [("name", .string p.name), ("type", .string p.type.tag)]

/-- The view of a spec, by ascending key. -/
def Spec.toNode (s : Spec) : Node :=
  .map (listEntry "args" (s.args.map Argument.toNode)
    ++ textEntry "entity" s.entity
    ++ dictEntry "events" (s.events.mapValues fun _ => EventOutcome.toNode)
    ++ textEntry "kind" s.kind
    ++ dictEntry "methods" (s.methods.mapValues fun _ => Method.toNode)
    ++ textEntry "next_command" s.nextCommand
    ++ listEntry "products" (s.products.map Product.toNode)
    ++ textEntry "repository" (s.repository.map ArtifactType.tag)
    ++ flagEntry "repository_interface" true s.repositoryInterface
    ++ textEntry "returns" s.returns
    ++ flagEntry "terminal" false s.terminal)

/-- The view of a section. -/
def Section.toNode (s : Section) : Node := .ofDict (s.mapValues fun _ => Spec.toNode)

end Scaffold
