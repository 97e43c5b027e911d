import Scaffold.Node

/-!
# Schemas

A schema is a map of domains, each a map of sections.  What a section holds is
left open here.

## Main definitions

* `Domain` — the name of a domain and the nodes of its sections.
* `Schema.ofNode` — the domains of a node tree.
-/

namespace Scaffold

/-- What the author wrote about one domain. -/
structure Domain where
  /-- The name of the domain. -/
  name : String
  /-- The node of every section, by the tag of the section. -/
  sections : Dict String Node
  deriving Repr, Inhabited

/-- The domains of a schema, by name. -/
structure Schema where
  /-- The domains, in the order of their names. -/
  domains : List Domain
  deriving Repr, Inhabited

/-- A node tree that is not a map of maps. -/
inductive ShapeFault where
  /-- The tree as a whole is no map. -/
  | rootNotMap (found : String)
  /-- What stands under a domain's name is no map. -/
  | domainNotMap (domain found : String)
  deriving DecidableEq, Repr

/-- The text of the fault. -/
def ShapeFault.message : ShapeFault → String
  | rootNotMap found => s!"schema root must be a map of domain names, found {found}"
  | domainNotMap domain found =>
    s!"domain '{domain}' must be a map of artifact sections, found {found}"

namespace Schema

/-- One domain of the tree. -/
def readDomain (name : String) : Node → Except ShapeFault Domain
  | .map sections => .ok ⟨name, .ofList sections⟩
  | other => .error (.domainNotMap name other.kind)

/-- The domains of a node tree. -/
def ofNode : Node → Except ShapeFault Schema
  | .map entries => do return ⟨← entries.mapM fun (name, node) => readDomain name node⟩
  | other => .error (.rootNotMap other.kind)

/-- The names of the domains. -/
def domainNames (s : Schema) : List String := s.domains.map (·.name)

end Schema

end Scaffold
