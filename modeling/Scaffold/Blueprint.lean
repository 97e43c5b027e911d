import Scaffold.Expansion.Additions
import Scaffold.Naming
import Scaffold.Spec.View

/-!
# Blueprints

The blueprint of a domain holds everything that is generated for it: by layer,
by type and by name.  A section without entries is not kept, so a blueprint
holds no empty section and no empty layer.

## Main definitions

* `Blueprint`, `Blueprint.insertSection` — the map, and how it is filled.
* `Blueprint.get?`, `Blueprint.getIn?`, `Blueprint.section?` — its questions.
* `Leaf`, `Blueprint.leaves` — its entries, in order.
* `Leaf.names` — the names an entry resolves to.
-/

namespace Scaffold

/-- Everything that is generated for a domain. -/
structure Blueprint where
  /-- The name of the domain. -/
  domain : String
  /-- The sections of every layer. -/
  layers : Dict Layer Sections := ∅
  deriving DecidableEq, Repr, Inhabited

/-- One entry of a blueprint. -/
structure Leaf where
  /-- The layer under which the entry is kept. -/
  layer : Layer
  /-- The type of the artifact. -/
  type : ArtifactType
  /-- The name under which the entry is kept. -/
  name : String
  /-- What is declared about the artifact. -/
  spec : Spec
  deriving DecidableEq, Repr, Inhabited

namespace Leaf

/-- The place of a leaf: layer, type and name with dots between them. -/
def path (l : Leaf) : String := l.layer.tag ++ "." ++ l.type.tag ++ "." ++ l.name

/-- What follows the first dot. -/
def afterDot? (name : String) : Option String :=
  match name.toList.dropWhile (· != '.') with
  | [] => none
  | _ :: rest => some (.ofList rest)

/-- The name after which the interface of a repository is called: its entity, or
what its key says behind the tag. -/
def abstractedName (l : Leaf) : String :=
  (l.spec.entity.orElse fun _ => afterDot? l.name).getD l.name

/-- The names of a leaf.  The interface of a repository is called after the
concrete repository it stands for. -/
def names (l : Leaf) : ResolvedNames :=
  if l.type = .repositoryInterface then
    resolveAs l.type (l.spec.repository.getD .repository) l.abstractedName
  else resolve l.type l.name

end Leaf

namespace Blueprint

/-- The blueprint without entries. -/
def new (domain : String) : Blueprint := { domain }

/-- Put a section under the layer of its type, over what stands there; a section
without entries changes nothing. -/
def insertSection (b : Blueprint) (t : ArtifactType) (entries : Section) : Blueprint :=
  if entries.isEmpty then b
  else { b with
    layers := b.layers.insert t.layer (((b.layers.get? t.layer).getD ∅).insert t entries) }

/-- The sections of a layer. -/
def layer? (b : Blueprint) (l : Layer) : Option Sections := b.layers.get? l

/-- The section of a type. -/
def section? (b : Blueprint) (t : ArtifactType) : Option Section :=
  (b.layer? t.layer).bind fun sections => Dict.get? sections t

/-- The spec of an artifact. -/
def get? (b : Blueprint) (t : ArtifactType) (name : String) : Option Spec :=
  (b.section? t).bind (·.get? name)

/-- The spec of an artifact, if its type belongs to the layer. -/
def getIn? (b : Blueprint) (l : Layer) (t : ArtifactType) (name : String) : Option Spec :=
  ((b.layer? l).bind fun sections => Dict.get? sections t).bind (·.get? name)

/-- There is an artifact of this type and name. -/
def has (b : Blueprint) (t : ArtifactType) (name : String) : Bool := (b.get? t name).isSome

/-- The interface of a repository. -/
def repositoryInterface? (b : Blueprint) (concrete : ArtifactType) (name : String) :
    Option Spec :=
  b.get? .repositoryInterface (repositoryInterfaceKey concrete name)

/-- The factory of a family builds something of this name. -/
def hasProduct (b : Blueprint) (t : ArtifactType) (family name : String) : Bool :=
  match b.get? t family with
  | some spec => spec.products.any (·.name == name)
  | none => false

/-- The entries of a section as leaves. -/
def sectionLeaves (l : Layer) (t : ArtifactType) (entries : Section) : List Leaf :=
  entries.entries.map fun (name, spec) => ⟨l, t, name, spec⟩

/-- All entries: by layer, by type, by name. -/
def leaves (b : Blueprint) : List Leaf :=
  b.layers.entries.flatMap fun (l, sections) =>
    sections.entries.flatMap fun (t, entries) => sectionLeaves l t entries

/-- The number of entries. -/
def size (b : Blueprint) : Nat := b.leaves.length

/-- There are no entries. -/
def isEmpty (b : Blueprint) : Bool := b.layers.isEmpty

/-- The places of all entries. -/
def paths (b : Blueprint) : List String := b.leaves.map (·.path)

/-! ### Filling -/

/-- Put every section of a layer into a blueprint. -/
def insertLayer (s : Sections) (b : Blueprint) (l : Layer) : Blueprint :=
  s.entries.foldl (fun b (t, entries) => if t.layer = l then b.insertSection t entries else b) b

/-- The blueprint of sections. -/
def ofSections (domain : String) (s : Sections) : Blueprint :=
  Layer.all.foldl (insertLayer s) (new domain)

/-! ### View -/

/-- A dictionary with tags for keys as a node. -/
def tagged {κ α : Type} [Ord κ] (tag : κ → String) (view : α → Node) (d : Dict κ α) : Node :=
  .ofEntries (d.entries.map fun (k, v) => (tag k, view v))

/-- The view of the sections of a layer. -/
def sectionsToNode (s : Sections) : Node := tagged ArtifactType.tag Section.toNode s

/-- The view of a blueprint, without the name of its domain. -/
def toNode (b : Blueprint) : Node := tagged Layer.tag sectionsToNode b.layers

end Blueprint

end Scaffold
