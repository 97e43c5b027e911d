import Scaffold.Schema
import Scaffold.Spec
import Scaffold.Spec.Reader
import Scaffold.Fault

/-!
# Declarations

What the author declared about a domain: the sections of its schema read into
specs.  Sections that may be left out are present without entries.

The repositories may be declared each in a section of its own, or together below
the section `repository`, by short words for their types; every other key there
declares a repository without a special type.  A type that is declared in
several places has the entries of all of them, and of two entries with one name
the later in the order of keys counts.

## Main definitions

* `Declaration` — the sections of a domain, and which of them were derived.
* `Domain.validate` — what a domain must have before it is read.
* `Declaration.ofDomain` — the reading.
-/

namespace Scaffold

/-- The declared sections of a domain. -/
structure Declaration where
  /-- The name of the domain. -/
  name : String
  /-- The sections by type. -/
  sections : Sections := ∅
  /-- The types whose sections were not declared but derived. -/
  derived : List ArtifactType := []
  deriving DecidableEq, Repr

/-- Sections that every domain must declare. -/
def requiredSections : List ArtifactType := [.entity, .valueObject, .command]

/-- Sections that are empty when they are left out. -/
def optionalSections : List ArtifactType :=
  [.queryHandler, .commandHandler, .saga, .projector, .dto, .service, .exception, .migrations,
    .rpc, .cli, .rest]

/-- The name of a domain must be valid and the required sections present. -/
def Domain.validate (d : Domain) : Except ExpandFault Unit := do
  unless Name.isValid d.name do throw (.badDomainName d.name)
  requiredSections.forM fun t =>
    if d.sections.contains t.tag then .ok () else .error (.missingSection d.name t)

namespace Declaration

/-- A fault of a spec as a fault of the expansion. -/
def liftSpec {α : Type} : Except SpecFault α → Except ExpandFault α
  | .ok a => .ok a
  | .error fault => .error (.spec fault)

/-- One key below the section `repository`. -/
def repositoryPart (key : String) (node : Node) : Except SpecFault (ArtifactType × Section) :=
  match ArtifactType.ofRepositoryKind? key with
  | some t => do return (t, ← Section.ofNode t node)
  | none => do
    checkName .repository key
    return (.repository, .ofList [(key, ← Spec.ofNode .repository key node)])

/-- What the section `repository` declares, by type. -/
def repositoryParts : Node → Except SpecFault (List (ArtifactType × Section))
  | .null => .ok []
  | .map entries => entries.mapM fun (key, node) => repositoryPart key node
  | other => refuse .repository "" (.sectionNotMap other.kind)

/-- What a section declares, by type. -/
def sectionParts (tag : String) (node : Node) :
    Except ExpandFault (List (ArtifactType × Section)) :=
  if tag == "repository" then liftSpec (repositoryParts node)
  else match ArtifactType.ofTag tag with
    | .error unknown => .error (.word unknown)
    | .ok t => liftSpec do return [(t, ← Section.ofNode t node)]

/-- Add entries to the section of a type. -/
def addPart (s : Sections) (part : ArtifactType × Section) : Sections :=
  s.modify part.1 (·.union part.2)

/-- All parts together, the optional sections present. -/
def assembleParts (parts : List (ArtifactType × Section)) : Sections :=
  (parts ++ optionalSections.map fun t => (t, ∅)).foldl addPart ∅

/-- Read the sections of a domain. -/
def ofDomain (d : Domain) : Except ExpandFault Declaration := do
  let parts ← d.sections.entries.mapM fun (tag, node) => sectionParts tag node
  return { name := d.name, sections := assembleParts parts.flatten }

/-! ### Questions -/

/-- The entries of a type, by name. -/
def entries (d : Declaration) (t : ArtifactType) : List (String × Spec) := d.sections.entriesAt t

/-- An artifact is declared. -/
def has (d : Declaration) (t : ArtifactType) (name : String) : Bool := d.sections.has t name

/-- Nothing is declared of this type. -/
def lacks (d : Declaration) (t : ArtifactType) : Bool := (d.sections.ofType t).isEmpty

end Declaration

end Scaffold
