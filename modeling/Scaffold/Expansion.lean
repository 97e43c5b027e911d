import Scaffold.Blueprint
import Scaffold.Expansion.Additions

/-!
# Expansion

From what an author wrote about a domain to its blueprint: the domain is
validated and read, what was left out is derived, what the declarations bring is
added, obligations are checked, and the result is laid out by layers.

Obligations are what must hold of a declaration before anything is generated from it:
kinds are known, commands are bound to entities, and whatever is named is declared.  They
stand in a list, and the first that is not met is the fault.

They fall into three groups.  Most are about the declaration alone.  Those of
repositories also cover the task repositories that commands bring with them.  And
the artifacts an author names as arguments may be ones that are only brought, so
these are looked up when everything is there.

## Main definitions

* `Obligation`, `Obligation.check` — an obligation and its fault.
* `Declaration.obligations`, `Sections.repositoryObligations`,
  `Declaration.artifactObligations` — the three groups.
* `Declaration.merge` — additions and obligations.
* `Domain.expand`, `Schema.expand` — the whole way, for one domain and for all.
-/

namespace Scaffold

/-! ### Obligations -/

/-- Something that must hold of a declaration. -/
inductive Obligation where
  /-- The word is a kind of value objects. -/
  | knownKind (word : String)
  /-- The command is bound to an entity. -/
  | bound (command : String) (entity : Option String)
  /-- The name is declared. -/
  | declared (reference : Reference)
  deriving DecidableEq, Repr

/-- Hold an obligation against what is known to be declared. -/
def Obligation.check (domain : String) (isDeclared : ArtifactType → String → Bool) :
    Obligation → Except ExpandFault Unit
  | knownKind word =>
    match ValueKind.ofTag word with
    | .ok _ => .ok ()
    | .error unknown => .error (.word unknown)
  | bound command entity =>
    if entity.isSome then .ok () else .error (.spec ⟨.command, command, .noEntity⟩)
  | declared r =>
    if isDeclared r.type r.name then .ok () else .error (.unresolved domain r)

/-- Hold obligations, the first of which that is not met is the fault. -/
def checkAll (domain : String) (isDeclared : ArtifactType → String → Bool)
    (obligations : List Obligation) : Except ExpandFault Unit :=
  obligations.forM (Obligation.check domain isDeclared)

/-! ### What a spec must meet -/

/-- Every value object that a spec refers to is declared. -/
def Spec.valueObjectObligations (spec : Spec) (place : String) : List Obligation :=
  spec.valueObjectReferences.map fun name => .declared ⟨name, .valueObject, place⟩

/-- The entity a spec is bound to, if any, is declared. -/
def Spec.entityObligations (spec : Spec) (place : String) : List Obligation :=
  spec.entity.toList.map fun entity => .declared ⟨entity, .entity, place⟩

/-- Every artifact that a spec refers to is declared. -/
def Spec.artifactObligations (spec : Spec) (place : String) : List Obligation :=
  spec.artifactReferences.map fun (name, type) => .declared ⟨name, type, place⟩

/-- The place an artifact has in messages. -/
def placeOf (t : ArtifactType) (name : String) : String := t.tag ++ "." ++ name

namespace Declaration

/-- What counts as declared for value objects and entities: what the declaration
has, and the reserved identities. -/
def knows (d : Declaration) (t : ArtifactType) (name : String) : Bool :=
  d.has t name || (t == .valueObject && isReservedIdentity name)

/-- The command that an outcome names is declared. -/
def outcomeObligations (command event : String) : EventOutcome → List Obligation
  | .next next => [.declared ⟨next, .command, placeOf .command command ++ ".event." ++ event⟩]
  | _ => []

/-- A command is bound to a declared entity, and what it names is declared. -/
def commandObligations (name : String) (command : Spec) : List Obligation :=
  .bound name command.entity :: (command.entityObligations (placeOf .command name) ++
    command.valueObjectObligations (placeOf .command name) ++
    command.events.entries.flatMap fun (event, outcome) => outcomeObligations name event outcome)

/-- What must hold of a declaration by itself. -/
def obligations (d : Declaration) : List Obligation :=
  ((d.entries .valueObject).flatMap fun (_, spec) => spec.kind.toList.map .knownKind) ++
  ((d.entries .entity).flatMap fun (name, spec) =>
    spec.valueObjectObligations (placeOf .entity name)) ++
  ((d.entries .readModel).flatMap fun (name, spec) =>
    spec.entityObligations (placeOf .readModel name) ++
      spec.valueObjectObligations (placeOf .readModel name)) ++
  ((d.entries .command).flatMap fun (name, spec) => commandObligations name spec) ++
  ((d.entries .commandHandler).flatMap fun (name, spec) =>
    spec.entityObligations (placeOf .commandHandler name)) ++
  ((d.entries .queryHandler).flatMap fun (name, spec) =>
    spec.entityObligations (placeOf .queryHandler name)) ++
  ((d.entries .migrations).flatMap fun (name, spec) =>
    spec.valueObjectObligations (placeOf .migrations name))

/-- What the author names as an argument is there in the end.  Derived sections
name fixed collaborators and are not asked. -/
def artifactObligations (d : Declaration) : List Obligation :=
  (d.sections.entries.filter fun (t, _) => t ∉ d.derived).flatMap fun (t, entries) =>
    entries.entries.flatMap fun (name, spec) => spec.artifactObligations (placeOf t name)

end Declaration

/-- The entity of every concrete repository is declared. -/
def Sections.repositoryObligations (s : Sections) : List Obligation :=
  ArtifactType.repositories.flatMap fun concrete =>
    (s.entriesAt concrete).flatMap fun (name, spec) =>
      spec.entityObligations (placeOf concrete name)

/-! ### The whole way -/

/-- The sections with everything that declarations bring, if all obligations are
met.  The obligations of a declaration by itself come first, then those of its
repositories, then the artifacts its arguments name. -/
def Declaration.merge (d : Declaration) : Except ExpandFault Sections := do
  checkAll d.name d.knows d.obligations
  let assembled := d.assemble
  checkAll d.name d.knows assembled.repositoryObligations
  let merged := assembled.addInterfaces
  checkAll d.name merged.has d.artifactObligations
  return merged

/-- The blueprint of a domain. -/
def Domain.expand (d : Domain) : Except ExpandFault Blueprint := do
  d.validate
  let declaration ← Declaration.ofDomain d
  let sections ← declaration.withDefaults.merge
  return .ofSections d.name sections

/-- The domains that a run is about: all of them, or those of one name. -/
def Schema.selected (s : Schema) : Option String → List Domain
  | none => s.domains
  | some name => s.domains.filter (·.name == name)

/-- The blueprints of the selected domains. -/
def Schema.expand (s : Schema) (only : Option String) : Except ExpandFault (List Blueprint) :=
  (s.selected only).mapM Domain.expand

end Scaffold
