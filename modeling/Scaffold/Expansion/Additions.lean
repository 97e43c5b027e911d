import Scaffold.Declaration.Defaults

/-!
# Additions to a declaration

Each declaration brings others with it: an entity its interface, a command its
task, a method of the task repository and the events it emits, and most of them
a product of the factory of their family.  What a declaration brings is written
down as a list of additions, and the additions are carried out one by one on the
sections.

An addition never takes anything away from an entry the author wrote.  Entries
are registered only where none stands; a factory that the author declared gets
no products; and of two events with one name the first to come stays.

## Main definitions

* `Addition`, `Sections.add` — an addition, and what it does.
* `Declaration.additions` — what a declaration brings, in order.
* `Declaration.assemble` — the sections with all of it.
* `Sections.addInterfaces` — the interfaces of the repositories, which come last.
-/

namespace Scaffold

/-- One thing that a declaration brings with it. -/
inductive Addition where
  /-- A value object takes on the kind of its reserved name. -/
  | settled (name : String) (spec : Spec)
  /-- An artifact, where none is declared. -/
  | variant (type : ArtifactType) (name : String) (spec : Spec)
  /-- A product of the factory of a family, and of its interface. -/
  | product (family : String) (product : Product)
  /-- A method of the task repository of an entity. -/
  | task (entity command : String) (method : Method)
  deriving DecidableEq, Repr

/-- The kind of an identity. -/
def identityKind : String := ValueKind.identityUuid.tag

/-- A value object with a reserved name and no kind is an identity. -/
def settleKind (name : String) (spec : Spec) : Spec :=
  if spec.kind.isNone && isReservedIdentity name then { spec with kind := some identityKind }
  else spec

/-- The task repository of an entity with a method, unless it has one of the name. -/
def addTask (entity command : String) (method : Method) (repository : Option Spec) : Spec :=
  let spec := repository.getD { entity := some entity }
  { spec with methods := spec.methods.insertNew command method }

/-- A factory with one more product. -/
def withProduct (product : Product) (factory : Option Spec) : Spec :=
  (factory.getD {}).addProduct product

/-- Carry out an addition. -/
def Sections.add (s : Sections) : Addition → Sections
  | .settled name spec => s.update .valueObject name fun _ => spec
  | .variant type name spec => s.register type name spec
  | .product family product =>
    (s.update .factory family (withProduct product)).update .factoryInterface family
      (withProduct product)
  | .task entity command method => s.update .repositoryTask entity (addTask entity command method)

namespace Declaration

/-! ### What each declaration brings -/

/-- A product of a family's factory, unless the author declared that factory. -/
def productOf (d : Declaration) (family name : String) (type : ArtifactType) : List Addition :=
  if d.has .factory family then [] else [.product family ⟨name, type⟩]

/-- A value object brings a product. -/
def valueObjectAdditions (d : Declaration) (name : String) (spec : Spec) : List Addition :=
  .settled name (settleKind name spec) :: d.productOf "value_object" name .valueObject

/-- An entity brings its interface and a product. -/
def entityAdditions (d : Declaration) (name : String) (spec : Spec) : List Addition :=
  .variant .entityInterface name spec :: d.productOf "entity" name .entity

/-- A service brings its interface and a product. -/
def serviceAdditions (d : Declaration) (name : String) (spec : Spec) : List Addition :=
  .variant .serviceInterface name spec :: d.productOf "service" name .service

/-- The event that a command emits: bound to the command's entity, with the
arguments of the outcome or else those of the command. -/
def eventSpec (entity : String) (command : Spec) : EventOutcome → Spec
  | .args args => { args, entity := some entity }
  | .next next => { args := command.args, entity := some entity, nextCommand := some next }
  | .terminal ends => { args := command.args, entity := some entity, terminal := ends }

/-- An event of a command brings itself and a product. -/
def eventAdditions (d : Declaration) (entity : String) (command : Spec) (event : String)
    (outcome : EventOutcome) : List Addition :=
  .variant .event event (eventSpec entity command outcome) :: d.productOf "event" event .event

/-- A command brings its task, a method of the task repository of its entity, two
products and its events. -/
def commandAdditions (d : Declaration) (name : String) (command : Spec) : List Addition :=
  match command.entity with
  | none => []
  | some entity =>
    .variant .commandTask name command :: .task entity name { args := command.args } ::
      (d.productOf "command" name .command ++ d.productOf "command" name .commandTask ++
        command.events.entries.flatMap fun (event, outcome) =>
          d.eventAdditions entity command event outcome)

/-- What all declarations bring, in the order of the types and the names. -/
def additions (d : Declaration) : List Addition :=
  ((d.entries .valueObject).flatMap fun (name, spec) => d.valueObjectAdditions name spec) ++
  ((d.entries .entity).flatMap fun (name, spec) => d.entityAdditions name spec) ++
  ((d.entries .readModel).flatMap fun (name, _) => d.productOf "read_model" name .readModel) ++
  ((d.entries .service).flatMap fun (name, spec) => d.serviceAdditions name spec) ++
  ((d.entries .command).flatMap fun (name, spec) => d.commandAdditions name spec) ++
  ((d.entries .commandHandler).map fun (name, spec) => .variant .commandHandlerTask name spec) ++
  ((d.entries .dto).map fun (name, spec) => .variant .dtoInterface name spec)

/-- The sections that hold something. -/
def filledSections (d : Declaration) : Sections :=
  Dict.filter (fun _ entries => !entries.isEmpty) d.sections

/-- The declared sections with all additions. -/
def assemble (d : Declaration) : Sections := d.additions.foldl Sections.add d.filledSections

end Declaration

/-! ### Interfaces of repositories -/

/-- The name under which the interface of a repository is kept: the tag of the
concrete type, a dot and the name of the repository. -/
def repositoryInterfaceKey (concrete : ArtifactType) (name : String) : String :=
  concrete.tag ++ "." ++ name

/-- The interface of a repository: what the repository takes and offers, bound to
its entity, or to the entity of its own name. -/
def repositoryInterfaceSpec (concrete : ArtifactType) (name : String) (spec : Spec) : Spec where
  args := spec.args
  methods := spec.methods
  entity := some (spec.entity.getD name)
  repository := some concrete

namespace Sections

/-- Each concrete repository has an interface unless it is told to have none. -/
def interfaceAdditions (s : Sections) : List Addition :=
  ArtifactType.repositories.flatMap fun concrete =>
    ((s.entriesAt concrete).filter fun (_, spec) => spec.repositoryInterface).map
      fun (name, spec) =>
        .variant .repositoryInterface (repositoryInterfaceKey concrete name)
          (repositoryInterfaceSpec concrete name spec)

/-- The sections with the interfaces of their repositories. -/
def addInterfaces (s : Sections) : Sections := s.interfaceAdditions.foldl add s

end Sections

end Scaffold
