import Scaffold.ArtifactType
import Scaffold.Dict
import Scaffold.Scalar

/-!
# Specs of artifacts

What is declared about one artifact.  Which parts are filled depends on its
type, so a spec is a record of optional parts and the default says nothing.

The specs of a domain are kept in sections, first by type and then by name.  A type may be
absent or have a section without entries; most questions do not tell the two apart.

## Main definitions

* `Argument` — what a constructor or a method takes.
* `EventOutcome`, `Method`, `Product` — the parts of a spec.
* `Spec`, `Section` — a spec, and the specs of one type by name.
* `Spec.valueObjectReferences`, `Spec.artifactReferences` — what a spec relies on.
* `Sections`, `Sections.ofType`, `Sections.find?` — the specs of a domain, and questions
  about them.
* `Sections.modify`, `Sections.register` — changes of one section.
-/

namespace Scaffold

/-- A name that may be used as a value object without being declared. -/
def isReservedIdentity (name : String) : Bool := name == "uuid" || name == "process_uuid"

/-! ### Arguments -/

/-- One argument of a constructor or a method. -/
inductive Argument where
  /-- A declared value object, or a reserved identity. -/
  | valueObject (name : String)
  /-- Another artifact of the domain, or its interface. -/
  | artifact (name : String) (type : ArtifactType) (interface : Bool)
  /-- A named value of a scalar type. -/
  | scalar (name : String) (scalar : Scalar)
  /-- A type outside the generated sources. -/
  | external (typeName : String)
  deriving DecidableEq, Repr, Inhabited

/-- What stands behind the last backslash, slash or colon. -/
def lastSegment (typeName : String) : String :=
  .ofList (typeName.toList.reverse.takeWhile fun c => c != '\\' && c != '/' && c != ':').reverse

namespace Argument

/-- The logical name of an argument; an external type goes by its last part. -/
def name : Argument → String
  | valueObject name | artifact name _ _ | scalar name _ => name
  | external typeName => lastSegment typeName

/-- The value object an argument refers to. -/
def valueObjectName? : Argument → Option String
  | valueObject name => some name
  | _ => none

/-- The artifact an argument refers to. -/
def artifactReference? : Argument → Option (String × ArtifactType)
  | artifact name type _ => some (name, type)
  | _ => none

end Argument

/-! ### Parts of a spec -/

/-- What a command declares about one of its events. -/
inductive EventOutcome where
  /-- The event carries these arguments. -/
  | args (args : List Argument)
  /-- The event sets off the named command. -/
  | next (command : String)
  /-- The event ends the process, or does not. -/
  | terminal (ends : Bool)
  deriving DecidableEq, Repr, Inhabited

/-- A method that an artifact offers. -/
structure Method where
  /-- What the method takes. -/
  args : List Argument := []
  /-- The type it returns, if one is given. -/
  returns : Option String := none
  deriving DecidableEq, Repr, Inhabited

/-- An artifact that a factory builds. -/
structure Product where
  /-- The logical name of the artifact. -/
  name : String
  /-- The type of the artifact. -/
  type : ArtifactType
  deriving DecidableEq, Repr, Inhabited

/-- What is declared about one artifact. -/
structure Spec where
  /-- What the constructor takes. -/
  args : List Argument := []
  /-- The entity the artifact is bound to. -/
  entity : Option String := none
  /-- The semantic kind of a value object. -/
  kind : Option String := none
  /-- The events of a command. -/
  events : Dict String EventOutcome := ∅
  /-- The methods of the artifact. -/
  methods : Dict String Method := ∅
  /-- What a factory builds, in the order of the create methods. -/
  products : List Product := []
  /-- The concrete repository that a repository interface stands for. -/
  repository : Option ArtifactType := none
  /-- A repository without this has no interface in the domain layer. -/
  repositoryInterface : Bool := true
  /-- The command an event sets off. -/
  nextCommand : Option String := none
  /-- The event ends its process. -/
  terminal : Bool := false
  /-- The type that is returned. -/
  returns : Option String := none
  deriving DecidableEq, Repr

instance : Inhabited Spec := ⟨{}⟩

/-- The specs of one type, by name. -/
abbrev Section := Dict String Spec

namespace Spec

/-- A product is listed once, however often it is added. -/
def addProduct (s : Spec) (p : Product) : Spec :=
  if p ∈ s.products then s else { s with products := s.products ++ [p] }

/-- The arguments that an outcome spells out. -/
def outcomeArgs : EventOutcome → List Argument
  | .args args => args
  | _ => []

/-- All arguments of a spec: of the constructor, of the events, of the methods. -/
def allArgs (s : Spec) : List Argument :=
  s.args ++ s.events.values.flatMap outcomeArgs ++ s.methods.values.flatMap (·.args)

/-- The value objects a spec refers to. -/
def valueObjectReferences (s : Spec) : List String := s.allArgs.filterMap (·.valueObjectName?)

/-- The artifacts a spec refers to. -/
def artifactReferences (s : Spec) : List (String × ArtifactType) :=
  s.allArgs.filterMap (·.artifactReference?)

end Spec

/-! ### Sections by type -/

/-- The sections of a domain, by type. -/
abbrev Sections := Dict ArtifactType Section

namespace Sections

/-- The section of a type, empty when there is none. -/
def ofType (s : Sections) (t : ArtifactType) : Section := (Dict.get? s t).getD ∅

/-- The entries of a section, by name. -/
def entriesAt (s : Sections) (t : ArtifactType) : List (String × Spec) := (s.ofType t).entries

/-- The spec of an artifact. -/
def find? (s : Sections) (t : ArtifactType) (name : String) : Option Spec := (s.ofType t).get? name

/-- There is a spec under this type and name. -/
def has (s : Sections) (t : ArtifactType) (name : String) : Bool := (s.find? t name).isSome

/-- Change the section of a type. -/
def modify (s : Sections) (t : ArtifactType) (f : Section → Section) : Sections :=
  Dict.insert s t (f (s.ofType t))

/-- Put a spec where none stands. -/
def register (s : Sections) (t : ArtifactType) (name : String) (spec : Spec) : Sections :=
  s.modify t (·.insertNew name spec)

/-- Change the spec under a name, the default spec where none stands. -/
def update (s : Sections) (t : ArtifactType) (name : String) (f : Option Spec → Spec) :
    Sections :=
  s.modify t fun entries => entries.insert name (f (entries.get? name))

@[simp] theorem ofType_modify_self (s : Sections) (t : ArtifactType) (f : Section → Section) :
    (s.modify t f).ofType t = f (s.ofType t) := by simp [modify, ofType]

theorem ofType_modify_of_ne {t u : ArtifactType} (h : t ≠ u) (s : Sections)
    (f : Section → Section) : (s.modify t f).ofType u = s.ofType u := by
  simp [modify, ofType, Dict.get?_insert_of_ne h]

end Sections

end Scaffold
