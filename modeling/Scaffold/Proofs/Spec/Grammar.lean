import Mathlib.Data.List.Forall2
import Scaffold.Declaration

/-!
# The grammar of schemas

Which nodes denote what, said without a word on how they are read.  A relation for each
thing that is declared holds between a node and what the node denotes; a node that denotes
nothing is refused.

Maps are taken as the sets of entries that they are, since the entries of a map stand by
ascending key.  Two keys of a spec may say the same thing, and then the relation says which
one counts.

## Main definitions

* `Node.DenotesArgument`, `Node.DenotesMethod`, `Node.DenotesMethods`,
  `Node.DenotesOutcome`, `Node.DenotesEvents` — the parts of a spec.
* `Node.DenotesSpec`, `Node.DenotesSection` — specs, and the specs of one type.
* `Node.DenotesParts`, `Domain.Denotes` — what a section adds to a declaration, and all
  sections together.
-/

namespace Scaffold

namespace Node

variable {α : Type}

/-! ### Lists, maps and keys -/

/-- A list denotes what its items denote. -/
inductive DenotesList (P : Node → α → Prop) : Node → List α → Prop
  | items {items : List Node} {values : List α} (h : List.Forall₂ P items values) :
      DenotesList P (.list items) values

/-- A map denotes a dictionary with its keys. -/
inductive DenotesMap (P : String → Node → α → Prop) : Node → Dict String α → Prop
  | entries {entries : List (String × Node)} {d : Dict String α}
      (h : List.Forall₂ (fun e x => x.1 = e.1 ∧ P e.1 e.2 x.2) entries d.entries) :
      DenotesMap P (.map entries) d

/-- A key that may be left out has a value all the same. -/
inductive DenotesOptional (P : Node → α → Prop) (default : α) : Option Node → α → Prop
  | absent : DenotesOptional P default none default
  | present {node : Node} {value : α} (h : P node value) :
      DenotesOptional P default (some node) value

/-- A text gives a name. -/
inductive DenotesText : Node → Option String → Prop
  | text (s : String) : DenotesText (.string s) (some s)

/-- A truth value sets a flag. -/
inductive DenotesFlag : Node → Bool → Prop
  | flag (value : Bool) : DenotesFlag (.bool value) value

/-! ### Arguments -/

/-- The text names a type outside the sources: it holds a backslash, or two colons in a
row. -/
def NamesExternal (s : String) : Prop := '\\' ∈ s.toList ∨ [':', ':'] <:+: s.toList

/-- **What a node denotes as an argument.** -/
inductive DenotesArgument : Node → Argument → Prop
  | external {s : String} (h : NamesExternal s) : DenotesArgument (.string s) (.external s)
  | valueObject {s : String} (h : ¬NamesExternal s) :
      DenotesArgument (.string s) (.valueObject s)
  | artifact {entries : List (String × Node)} {name : String} {type : ArtifactType}
      {interface : Bool} (hname : field? "name" entries = some (.string name))
      (htype : field? "type" entries = some (.string type.tag))
      (hinterface : interface = true ↔ field? "interface" entries = some (.bool true)) :
      DenotesArgument (.map entries) (.artifact name type interface)
  | scalar (name : String) (scalar : Scalar) :
      DenotesArgument (.map [(name, .string scalar.tag)]) (.scalar name scalar)

/-- A list of arguments. -/
abbrev DenotesArguments : Node → List Argument → Prop := DenotesList DenotesArgument

/-! ### Methods and events -/

/-- What a node denotes under the name of a method. -/
inductive DenotesMethod : Node → Method → Prop
  | bare : DenotesMethod .null {}
  | args {items : List Node} {args : List Argument}
      (h : DenotesArguments (.list items) args) : DenotesMethod (.list items) { args }
  | full {entries : List (String × Node)} {args : List Argument} {returns : Option String}
      (hargs : DenotesOptional DenotesArguments [] (field? "args" entries) args)
      (hreturns : DenotesOptional DenotesText none (field? "returns" entries) returns) :
      DenotesMethod (.map entries) { args, returns }

/-- A list of names denotes the entries under these names, each with nothing more said. -/
inductive DenotesNames (bare : α) : Node → Dict String α → Prop
  | names {names : List String} {d : Dict String α}
      (h : ∀ name, d.get? name = if name ∈ names then some bare else none) :
      DenotesNames bare (.list (names.map .string)) d

/-- Methods are listed by their names, or given each under its name. -/
inductive DenotesMethods : Node → Dict String Method → Prop
  | names {node : Node} {methods : Dict String Method} (h : DenotesNames {} node methods) :
      DenotesMethods node methods
  | full {node : Node} {methods : Dict String Method}
      (h : DenotesMap (fun _ => DenotesMethod) node methods) : DenotesMethods node methods

/-- What a node denotes under the name of an event. -/
inductive DenotesOutcome : Node → EventOutcome → Prop
  | bare : DenotesOutcome .null (.args [])
  | args {items : List Node} {args : List Argument}
      (h : DenotesArguments (.list items) args) : DenotesOutcome (.list items) (.args args)
  | next (command : String) : DenotesOutcome (.string command) (.next command)
  | terminal (ends : Bool) : DenotesOutcome (.bool ends) (.terminal ends)

/-- Events are given each under its name, which must be valid. -/
def DenotesEvents : Node → Dict String EventOutcome → Prop :=
  DenotesMap fun event node outcome => Name.isValid event = true ∧ node.DenotesOutcome outcome

/-! ### Specs -/

/-- **What the keys of a map denote as a spec.**  Every key may be left out and other keys
say nothing; `type` replaces `kind`, and `events` replaces `event`. -/
structure DenotesKeys (entries : List (String × Node)) (spec : Spec) : Prop where
  /-- The arguments. -/
  args : DenotesOptional DenotesArguments [] (field? "args" entries) spec.args
  /-- The entity. -/
  entity : DenotesOptional DenotesText none (field? "entity" entries) spec.entity
  /-- The events, from the key that counts; the other must be right as well. -/
  events : ∃ first, DenotesOptional DenotesEvents ∅ (field? "event" entries) first ∧
    DenotesOptional DenotesEvents first (field? "events" entries) spec.events
  /-- The kind, from the key that counts; the other must be right as well. -/
  kind : ∃ first, DenotesOptional DenotesText none (field? "kind" entries) first ∧
    DenotesOptional DenotesText first (field? "type" entries) spec.kind
  /-- The methods. -/
  methods : DenotesOptional DenotesMethods ∅ (field? "methods" entries) spec.methods
  /-- Whether there is an interface. -/
  repositoryInterface : DenotesOptional DenotesFlag true
    (field? "repository_interface" entries) spec.repositoryInterface
  /-- The type that is returned. -/
  returns : DenotesOptional DenotesText none (field? "returns" entries) spec.returns
  /-- Nothing else is said. -/
  unsaid : spec.repository = none ∧ spec.products = [] ∧ spec.nextCommand = none ∧
    spec.terminal = false

/-- **What a node denotes as a spec** of a type. -/
inductive DenotesSpec (owner : ArtifactType) : Node → Spec → Prop
  | bare : DenotesSpec owner .null {}
  | methods {items : List Node} {methods : Dict String Method} (howner : owner = .entity)
      (h : DenotesNames {} (.list items) methods) :
      DenotesSpec owner (.list items) { methods }
  | args {items : List Node} {args : List Argument} (howner : owner ≠ .entity)
      (h : DenotesArguments (.list items) args) : DenotesSpec owner (.list items) { args }
  | kind (howner : owner = .valueObject) (word : String) :
      DenotesSpec owner (.string word) { kind := some word }
  | keys {entries : List (String × Node)} {spec : Spec} (h : DenotesKeys entries spec) :
      DenotesSpec owner (.map entries) spec

/-! ### Sections -/

/-- **What a node denotes as the section** of a type.  Names must be valid. -/
inductive DenotesSection (owner : ArtifactType) : Node → Section → Prop
  | none : DenotesSection owner .null ∅
  | entries {node : Node} {s : Section}
      (h : DenotesMap (fun name node spec =>
        Name.isValid name = true ∧ node.DenotesSpec owner spec) node s) :
      DenotesSection owner node s
  | names {node : Node} {s : Section} (howner : owner = .valueObject)
      (h : DenotesNames {} node s) (hvalid : ∀ name, s.contains name = true →
        Name.isValid name = true) : DenotesSection owner node s

/-- The short words for repositories below the section `repository`. -/
def repositoryWords : List (String × ArtifactType) :=
  [("entity_store", .repositoryEntityStore),
    ("event_sourcing_store", .repositoryEventSourcingStore),
    ("read_model", .repositoryReadModel), ("query", .repositoryQueryStore),
    ("query_store", .repositoryQueryStore), ("task", .repositoryTask)]

/-- What an entry below the section `repository` adds: the section of the type its key is a
word for, or one repository of no special type. -/
inductive DenotesRepository : String × Node → ArtifactType × Section → Prop
  | typed {key : String} {node : Node} {t : ArtifactType} {s : Section}
      (hkey : (key, t) ∈ repositoryWords) (h : node.DenotesSection t s) :
      DenotesRepository (key, node) (t, s)
  | custom {key : String} {node : Node} {spec : Spec} {s : Section}
      (hkey : ∀ t, (key, t) ∉ repositoryWords) (hvalid : Name.isValid key = true)
      (h : node.DenotesSpec .repository spec) (hs : s.entries = [(key, spec)]) :
      DenotesRepository (key, node) (.repository, s)

/-- **What a section of a domain adds**, by type. -/
inductive DenotesParts : String → Node → List (ArtifactType × Section) → Prop
  | typed {tag : String} {t : ArtifactType} {node : Node} {s : Section} (htag : tag = t.tag)
      (ht : t ≠ .repository) (h : node.DenotesSection t s) : DenotesParts tag node [(t, s)]
  | noRepositories : DenotesParts "repository" .null []
  | repositories {entries : List (String × Node)} {parts : List (ArtifactType × Section)}
      (h : List.Forall₂ DenotesRepository entries parts) :
      DenotesParts "repository" (.map entries) parts

end Node

/-! ### Domains -/

/-- **A declaration is made of parts**, one after the other.  Of two parts of a type that
have a name in common the later one counts. -/
structure Declaration.MadeOf (decl : Declaration) (parts : List (ArtifactType × Section)) :
    Prop where
  /-- Sections that may be left out are present, and all that are declared. -/
  present : ∀ t, decl.sections.contains t = true
    ↔ t ∈ optionalSections ∨ ∃ s, (t, s) ∈ parts
  /-- A name has the spec of the last part that has the name. -/
  entries : ∀ t name spec, decl.sections.find? t name = some spec
    ↔ ∃ before s after, parts = before ++ (t, s) :: after ∧ s.get? name = some spec ∧
      ∀ s', (t, s') ∈ after → s'.get? name = none

/-- **What a domain denotes**: its sections, in the order of their keys. -/
structure Domain.Denotes (d : Domain) (decl : Declaration) : Prop where
  /-- The name of the domain. -/
  name : decl.name = d.name
  /-- Nothing is derived yet. -/
  derived : decl.derived = []
  /-- The sections. -/
  sections : ∃ lists, List.Forall₂ (fun e parts => e.2.DenotesParts e.1 parts)
    d.sections.entries lists ∧ decl.MadeOf lists.flatten

end Scaffold
