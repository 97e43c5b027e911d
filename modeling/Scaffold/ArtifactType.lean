/-!
# Layers and artifact types

Generated sources are kept in four layers.  An artifact type says what a generated file
declares: an entity, a command, a repository and so on.  It belongs to exactly one layer, and
the layer names the top directory of its files.

Both sets are closed, and every question about a type is answered by a table.

## Main definitions

* `Layer`, `Layer.tag`, `Layer.directory` — the layers.
* `ArtifactType` — the types, in the order in which they are listed and written.
* `ArtifactType.tag`, `ArtifactType.ofTag?` — the word for a type in schemas.
* `ArtifactType.layer` — the layer its artifacts belong to.
* `ArtifactType.repositories` — the concrete repositories; `repositoryKind?` and
  `ofRepositoryKind?` relate them to the short words of the nested section.
* `ArtifactType.interfaceType` — where the interface of an artifact is declared.
-/

namespace Scaffold

/-! ### Layers -/

/-- An architectural layer, in the order of dependency. -/
inductive Layer where
  /-- Entities, value objects, commands, events and the interfaces around them. -/
  | domain
  /-- Handlers, queries, projectors, sagas and services. -/
  | application
  /-- Repositories and migrations. -/
  | infrastructure
  /-- Entry points: remote calls, command line, web resources. -/
  | presentation
  deriving DecidableEq, Repr, Inhabited

namespace Layer

/-- All layers, in the order of dependency. -/
def all : List Layer := [.domain, .application, .infrastructure, .presentation]

theorem mem_all (l : Layer) : l ∈ all := by cases l <;> decide

/-- The word for a layer in paths of artifacts. -/
def tag : Layer → String
  | domain => "domain"
  | application => "application"
  | infrastructure => "infrastructure"
  | presentation => "presentation"

/-- The directory of a layer, and the first part of its namespaces. -/
def directory : Layer → String
  | domain => "Domain"
  | application => "Application"
  | infrastructure => "Infrastructure"
  | presentation => "Presentation"

instance : Ord Layer := ⟨compareOn (·.ctorIdx)⟩

instance : Std.TransOrd Layer where
  eq_swap {a b} := @Std.OrientedCmp.eq_swap Nat compare _ a.ctorIdx b.ctorIdx
  isLE_trans {a b c} := @Std.TransCmp.isLE_trans Nat compare _ a.ctorIdx b.ctorIdx c.ctorIdx

theorem ctorIdx_injective {a b : Layer} (h : a.ctorIdx = b.ctorIdx) : a = b := by
  have at_index : ∀ l : Layer, all[l.ctorIdx]? = some l := by intro l; cases l <;> rfl
  exact Option.some.inj ((at_index a).symm.trans (h ▸ at_index b))

instance : Std.LawfulEqOrd Layer where
  eq_of_compare h := ctorIdx_injective (Std.LawfulEqOrd.eq_of_compare (α := Nat) h)

/-- The layer a word names. -/
def ofTag? (word : String) : Option Layer := all.find? (·.tag == word)

theorem ofTag?_tag (l : Layer) : ofTag? l.tag = some l := by cases l <;> decide

theorem tag_injective {a b : Layer} (h : a.tag = b.tag) : a = b :=
  Option.some.inj ((ofTag?_tag a).symm.trans (h ▸ ofTag?_tag b))

end Layer

/-! ### Types -/

/-- The type of a generated artifact. -/
inductive ArtifactType where
  | entity
  | entityInterface
  | valueObject
  | readModel
  | command
  | commandTask
  | commandHandler
  | commandHandlerTask
  | query
  | queryHandler
  | event
  | repository
  | repositoryInterface
  | repositoryEntityStore
  | repositoryEventSourcingStore
  | repositoryReadModel
  | repositoryQueryStore
  | repositoryTask
  | saga
  | projector
  | dto
  | dtoInterface
  | service
  | serviceInterface
  | factory
  | factoryInterface
  | exception
  | migrations
  | rpc
  | cli
  | rest
  deriving DecidableEq, Repr, Inhabited

namespace ArtifactType

/-- All types, in their order. -/
def all : List ArtifactType :=
  [entity, entityInterface, valueObject, readModel, command, commandTask, commandHandler,
    commandHandlerTask, query, queryHandler, event, repository, repositoryInterface,
    repositoryEntityStore, repositoryEventSourcingStore, repositoryReadModel,
    repositoryQueryStore, repositoryTask, saga, projector, dto, dtoInterface, service,
    serviceInterface, factory, factoryInterface, exception, migrations, rpc, cli, rest]

theorem mem_all (t : ArtifactType) : t ∈ all := by cases t <;> decide

/-! ### Order -/

instance : Ord ArtifactType := ⟨compareOn (·.ctorIdx)⟩

instance : Std.TransOrd ArtifactType where
  eq_swap {a b} := @Std.OrientedCmp.eq_swap Nat compare _ a.ctorIdx b.ctorIdx
  isLE_trans {a b c} := @Std.TransCmp.isLE_trans Nat compare _ a.ctorIdx b.ctorIdx c.ctorIdx

theorem getElem?_all_ctorIdx (t : ArtifactType) : all[t.ctorIdx]? = some t := by cases t <;> rfl

theorem ctorIdx_injective {a b : ArtifactType} (h : a.ctorIdx = b.ctorIdx) : a = b :=
  Option.some.inj ((getElem?_all_ctorIdx a).symm.trans (h ▸ getElem?_all_ctorIdx b))

instance : Std.LawfulEqOrd ArtifactType where
  eq_of_compare h := ctorIdx_injective (Std.LawfulEqOrd.eq_of_compare (α := Nat) h)

/-! ### Tags -/

/-- The word for a type. -/
def tag : ArtifactType → String
  | entity => "entity"
  | entityInterface => "entity_interface"
  | valueObject => "value_object"
  | readModel => "read_model"
  | command => "command"
  | commandTask => "command_task"
  | commandHandler => "command_handler"
  | commandHandlerTask => "command_handler_task"
  | query => "query"
  | queryHandler => "query_handler"
  | event => "event"
  | repository => "repository"
  | repositoryInterface => "repository_interface"
  | repositoryEntityStore => "repository_entity_store"
  | repositoryEventSourcingStore => "repository_event_sourcing_store"
  | repositoryReadModel => "repository_read_model"
  | repositoryQueryStore => "repository_query_store"
  | repositoryTask => "repository_task"
  | saga => "saga"
  | projector => "projector"
  | dto => "dto"
  | dtoInterface => "dto_interface"
  | service => "service"
  | serviceInterface => "service_interface"
  | factory => "factory"
  | factoryInterface => "factory_interface"
  | exception => "exception"
  | migrations => "migrations"
  | rpc => "rpc"
  | cli => "cli"
  | rest => "rest"

/-- The type a word names; words are case sensitive. -/
def ofTag? (word : String) : Option ArtifactType := all.find? (·.tag == word)

theorem ofTag?_tag (t : ArtifactType) : ofTag? t.tag = some t := by cases t <;> decide

theorem ofTag?_eq_some_iff {word : String} {t : ArtifactType} :
    ofTag? word = some t ↔ word = t.tag := by
  constructor
  · intro h
    unfold ofTag? at h
    have found := List.find?_some h
    exact (beq_iff_eq.1 found).symm
  · rintro rfl
    exact ofTag?_tag t

theorem tag_injective {a b : ArtifactType} (h : a.tag = b.tag) : a = b :=
  Option.some.inj ((ofTag?_tag a).symm.trans (h ▸ ofTag?_tag b))

/-! ### Tables -/

/-- The layer of a type. -/
def layer : ArtifactType → Layer
  | entity | entityInterface | valueObject | readModel | command | commandTask | event
  | repositoryInterface | serviceInterface | factory | factoryInterface | exception => .domain
  | commandHandler | commandHandlerTask | query | queryHandler | saga | projector | dto
  | dtoInterface | service => .application
  | repository | repositoryEntityStore | repositoryEventSourcingStore | repositoryReadModel
  | repositoryQueryStore | repositoryTask | migrations => .infrastructure
  | rpc | cli | rest => .presentation

/-- The artifact is an interface and goes by its interface name. -/
def isInterface : ArtifactType → Bool
  | entityInterface | repositoryInterface | dtoInterface | serviceInterface
  | factoryInterface => true
  | _ => false

/-- The concrete repositories, in the order in which they are derived. -/
def repositories : List ArtifactType :=
  [repository, repositoryEntityStore, repositoryEventSourcingStore, repositoryReadModel,
    repositoryQueryStore, repositoryTask]

/-- A concrete repository. -/
def isRepository : ArtifactType → Bool
  | repository | repositoryEntityStore | repositoryEventSourcingStore | repositoryReadModel
  | repositoryQueryStore | repositoryTask => true
  | _ => false

theorem isRepository_iff {t : ArtifactType} : t.isRepository = true ↔ t ∈ repositories := by
  cases t <;> decide

/-- The short word for a repository below the `repository` section. -/
def repositoryKind? : ArtifactType → Option String
  | repositoryEntityStore => some "entity_store"
  | repositoryEventSourcingStore => some "event_sourcing_store"
  | repositoryReadModel => some "read_model"
  | repositoryQueryStore => some "query"
  | repositoryTask => some "task"
  | _ => none

/-- The repository a short word names; a query store has two. -/
def ofRepositoryKind? (word : String) : Option ArtifactType :=
  if word == "entity_store" then some repositoryEntityStore
  else if word == "event_sourcing_store" then some repositoryEventSourcingStore
  else if word == "read_model" then some repositoryReadModel
  else if word == "query" || word == "query_store" then some repositoryQueryStore
  else if word == "task" then some repositoryTask
  else none

/-- The type under which the interface of an artifact is declared; an artifact
without one stands for itself. -/
def interfaceType : ArtifactType → ArtifactType
  | entity => entityInterface
  | dto => dtoInterface
  | service => serviceInterface
  | factory => factoryInterface
  | t => if t.isRepository then repositoryInterface else t

end ArtifactType

end Scaffold
