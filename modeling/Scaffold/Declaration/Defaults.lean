import Scaffold.Declaration

/-!
# Derived sections

A domain that declares no read models, no projectors or none of four kinds of
repositories gets them from what it does declare: from its entities, its
commands and the handlers of commands and queries.  A section with an entry of
its own is never touched.

What is derived depends on the declared sections alone and not on what else is
derived.

## Main definitions

* `derivedSection` — what a type gets.
* `Declaration.withDefaults` — the declaration with all of it.
-/

namespace Scaffold

namespace Declaration

/-! ### Collaborators outside the sources -/

/-- The store of read models. -/
def readModelStore : Argument := .external "ReadModelStoreInterface"

/-- The store of events. -/
def eventStore : Argument := .external "EventStore"

/-- The bus of events. -/
def eventBus : Argument := .external "EventBus"

/-- The bus of commands. -/
def commandBus : Argument := .external "CommandBus"

/-! ### What each type gets -/

/-- A method that takes one artifact and returns nothing. -/
def handlerOf (name : String) (t : ArtifactType) : Method :=
  { args := [.artifact name t false], returns := some "void" }

/-- Each entity has a read model with its arguments. -/
def derivedReadModels (d : Declaration) : Section :=
  .ofList <| (d.entries .entity).map fun (entity, spec) =>
    (entity, { args := spec.args, entity := some entity })

/-- The events of the commands that are bound to an entity. -/
def eventsOf (d : Declaration) (entity : String) : List String :=
  ((d.entries .command).filter fun (_, command) => command.entity == some entity).flatMap
    fun (_, command) => command.events.keys

/-- The projector of an entity listens to the events of the entity's commands. -/
def projectorOf (d : Declaration) (entity : String) : Spec where
  args :=
    [.artifact entity .repositoryEntityStore false, .artifact entity .repositoryReadModel false,
      .artifact "read_model" .factory true, .artifact entity .repositoryQueryStore false,
      commandBus, .artifact "command" .factory true]
  entity := some entity
  methods := .ofList <| (d.eventsOf entity).map fun event => (event, handlerOf event .event)

/-- Each entity that a command is bound to has a projector. -/
def derivedProjectors (d : Declaration) : Section :=
  .ofList <| ((d.entries .command).filterMap fun (_, command) => command.entity).map
    fun entity => (entity, d.projectorOf entity)

/-- Each entity has an entity store. -/
def derivedEntityStores (d : Declaration) : Section :=
  .ofList <| (d.entries .entity).map fun (entity, _) =>
    (entity, { args := [readModelStore], entity := some entity })

/-- Each entity has an event sourcing store, which has no interface. -/
def derivedEventSourcingStores (d : Declaration) : Section :=
  .ofList <| (d.entries .entity).map fun (entity, _) =>
    (entity,
      { args := [eventStore, eventBus, .scalar "eventStreamDecorators" .array]
        entity := some entity
        repositoryInterface := false })

/-- The handlers of queries that name an entity. -/
def queryHandlersOf (d : Declaration) (entity : String) : List String :=
  ((d.entries .queryHandler).filter fun (_, handler) => handler.entity == some entity).map (·.1)

/-- The query store of an entity has a method for each handler that names it. -/
def queryStoreOf (d : Declaration) (entity : String) : Spec where
  args := [readModelStore, .artifact "read_model" .factory true,
    .artifact "value_object" .factory true]
  entity := some entity
  methods := .ofList <| (d.queryHandlersOf entity).map fun handler => (handler, {})

/-- Each entity that a handler of queries names has a query store. -/
def derivedQueryStores (d : Declaration) : Section :=
  .ofList <| ((d.entries .queryHandler).filterMap fun (_, handler) => handler.entity).map
    fun entity => (entity, d.queryStoreOf entity)

/-- The handlers of commands that name an entity. -/
def commandHandlersOf (d : Declaration) (entity : String) : List String :=
  ((d.entries .commandHandler).filter fun (_, handler) => handler.entity == some entity).map
    (·.1)

/-- Each entity has a repository of its read model, with a method for each handler
of commands that names the entity. -/
def derivedReadModelRepositories (d : Declaration) : Section :=
  .ofList <| (d.entries .entity).map fun (entity, _) =>
    (entity,
      { args := [readModelStore]
        entity := some entity
        methods := .ofList <| (d.commandHandlersOf entity).map fun handler =>
          (handler, handlerOf entity .readModel) })

/-- The types that are derived when nothing is declared of them. -/
def derivableTypes : List ArtifactType :=
  [.readModel, .projector, .repositoryEntityStore, .repositoryEventSourcingStore,
    .repositoryQueryStore, .repositoryReadModel]

/-- What a type gets when nothing is declared of it. -/
def derivedSection (d : Declaration) : ArtifactType → Section
  | .readModel => d.derivedReadModels
  | .projector => d.derivedProjectors
  | .repositoryEntityStore => d.derivedEntityStores
  | .repositoryEventSourcingStore => d.derivedEventSourcingStores
  | .repositoryQueryStore => d.derivedQueryStores
  | .repositoryReadModel => d.derivedReadModelRepositories
  | _ => ∅

/-- Give a type the section derived from `source`, unless it has entries. -/
def derive (source : Declaration) (d : Declaration) (t : ArtifactType) : Declaration :=
  if source.lacks t then
    { d with sections := Dict.insert d.sections t (source.derivedSection t),
             derived := d.derived ++ [t] }
  else d

/-- The declaration with everything that is derived. -/
def withDefaults (d : Declaration) : Declaration := derivableTypes.foldl (derive d) d

end Declaration

end Scaffold
