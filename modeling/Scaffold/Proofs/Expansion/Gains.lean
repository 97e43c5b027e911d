import Scaffold.Proofs.Expansion.Brought

/-!
# What entries gain

Most additions make an entry where there is none and leave it alone afterwards.  Two types
gain something with each addition that reaches them, so for them the order counts: the
interfaces of factories gain products, and the task repositories gain methods.

## Main definitions

* `Declaration.familyProducts` — the products of a family, in order.
* `Declaration.commandTypes` — the types to which only commands bring something.
* `Declaration.tasksOf` — the methods that commands bring to a task repository.

## Main results

* `Declaration.reaching_of_commands`, `Declaration.reaching_factoryInterface`,
  `Declaration.reaching_repositoryTask` — the additions in their order.
* `Declaration.find?_assemble_repositoryTask_of_some`,
  `Declaration.find?_assemble_repositoryTask_of_none` — what a task repository becomes.
-/

namespace Scaffold

namespace Declaration

/-- The variants of a section are nothing to other types. -/
private theorem filter_variants_of_ne {t u : ArtifactType} (hu : t ≠ u)
    (es : List (String × Spec)) (name : String) :
    (es.map fun e => Addition.variant u e.1 e.2).filter (Addition.reaches t name) = [] := by
  rw [List.filter_eq_nil_iff]
  intro a ha
  obtain ⟨e, -, rfl⟩ := List.mem_map.mp ha
  rw [Addition.reaches_variant_iff]
  exact fun h => hu h.1

/-! ### The factories of a family -/

/-- The products of one family, in order. -/
def familyProducts (d : Declaration) (family : String) : List Product :=
  (d.products.filter fun e => e.1 = family).map (·.2)

section Factories

variable {d : Declaration} {family : String}

/-- Products as additions to the factories of a family. -/
private def stock (family : String) (products : List (String × Product)) : List Addition :=
  (products.filter fun e => e.1 = family).map fun e => .product family e.2

private theorem stock_append (ps qs : List (String × Product)) :
    stock family (ps ++ qs) = stock family ps ++ stock family qs := by
  simp only [stock, List.filter_append, List.map_append]

private theorem stock_flatMap {α : Type} (l : List α) (f : α → List (String × Product)) :
    stock family (l.flatMap f) = l.flatMap fun a => stock family (f a) := by
  simp only [stock, List.filter_flatMap, List.map_flatMap]

private theorem stock_map {α : Type} (l : List α) (f : α → String × Product) :
    stock family (l.map f) = l.flatMap fun a => stock family [f a] := by
  rw [List.map_eq_flatMap, stock_flatMap]

private theorem filter_productOf (h : d.has .factory family = false) (other name : String)
    (t : ArtifactType) :
    (d.productOf other name t).filter (Addition.reaches .factoryInterface family)
      = stock family [(other, ⟨name, t⟩)] := by
  unfold productOf stock
  by_cases ho : other = family
  · subst ho
    simp [h, Addition.reaches]
  · split
    · simp [ho]
    · simp [Addition.reaches, ho]

/-- What stands in front of a product is for another type. -/
private theorem filter_cons_productOf (h : d.has .factory family = false) {first : Addition}
    (hfirst : first.reaches .factoryInterface family = false) (other name : String)
    (t : ArtifactType) :
    (first :: d.productOf other name t).filter (Addition.reaches .factoryInterface family)
      = stock family [(other, ⟨name, t⟩)] := by
  rw [List.filter_cons_of_neg (by simp [hfirst]), filter_productOf h]

private theorem filter_commandAdditions (h : d.has .factory family = false) (name : String)
    (spec : Spec) :
    (d.commandAdditions name spec).filter (Addition.reaches .factoryInterface family)
      = stock family (commandProducts name spec) := by
  unfold commandAdditions commandProducts
  cases spec.entity with
  | none => rfl
  | some entity =>
    rw [if_pos Option.isSome_some]
    show _ = stock family ([("command", ⟨name, .command⟩)] ++ [("command", ⟨name, .commandTask⟩)] ++
      spec.events.keys.map fun event => ("event", ⟨event, .event⟩))
    rw [stock_append, stock_append, stock_map, Dict.keys, List.flatMap_map,
      List.filter_cons_of_neg (by simp [Addition.reaches]),
      List.filter_cons_of_neg (by simp [Addition.reaches]), List.filter_append,
      List.filter_append, filter_productOf h, filter_productOf h, List.filter_flatMap]
    simp (disch := simp [Addition.reaches]) only [eventAdditions, filter_cons_productOf h]

/-- **The factory interface of a family gets the family's products**, unless the author
declared the factory. -/
theorem reaching_factoryInterface (h : d.has .factory family = false) :
    d.reaching .factoryInterface family
      = (d.familyProducts family).map (.product family) := by
  have hstock : (d.familyProducts family).map (.product family) = stock family d.products := by
    rw [familyProducts, List.map_map]
    rfl
  rw [hstock]
  unfold reaching additions products
  -- handlers and transfer objects bring variants only
  rw [List.filter_append, List.filter_append, filter_variants_of_ne (by decide),
    filter_variants_of_ne (by decide), List.append_nil, List.append_nil]
  simp (disch := simp [Addition.reaches]) only [List.filter_append, List.filter_flatMap,
    stock_append, stock_flatMap, stock_map, valueObjectAdditions, entityAdditions,
    serviceAdditions, filter_cons_productOf h, filter_productOf h, filter_commandAdditions h]

end Factories

/-! ### What only commands bring -/

/-- The types to which commands bring something, and nothing else does. -/
def commandTypes : List ArtifactType := [.commandTask, .repositoryTask, .event]

section Commands

variable {d : Declaration} {t : ArtifactType} {target : String}

/-- Products are nothing to these types. -/
theorem filter_productOf_of_mem (ht : t ∈ commandTypes) {family name : String}
    {u : ArtifactType} : (d.productOf family name u).filter (Addition.reaches t target) = [] := by
  unfold productOf
  split
  · rfl
  · refine List.filter_cons_of_neg fun h => ?_
    obtain ⟨rfl | rfl, -⟩ := Addition.reaches_product_iff.mp h
    · exact absurd ht (by decide)
    · exact absurd ht (by decide)

theorem filter_cons_productOf_of_mem (ht : t ∈ commandTypes) {first : Addition}
    (hfirst : first.reaches t target = false) {family name : String} {u : ArtifactType} :
    (first :: d.productOf family name u).filter (Addition.reaches t target) = [] := by
  rw [List.filter_cons_of_neg (by simp [hfirst]), filter_productOf_of_mem ht]

/-- **Only the walk over the commands** meets additions to these types. -/
theorem reaching_of_commands (ht : t ∈ commandTypes) :
    d.reaching t target = (d.entries .command).flatMap fun e =>
      (d.commandAdditions e.1 e.2).filter (Addition.reaches t target) := by
  have hne {u : ArtifactType} (hu : u ∉ commandTypes) : t ≠ u := fun h => hu (h ▸ ht)
  have hvariant {u : ArtifactType} (hu : u ∉ commandTypes) {name : String} {spec : Spec} :
      (Addition.variant u name spec).reaches t target = false := by
    simp [Addition.reaches, hne hu]
  have hnone {es : List (String × Spec)} {f : String × Spec → List Addition}
      (h : ∀ e, (f e).filter (Addition.reaches t target) = []) :
      (es.flatMap f).filter (Addition.reaches t target) = [] := by
    rw [List.filter_flatMap, List.flatMap_eq_nil_iff]
    exact fun e _ => h e
  have hsettled {name : String} {spec : Spec} :
      (Addition.settled name spec).reaches t target = false := by
    simp [Addition.reaches, hne (u := .valueObject) (by decide)]
  unfold reaching additions
  simp only [List.filter_append, valueObjectAdditions, entityAdditions, serviceAdditions]
  rw [hnone fun _ => filter_cons_productOf_of_mem ht hsettled,
    hnone fun _ => filter_cons_productOf_of_mem ht (hvariant (by decide)),
    hnone fun _ => filter_productOf_of_mem ht,
    hnone fun _ => filter_cons_productOf_of_mem ht (hvariant (by decide)),
    filter_variants_of_ne (hne (by decide)), filter_variants_of_ne (hne (by decide)),
    List.filter_flatMap]
  simp only [List.nil_append, List.append_nil]

end Commands

/-! ### The task repository of an entity -/

/-- The methods that commands bring to the task repository of an entity. -/
def tasksOf (d : Declaration) (entity : String) : List (String × Method) :=
  ((d.entries .command).filter fun (_, command) => command.entity = some entity).map
    fun (name, command) => (name, { args := command.args })

theorem mem_tasksOf_iff {d : Declaration} {entity name : String} {method : Method} :
    (name, method) ∈ d.tasksOf entity
      ↔ ∃ command, d.sections.find? .command name = some command ∧
          command.entity = some entity ∧ method = { args := command.args } := by
  simp only [tasksOf, List.mem_map, List.mem_filter, decide_eq_true_eq, Prod.exists,
    mem_entries_iff, Prod.mk.injEq]
  constructor
  · rintro ⟨_, command, ⟨h, bound⟩, rfl, rfl⟩
    exact ⟨command, h, bound, rfl⟩
  · rintro ⟨command, h, bound, rfl⟩
    exact ⟨name, command, ⟨h, bound⟩, rfl, rfl⟩

theorem nodup_tasksOf (d : Declaration) (entity : String) :
    ((d.tasksOf entity).map (·.1)).Nodup := by
  rw [tasksOf, List.map_map]
  exact (Dict.nodup_keys (d.sections.ofType .command)).sublist (List.filter_sublist.map _)

/-- A bound command brings one method to the task repository of its entity. -/
private theorem filter_task_commandAdditions (d : Declaration) (entity name : String)
    (spec : Spec) :
    (d.commandAdditions name spec).filter (Addition.reaches .repositoryTask entity)
      = if spec.entity = some entity then [.task entity name { args := spec.args }] else [] := by
  unfold commandAdditions
  cases spec.entity with
  | none => rfl
  | some e =>
    have hevents :
        (spec.events.entries.flatMap fun o => d.eventAdditions e spec o.1 o.2).filter
          (Addition.reaches .repositoryTask entity) = [] := by
      rw [List.filter_flatMap, List.flatMap_eq_nil_iff]
      exact fun o _ => filter_cons_productOf_of_mem (by decide) rfl
    dsimp only
    rw [List.filter_cons_of_neg (by simp [Addition.reaches]), List.filter_cons,
      List.filter_append, List.filter_append, filter_productOf_of_mem (by decide),
      filter_productOf_of_mem (by decide), hevents]
    by_cases he : e = entity
    · subst he
      simp [Addition.reaches]
    · simp [Addition.reaches, he]

/-- **The task repository of an entity gets a method for each of the entity's
commands.** -/
theorem reaching_repositoryTask (d : Declaration) (entity : String) :
    d.reaching .repositoryTask entity
      = (d.tasksOf entity).map fun e => .task entity e.1 e.2 := by
  rw [reaching_of_commands (by decide), tasksOf]
  simp only [filter_task_commandAdditions]
  induction d.entries .command with
  | nil => rfl
  | cons e es ih =>
    rw [List.flatMap_cons, ih]
    by_cases bound : e.2.entity = some entity
    · simp [bound]
    · simp [bound]

private theorem foldl_task (entity : String) (tasks : List (String × Method)) (spec : Spec) :
    (tasks.map fun e => Addition.task entity e.1 e.2).foldl (fun x a => some (a.makes x))
        (some spec)
      = some { spec with
          methods := tasks.foldl (fun methods e => methods.insertNew e.1 e.2) spec.methods } := by
  induction tasks generalizing spec with
  | nil => rfl
  | cons e es ih =>
    rw [List.map_cons, List.foldl_cons, Addition.makes, ih]
    rfl

/-- **A declared task repository keeps everything**, and gets the methods of commands
below its own. -/
theorem find?_assemble_repositoryTask_of_some {d : Declaration} {entity : String} {spec : Spec}
    (h : d.sections.find? .repositoryTask entity = some spec) :
    d.assemble.find? .repositoryTask entity
      = some { spec with methods := (Dict.ofList (d.tasksOf entity)).union spec.methods } := by
  rw [find?_assemble, reaching_repositoryTask, h, foldl_task,
    Dict.foldl_insertNew_eq_union (d.nodup_tasksOf entity)]

/-- **A task repository that is not declared** is bound to the entity of its commands
and has their methods. -/
theorem find?_assemble_repositoryTask_of_none {d : Declaration} {entity : String}
    (h : d.sections.find? .repositoryTask entity = none) (hbound : entity ∈ d.boundEntities) :
    d.assemble.find? .repositoryTask entity
      = some { entity := some entity, methods := .ofList (d.tasksOf entity) } := by
  obtain ⟨name, command, hcommand, bound⟩ := hbound
  have hmem : (name, ({ args := command.args } : Method)) ∈ d.tasksOf entity :=
    mem_tasksOf_iff.mpr ⟨command, hcommand, bound, rfl⟩
  -- the first method makes the repository that the others find
  have hdefault (tasks : List (String × Method)) (hne : tasks ≠ []) :
      (tasks.map fun e => Addition.task entity e.1 e.2).foldl (fun x a => some (a.makes x)) none
        = (tasks.map fun e => Addition.task entity e.1 e.2).foldl (fun x a => some (a.makes x))
            (some { entity := some entity }) := by
    cases tasks with
    | nil => exact absurd rfl hne
    | cons e es => rfl
  rw [find?_assemble, reaching_repositoryTask, h, hdefault _ (List.ne_nil_of_mem hmem),
    foldl_task, Dict.foldl_insertNew_eq_union (d.nodup_tasksOf entity)]
  rfl

end Declaration

end Scaffold
