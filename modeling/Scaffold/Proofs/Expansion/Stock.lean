import Mathlib.Data.List.Induction
import Mathlib.Data.List.Nodup
import Scaffold.Proofs.Expansion.Factories
import Scaffold.Proofs.Expansion.Mirrors

/-!
# What factories list

The products of a factory are put in one after the other, from walks over six types, and one
that is there already is not put in again.  In the end the factory of a family lists the
members of the family, each once and in order, and the interface of the factory lists the
same.  Where the author declares a factory, nothing is listed.

## Main definitions

* `Blueprint.stock` — what the factory of a family lists.

## Main results

* `appendNew_nil` — products put in one after the other.
* `Declaration.CommandsBound.eraseDups_familyProducts` — the products of a family.
* `Declaration.CommandsBound.products_of_find?_merged`,
  `Declaration.find?_merged_of_declared_factory` — the factories in merged sections.
* `Domain.products_of_factories` — the factories in a blueprint.
-/

namespace Scaffold

/-! ### First occurrences -/

section FirstOccurrences

variable {α β : Type} [DecidableEq α] [DecidableEq β] {l : List α}

theorem eraseDups_concat (l : List α) (a : α) :
    (l ++ [a]).eraseDups = if a ∈ l then l.eraseDups else l.eraseDups ++ [a] := by
  rw [List.eraseDups_append, List.removeAll]
  by_cases h : a ∈ l
  · simp [h]
  · simp [h, List.eraseDups_cons]

theorem nodup_eraseDups (l : List α) : l.eraseDups.Nodup := by
  induction l using List.reverseRecOn with
  | nil => exact List.nodup_nil
  | append_singleton l a ih =>
    rw [eraseDups_concat]
    split
    · exact ih
    · next h => exact ih.append (List.nodup_singleton a) (by simpa using h)

theorem eraseDups_of_nodup (h : l.Nodup) : l.eraseDups = l := by
  induction l using List.reverseRecOn with
  | nil => rfl
  | append_singleton l a ih =>
    have ha : a ∉ l := by simpa using List.disjoint_of_nodup_append h
    rw [eraseDups_concat, if_neg ha, ih h.of_append_left]

/-- Elements are the same when their images are. -/
theorem eraseDups_map {f : α → β} (hf : Function.Injective f) (l : List α) :
    (l.map f).eraseDups = l.eraseDups.map f := by
  induction l using List.reverseRecOn with
  | nil => rfl
  | append_singleton l a ih =>
    rw [List.map_append, List.map_singleton, eraseDups_concat, eraseDups_concat, ih]
    simp only [List.mem_map_of_injective hf]
    split
    · rfl
    · rw [List.map_append, List.map_singleton]

/-- **Products put in one after the other** are listed as they first occur. -/
theorem appendNew_nil (products : List Product) : appendNew [] products = products.eraseDups := by
  induction products using List.reverseRecOn with
  | nil => rfl
  | append_singleton products p ih =>
    have hstep : appendNew [] (products ++ [p])
        = if p ∈ appendNew [] products then appendNew [] products
          else appendNew [] products ++ [p] := by
      rw [appendNew, List.foldl_append]
      rfl
    rw [hstep, eraseDups_concat, ih]
    simp only [List.mem_eraseDups]

end FirstOccurrences

/-! ### The members of a family -/

/-- What the factory of a family lists, by what is there of each type: the members of the family
in order of their names, for a command also its task, and an event where it is first emitted. -/
def stockOf (entries : ArtifactType → Section) : String → List Product
  | "value_object" => (entries .valueObject).keys.map (⟨·, .valueObject⟩)
  | "entity" => (entries .entity).keys.map (⟨·, .entity⟩)
  | "read_model" => (entries .readModel).keys.map (⟨·, .readModel⟩)
  | "service" => (entries .service).keys.map (⟨·, .service⟩)
  | "command" =>
    (entries .command).keys.flatMap fun name => [⟨name, .command⟩, ⟨name, .commandTask⟩]
  | "event" =>
    ((entries .command).values.flatMap fun command => command.events.keys).eraseDups.map
      (⟨·, .event⟩)
  | _ => []

/-- What the factory of a family in a blueprint lists. -/
def Blueprint.stock (b : Blueprint) (family : String) : List Product :=
  stockOf (fun t => (b.section? t).getD ∅) family

namespace Declaration

variable {d : Declaration} {family : String}

/-- The names of a type as products, if they belong to the family. -/
private def listed (d : Declaration) (family own : String) (t : ArtifactType) : List Product :=
  if own = family then (d.sections.ofType t).keys.map (⟨·, t⟩) else []

/-- What a bound command lists in a family. -/
private def listedBy (family name : String) (command : Spec) : List Product :=
  if "command" = family then [⟨name, .command⟩, ⟨name, .commandTask⟩]
  else if "event" = family then command.events.keys.map (⟨·, .event⟩) else []

private theorem members_of_map (own : String) (t : ArtifactType) :
    (((d.entries t).map fun e => (own, (⟨e.1, t⟩ : Product))).filter fun e => e.1 = family).map
        (·.2) = d.listed family own t := by
  unfold listed Dict.keys
  by_cases h : own = family
  · simp [h, List.filter_map, Function.comp_def, entries, Sections.entriesAt]
  · simp [h, List.filter_map, Function.comp_def]

private theorem members_of_command {command : Spec} (name : String) {entity : String}
    (bound : command.entity = some entity) :
    ((commandProducts name command).filter fun e => e.1 = family).map (·.2)
      = listedBy family name command := by
  rw [commandProducts, if_pos (by rw [bound]; rfl), listedBy]
  by_cases hc : "command" = family
  · subst hc
    simp
  · by_cases he : "event" = family
    · subst he
      simp [List.filter_map, Function.comp_def]
    · simp [hc, he, List.filter_map, Function.comp_def]

/-- The products of a family, walk by walk. -/
private theorem familyProducts_eq (hbound : d.CommandsBound) :
    d.familyProducts family
      = d.listed family "value_object" .valueObject ++ d.listed family "entity" .entity ++
        d.listed family "read_model" .readModel ++ d.listed family "service" .service ++
        (d.entries .command).flatMap fun e => listedBy family e.1 e.2 := by
  have hcommands : (d.entries .command).flatMap (fun e =>
        ((commandProducts e.1 e.2).filter fun e => e.1 = family).map (·.2))
      = (d.entries .command).flatMap fun e => listedBy family e.1 e.2 := by
    refine List.flatMap_congr fun e he => ?_
    obtain ⟨entity, bound⟩ := hbound e.1 e.2 (mem_entries_iff.mp he)
    exact members_of_command e.1 bound
  rw [familyProducts, products]
  simp only [List.filter_append, List.map_append, members_of_map, List.filter_flatMap,
    List.map_flatMap, hcommands]

private theorem nodup_map_keys (t : ArtifactType) :
    ((d.sections.ofType t).keys.map fun name => (⟨name, t⟩ : Product)).Nodup :=
  (Dict.nodup_keys _).map fun _ _ h => congrArg Product.name h

/-- A command and its task differ, and those of another command have another name. -/
private theorem nodup_commands : ((d.sections.ofType .command).keys.flatMap fun name =>
    [(⟨name, .command⟩ : Product), ⟨name, .commandTask⟩]).Nodup := by
  refine List.nodup_flatMap.mpr ⟨fun name _ => by simp, (Dict.nodup_keys _).imp ?_⟩
  intro name other hne
  simp [Function.onFun, hne.symm]

/-- **The products of a family**, each where it first occurs, are what its factory lists. -/
theorem CommandsBound.eraseDups_familyProducts (hbound : d.CommandsBound) :
    (d.familyProducts family).eraseDups = stockOf d.sections.ofType family := by
  have hnone : ((d.entries .command).flatMap fun _ => ([] : List Product)) = [] :=
    List.flatMap_eq_nil_iff.mpr fun _ _ => rfl
  rw [familyProducts_eq hbound]
  unfold stockOf
  split
  · simp [listed, listedBy, hnone, eraseDups_of_nodup (nodup_map_keys _)]
  · simp [listed, listedBy, hnone, eraseDups_of_nodup (nodup_map_keys _)]
  · simp [listed, listedBy, hnone, eraseDups_of_nodup (nodup_map_keys _)]
  · simp [listed, listedBy, hnone, eraseDups_of_nodup (nodup_map_keys _)]
  · -- only the walk over the commands meets this family and the next
    rw [← eraseDups_of_nodup nodup_commands, Dict.keys, List.flatMap_map]
    simp [listed, listedBy, entries, Sections.entriesAt]
  · have hinj : Function.Injective fun event => (⟨event, .event⟩ : Product) :=
      fun _ _ h => congrArg Product.name h
    rw [← eraseDups_map hinj, List.map_flatMap, Dict.values, List.flatMap_map]
    simp [listed, listedBy, entries, Sections.entriesAt]
  · next hv he hr hs hc hev =>
    have hne {own : String} (h : family = own → False) : own ≠ family := fun heq => h heq.symm
    simp [listed, listedBy, hnone, hne hv, hne he, hne hr, hne hs, hne hc, hne hev]

/-! ### The types of the members -/

/-- The types that are asked for the members of families. -/
def memberTypes : List ArtifactType := [.valueObject, .entity, .readModel, .service, .command]

/-- What factories list depends on the names of the members, and on the commands. -/
theorem stockOf_congr {f g : ArtifactType → Section}
    (hkeys : ∀ t ∈ memberTypes, (f t).keys = (g t).keys) (hcommand : f .command = g .command)
    (family : String) : stockOf f family = stockOf g family := by
  have hvalueObject := hkeys .valueObject (by decide)
  have hentity := hkeys .entity (by decide)
  have hreadModel := hkeys .readModel (by decide)
  have hservice := hkeys .service (by decide)
  unfold stockOf
  rw [hvalueObject, hentity, hreadModel, hservice, hcommand]

/-- A section to which nothing is brought is as it was. -/
theorem ofType_merged {t : ArtifactType} (ht : t ≠ .repositoryInterface)
    (hbrought : d.broughtNames t = ∅) :
    d.assemble.addInterfaces.ofType t = d.sections.ofType t := by
  refine Dict.ext_get? fun name => ?_
  have hfind := find?_assemble_of_not_mem (d := d) (hbrought ▸ Set.notMem_empty name)
  rw [← Sections.find?_addInterfaces_of_ne ht] at hfind
  exact hfind

/-- Value objects are settled, but there are no new ones. -/
private theorem keys_merged {t : ArtifactType} (ht : t ∈ memberTypes) :
    (d.assemble.addInterfaces.ofType t).keys = (d.sections.ofType t).keys := by
  by_cases hv : t = .valueObject
  · subst hv
    refine Dict.keys_congr fun name => ?_
    have hhas : d.assemble.has .valueObject name = true ↔ name ∈ d.declared .valueObject := by
      rw [has_assemble_iff, broughtNames, Set.union_self]
    rw [Sections.has, ← Sections.find?_addInterfaces_of_ne (by decide)] at hhas
    exact hhas
  · have hbrought : d.broughtNames t = ∅ := by
      simp only [memberTypes, List.mem_cons, List.not_mem_nil, or_false] at ht
      rcases ht with rfl | rfl | rfl | rfl | rfl
      · exact absurd rfl hv
      all_goals rfl
    rw [ofType_merged (ne_of_mem_of_not_mem ht (by decide)) hbrought]

theorem stockOf_merged (d : Declaration) (family : String) :
    stockOf d.assemble.addInterfaces.ofType family = stockOf d.sections.ofType family :=
  stockOf_congr (fun _ => keys_merged) (ofType_merged (by decide) rfl) family

/-! ### Factories in merged sections -/

/-- The first product that is put in makes the entry. -/
private theorem products_of_foldl {ps : List Product} {x : Option Spec} {spec : Spec}
    (h : (ps.map (Addition.product family)).foldl (fun x a => some (a.makes x)) x = some spec) :
    spec.products = appendNew (x.getD {}).products ps := by
  cases ps with
  | nil =>
    obtain rfl : x = some spec := h
    rfl
  | cons p ps =>
    rw [List.map_cons, List.foldl_cons, Addition.makes, foldl_product] at h
    obtain rfl := Option.some.inj h
    unfold appendNew withProduct Spec.addProduct
    rw [List.foldl_cons]
    split
    · rfl
    · rfl

/-- The types of factories and their interfaces. -/
def factoryTypes : List ArtifactType := [.factory, .factoryInterface]

private theorem eq_or_of_mem_factoryTypes {t : ArtifactType} (ht : t ∈ factoryTypes) :
    t = .factory ∨ t = .factoryInterface := by
  simpa [factoryTypes] using ht

/-- **A factory that is not declared lists the products of its family**, and so does the
interface, if what is declared of it lists nothing. -/
theorem CommandsBound.products_of_find?_merged (hbound : d.CommandsBound)
    (hundeclared : d.has .factory family = false) {t : ArtifactType} (ht : t ∈ factoryTypes)
    (hread : ∀ spec, d.sections.find? t family = some spec → spec.products = []) {spec : Spec}
    (h : d.assemble.addInterfaces.find? t family = some spec) :
    spec.products = stockOf d.assemble.addInterfaces.ofType family := by
  have hreaching : d.reaching t family = (d.familyProducts family).map (.product family) := by
    rcases eq_or_of_mem_factoryTypes ht with rfl | rfl
    · rw [reaching_factory, reaching_factoryInterface hundeclared]
    · exact reaching_factoryInterface hundeclared
  have hown : ((d.sections.find? t family).getD {}).products = [] := by
    cases hfind : d.sections.find? t family with
    | none => rfl
    | some own => exact hread own hfind
  rw [Sections.find?_addInterfaces_of_ne (ne_of_mem_of_not_mem ht (by decide)),
    find?_assemble, hreaching] at h
  rw [products_of_foldl h, hown, appendNew_nil, hbound.eraseDups_familyProducts, stockOf_merged]

/-- What factories list is what declarations bring. -/
theorem CommandsBound.mem_stockOf_merged_iff (hbound : d.CommandsBound) {p : Product} :
    p ∈ stockOf d.assemble.addInterfaces.ofType family ↔ (family, p) ∈ d.products := by
  rw [stockOf_merged, ← hbound.eraseDups_familyProducts, List.mem_eraseDups, familyProducts]
  simp

theorem CommandsBound.nodup_stockOf_merged (hbound : d.CommandsBound) :
    (stockOf d.assemble.addInterfaces.ofType family).Nodup := by
  rw [stockOf_merged, ← hbound.eraseDups_familyProducts]
  exact nodup_eraseDups _

/-- A factory that is not declared is there if it lists something. -/
theorem CommandsBound.has_merged_factory_iff (hbound : d.CommandsBound)
    (hundeclared : d.has .factory family = false) {t : ArtifactType} (ht : t ∈ factoryTypes) :
    d.assemble.addInterfaces.has t family = true
      ↔ stockOf d.assemble.addInterfaces.ofType family ≠ [] ∨ family ∈ d.declared t := by
  have hbrought : family ∈ d.broughtNames t
      ↔ stockOf d.assemble.addInterfaces.ofType family ≠ [] := by
    have hproducts : family ∈ d.broughtNames t ↔ ∃ p, (family, p) ∈ d.products := by
      rcases eq_or_of_mem_factoryTypes ht with rfl | rfl
      · exact and_iff_right hundeclared
      · exact and_iff_right hundeclared
    rw [hproducts, ne_eq, List.eq_nil_iff_forall_not_mem]
    simp only [hbound.mem_stockOf_merged_iff, Classical.not_forall, Classical.not_not]
  rw [Sections.has, Sections.find?_addInterfaces_of_ne (ne_of_mem_of_not_mem ht (by decide)),
    ← Sections.has, has_assemble_iff, Set.mem_union, hbrought, or_comm]

/-- A declared factory and its interface are as they were. -/
theorem find?_merged_of_declared_factory (hdeclared : d.has .factory family = true)
    {t : ArtifactType} (ht : t ∈ factoryTypes) :
    d.assemble.addInterfaces.find? t family = d.sections.find? t family := by
  rw [Sections.find?_addInterfaces_of_ne (ne_of_mem_of_not_mem ht (by decide)),
    find?_assemble_of_not_mem]
  have hnot : ¬ d.has .factory family = false := by rw [hdeclared]; exact Bool.noConfusion
  rcases eq_or_of_mem_factoryTypes ht with rfl | rfl
  · exact fun h => hnot h.1
  · exact fun h => hnot h.1

/-- **What factories list is there.** -/
theorem CommandsBound.has_of_mem_stockOf (hbound : d.CommandsBound) {p : Product}
    (hp : p ∈ stockOf d.assemble.addInterfaces.ofType family) :
    d.assemble.addInterfaces.has p.type p.name = true := by
  obtain ⟨htype, hhas⟩ := of_mem_products (hbound.mem_stockOf_merged_iff.mp hp)
  rw [Sections.has,
    Sections.find?_addInterfaces_of_ne (ne_of_mem_of_not_mem htype (by decide))]
  exact hhas

end Declaration

/-! ### Factories in a blueprint -/

theorem Blueprint.stock_ofSections (domain : String) (s : Sections) (family : String) :
    (ofSections domain s).stock family = stockOf s.ofType family := by
  have hsection (t : ArtifactType) :
      ((ofSections domain s).section? t).getD ∅ = s.ofType t := by
    have hlaid := sectionIn?_ofSections domain s t.layer t
    rw [if_pos rfl] at hlaid
    show ((ofSections domain s).sectionIn? t.layer t).getD ∅ = _
    rw [hlaid, Sections.getD_filter_isEmpty]
    rfl
  simp only [stock, hsection]

/-- **What factories list.**  Of a family whose factory is not declared, the factory and its
interface list the members, each once and in order, and all of them are there; the two are
absent when there are no members, unless the interface is declared.  A declared factory and
its interface list nothing. -/
theorem Domain.products_of_factories {dom : Domain} {b : Blueprint} (h : dom.expand = .ok b) :
    ∃ d, Declaration.ofDomain dom = .ok d ∧ ∀ family,
      (family ∉ d.declared .factory →
        (∀ t ∈ [ArtifactType.factory, .factoryInterface], ∀ spec, b.get? t family = some spec →
          spec.products = b.stock family) ∧
        (b.has .factory family = true ↔ b.stock family ≠ []) ∧
        (b.has .factoryInterface family = true
          ↔ b.stock family ≠ [] ∨ family ∈ d.declared .factoryInterface)) ∧
      (family ∈ d.declared .factory →
        b.has .factory family = true ∧
        ∀ t ∈ [ArtifactType.factory, .factoryInterface], ∀ spec, b.get? t family = some spec →
          spec.products = []) ∧
      (b.stock family).Nodup ∧
      ∀ p ∈ b.stock family, b.has p.type p.name = true := by
  obtain ⟨-, d, hd, s, hs, rfl⟩ := Domain.expand_eq_ok_iff.mp h
  have hbound := (Declaration.commandsBound_of_merge hs).withDefaults
  obtain ⟨-, -, -, rfl⟩ := Declaration.merge_eq_ok_iff.mp hs
  -- nothing is derived of factories, and what is read of them lists nothing
  have hderived {t : ArtifactType} (ht : t ∈ Declaration.factoryTypes) :
      t ∉ Declaration.derivableTypes :=
    (by decide : ∀ t ∈ Declaration.factoryTypes, t ∉ Declaration.derivableTypes) t ht
  have hread {t : ArtifactType} (ht : t ∈ Declaration.factoryTypes) {family : String}
      {spec : Spec} (hspec : d.withDefaults.sections.find? t family = some spec) :
      spec.products = [] := by
    rw [Declaration.find?_withDefaults_of_not_mem (hderived ht)] at hspec
    exact (Declaration.asRead_of_ofDomain hd hspec).2.products
  refine ⟨d, hd, fun family => ?_⟩
  have hfactory : d.withDefaults.has .factory family = true ↔ family ∈ d.declared .factory := by
    rw [← Declaration.declared_withDefaults_of_not_mem (by decide)]
    rfl
  simp only [Blueprint.stock_ofSections, Blueprint.get?_ofSections, Blueprint.has_ofSections]
  refine ⟨fun hnew => ?_, fun hdeclared => ?_, hbound.nodup_stockOf_merged,
    fun p => hbound.has_of_mem_stockOf⟩
  · have hundeclared := Bool.eq_false_iff.mpr (mt hfactory.mp hnew)
    refine ⟨fun t ht spec hspec => ?_, ?_, ?_⟩
    · exact hbound.products_of_find?_merged hundeclared ht (fun _ => hread ht) hspec
    · rw [hbound.has_merged_factory_iff hundeclared (by decide),
        Declaration.declared_withDefaults_of_not_mem (by decide)]
      exact or_iff_left hnew
    · rw [hbound.has_merged_factory_iff hundeclared (by decide),
        Declaration.declared_withDefaults_of_not_mem (by decide)]
  · have hkept {t : ArtifactType} (ht : t ∈ Declaration.factoryTypes) :=
      Declaration.find?_merged_of_declared_factory (hfactory.mpr hdeclared) ht
    refine ⟨?_, fun t ht spec hspec => ?_⟩
    · rw [Sections.has, hkept (by decide)]
      exact hfactory.mpr hdeclared
    · rw [hkept ht] at hspec
      exact hread ht hspec

/-- Two commands share an event, one factory is declared and one interface of another. -/
def depotDomain : Domain where
  name := "Depot"
  sections := .ofList
    [("entity", .map [("crate", .null)]), ("value_object", .map [("weight", .null)]),
      ("command", .map
        [("load", .map [("entity", .string "crate"),
            ("event", .map [("loaded", .null), ("moved", .null)])]),
          ("ship", .map [("entity", .string "crate"),
            ("event", .map [("moved", .null), ("shipped", .null)])])]),
      ("factory", .map [("value_object", .null)]),
      ("factory_interface", .map [("service", .null)])]

/-- The shared event is listed once, and the interface without a factory lists nothing. -/
theorem products_of_factories_depotDomain :
    ∃ b d, depotDomain.expand = .ok b ∧ Declaration.ofDomain depotDomain = .ok d ∧
      b.stock "event" = [⟨"loaded", .event⟩, ⟨"moved", .event⟩, ⟨"shipped", .event⟩] ∧
      b.stock "service" = [] ∧
      ∀ family,
        (family ∉ d.declared .factory →
          (∀ t ∈ [ArtifactType.factory, .factoryInterface], ∀ spec, b.get? t family = some spec →
            spec.products = b.stock family) ∧
          (b.has .factory family = true ↔ b.stock family ≠ []) ∧
          (b.has .factoryInterface family = true
            ↔ b.stock family ≠ [] ∨ family ∈ d.declared .factoryInterface)) ∧
        (family ∈ d.declared .factory →
          b.has .factory family = true ∧
          ∀ t ∈ [ArtifactType.factory, .factoryInterface], ∀ spec, b.get? t family = some spec →
            spec.products = []) ∧
        (b.stock family).Nodup ∧
        ∀ p ∈ b.stock family, b.has p.type p.name = true := by
  have hfacts : depotDomain.anyBlueprint (fun b =>
      decide (b.stock "event" = [⟨"loaded", .event⟩, ⟨"moved", .event⟩, ⟨"shipped", .event⟩] ∧
        b.stock "service" = [])) = true := by
    decide +kernel
  obtain ⟨b, hb, hpass⟩ := Domain.exists_of_anyBlueprint hfacts
  obtain ⟨hevent, hservice⟩ := of_decide_eq_true hpass
  obtain ⟨d, hd, hfactories⟩ := Domain.products_of_factories hb
  exact ⟨b, d, hb, hd, hevent, hservice, hfactories⟩

end Scaffold
