import Scaffold.Proofs.Expansion.Gains

/-!
# What factories build

The factory of a family and its interface are two entries, and every product that is
brought is brought to both.  So where the author declared neither, they are the same; and
what a factory builds besides the products that its author listed is an artifact of the
declaration, which is there.

## Main definitions

* `Declaration.productTypes` — the types of what factories build.

## Main results

* `Declaration.find?_assemble_factoryInterface_of_none` — the two entries are the same.
* `Declaration.mem_products_of_find?_assemble` — where the products of a factory come from.
* `Declaration.of_mem_products` — the products are there.
-/

namespace Scaffold

@[simp] theorem Spec.mem_products_addProduct {s : Spec} {p q : Product} :
    p ∈ (s.addProduct q).products ↔ p ∈ s.products ∨ p = q := by
  unfold addProduct
  split
  · next h =>
    refine ⟨.inl, ?_⟩
    rintro (hp | rfl)
    · exact hp
    · exact h
  · rw [List.mem_append, List.mem_singleton]

namespace Declaration

variable {d : Declaration} {family : String}

/-! ### A factory and its interface -/

/-- Whatever is brought to a factory is brought to its interface. -/
theorem reaching_factory (d : Declaration) (family : String) :
    d.reaching .factory family = d.reaching .factoryInterface family := by
  unfold reaching
  refine List.filter_congr fun a ha => ?_
  -- only products reach the two, and they reach both
  cases mem_additions_iff.mp ha with
  | product hp undeclared => rfl
  | _ => rfl

/-- **A factory and its interface are the same** where the author declared neither. -/
theorem find?_assemble_factoryInterface_of_none
    (hfactory : d.sections.find? .factory family = none)
    (hinterface : d.sections.find? .factoryInterface family = none) :
    d.assemble.find? .factoryInterface family = d.assemble.find? .factory family := by
  rw [find?_assemble, find?_assemble, reaching_factory, hfactory, hinterface]

/-! ### Where products come from -/

/-- One product after the other: each was listed before, or is one of them. -/
private theorem mem_products_of_foldl {as : List Addition}
    (has : ∀ a ∈ as, ∃ q, (family, q) ∈ d.products ∧ a = .product family q) {x : Option Spec}
    {spec : Spec} (h : as.foldl (fun x a => some (a.makes x)) x = some spec) {p : Product}
    (hp : p ∈ spec.products) :
    (∃ own, x = some own ∧ p ∈ own.products) ∨ (family, p) ∈ d.products := by
  induction as generalizing x with
  | nil => exact .inl ⟨spec, h, hp⟩
  | cons a as ih =>
    obtain ⟨⟨q, hq, rfl⟩, hrest⟩ := List.forall_mem_cons.mp has
    rcases ih hrest h with ⟨own, hown, hmem⟩ | hmem
    · obtain rfl := Option.some.inj hown
      rcases Spec.mem_products_addProduct.mp hmem with hmem | rfl
      · cases x with
        | none => cases hmem
        | some own => exact .inl ⟨own, rfl, hmem⟩
      · exact .inr hq
    · exact .inr hmem

/-- **A product of a factory** was listed by its author, or the declaration brings it. -/
theorem mem_products_of_find?_assemble {t : ArtifactType}
    (ht : t = .factory ∨ t = .factoryInterface) {spec : Spec}
    (h : d.assemble.find? t family = some spec) {p : Product} (hp : p ∈ spec.products) :
    (∃ own, d.sections.find? t family = some own ∧ p ∈ own.products) ∨
      (family, p) ∈ d.products := by
  rw [find?_assemble] at h
  refine mem_products_of_foldl (fun a ha => ?_) h hp
  obtain ⟨hbrings, hr⟩ := mem_reaching_iff.mp ha
  cases hbrings with
  | product hq undeclared =>
    obtain ⟨-, rfl⟩ := Addition.reaches_product_iff.mp hr
    exact ⟨_, hq, rfl⟩
  | _ => rcases ht with rfl | rfl <;> cases hr

/-! ### The products -/

/-- The types of the products that declarations bring. -/
def productTypes : List ArtifactType :=
  [.valueObject, .entity, .readModel, .service, .command, .commandTask, .event]

/-- **What factories build is there**, with everything that declarations bring. -/
theorem of_mem_products {p : Product} (h : (family, p) ∈ d.products) :
    p.type ∈ productTypes ∧ d.assemble.has p.type p.name = true := by
  rw [has_assemble_iff]
  have hown {t : ArtifactType} {name : String} {spec : Spec} (ht : t ∈ productTypes)
      (hfind : d.sections.find? t name = some spec) :
      t ∈ productTypes ∧ (name ∈ d.declared t ∨ name ∈ d.broughtNames t) :=
    ⟨ht, .inl (mem_declared_iff.mpr ⟨spec, hfind⟩)⟩
  rcases mem_products_iff.mp h with ⟨name, spec, hfind, -, rfl⟩ | ⟨name, spec, hfind, -, rfl⟩ |
    ⟨name, spec, hfind, -, rfl⟩ | ⟨name, spec, hfind, -, rfl⟩ | ⟨name, command, hfind, hp⟩
  · exact hown (by simp [productTypes]) hfind
  · exact hown (by simp [productTypes]) hfind
  · exact hown (by simp [productTypes]) hfind
  · exact hown (by simp [productTypes]) hfind
  · cases bound : command.entity with
    | none =>
      rw [commandProducts, bound] at hp
      cases hp
    | some entity =>
      -- the command itself is declared, its task and its events are brought
      rcases (mem_commandProducts_iff bound).mp hp with heq | heq | ⟨event, outcome, emits, heq⟩
      · obtain ⟨-, rfl⟩ := Prod.mk.inj heq
        exact hown (by simp [productTypes]) hfind
      · obtain ⟨-, rfl⟩ := Prod.mk.inj heq
        exact ⟨by simp [productTypes], .inr ⟨command, entity, hfind, bound⟩⟩
      · obtain ⟨-, rfl⟩ := Prod.mk.inj heq
        exact ⟨by simp [productTypes], .inr ⟨name, command, entity, outcome, hfind, bound, emits⟩⟩

end Declaration

end Scaffold
