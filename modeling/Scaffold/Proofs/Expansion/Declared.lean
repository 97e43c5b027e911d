import Scaffold.Proofs.Expansion.Names

/-!
# What the author wrote

Expansion adds to what the author declared and does not change it.  There are three
places where a declared entry gains something: a value object with a reserved name
and no kind is an identity, a task repository gets the methods of its entity's
commands below its own, and the interface of a factory gets the products of its
family, unless the author declared the factory too.

## Main definitions

* `Declaration.kept` — what becomes of a declared entry.

## Main results

* `Domain.get?_of_declared` — declared entries in a blueprint.
-/

namespace Scaffold

/-- A list of products with further ones, each unless it is there. -/
def appendNew (products more : List Product) : List Product :=
  more.foldl (fun products p => if p ∈ products then products else products ++ [p]) products

namespace Declaration

/-- What becomes of a declared entry. -/
def kept (d : Declaration) (t : ArtifactType) (name : String) (spec : Spec) : Spec :=
  match t with
  | .valueObject =>
    if spec.kind = none ∧ (name = "uuid" ∨ name = "process_uuid") then
      { spec with kind := some "identity_uuid" }
    else spec
  | .repositoryTask =>
    { spec with methods := (Dict.ofList (d.tasksOf name)).union spec.methods }
  | .factoryInterface =>
    if d.has .factory name then spec
    else { spec with products := appendNew spec.products (d.withDefaults.familyProducts name) }
  | _ => spec

variable {d : Declaration} {name : String} {spec : Spec}

/-! ### Entry by entry -/

private theorem settleKind_eq_kept : settleKind name spec = d.kept .valueObject name spec := by
  unfold settleKind kept isReservedIdentity
  cases spec.kind with
  | some kind => simp
  | none =>
    simp only [Option.isNone_none, Bool.true_and, Bool.or_eq_true, beq_iff_eq, true_and]
    rfl

/-- A declared value object is settled, however often it is met. -/
private theorem find?_assemble_valueObject (h : d.sections.find? .valueObject name = some spec) :
    d.assemble.find? .valueObject name = some (settleKind name spec) := by
  have hall : ∀ a ∈ d.reaching .valueObject name, a = .settled name (settleKind name spec) := by
    intro a ha
    obtain ⟨hb, hr⟩ := mem_reaching_iff.mp ha
    cases hb with
    | settled h' =>
      obtain ⟨-, rfl⟩ := Addition.reaches_settled_iff.mp hr
      rw [h] at h'
      obtain rfl := Option.some.inj h'
      rfl
    | _ => simp [Addition.reaches] at hr
  have hmem : Addition.settled name (settleKind name spec) ∈ d.reaching .valueObject name :=
    mem_reaching_iff.mpr ⟨.settled h, Addition.reaches_settled_iff.mpr ⟨rfl, rfl⟩⟩
  -- the additions all say the same, so the last one says it too
  have hfold (as : List Addition) (x : Option Spec) (hne : as ≠ [])
      (has : ∀ a ∈ as, a = .settled name (settleKind name spec)) :
      as.foldl (fun x a => some (a.makes x)) x = some (settleKind name spec) := by
    induction as generalizing x with
    | nil => exact absurd rfl hne
    | cons a as ih =>
      rw [List.foldl_cons, has a List.mem_cons_self]
      cases as with
      | nil => rfl
      | cons b bs =>
        exact ih _ (List.cons_ne_nil b bs) fun c hc => has c (List.mem_cons_of_mem _ hc)
  rw [find?_assemble, hfold _ _ (List.ne_nil_of_mem hmem) hall]

theorem foldl_product (family : String) (ps : List Product) (spec : Spec) :
    (ps.map (Addition.product family)).foldl (fun x a => some (a.makes x)) (some spec)
      = some { spec with products := appendNew spec.products ps } := by
  induction ps generalizing spec with
  | nil => rfl
  | cons p ps ih =>
    rw [List.map_cons, List.foldl_cons, Addition.makes, ih]
    unfold appendNew withProduct Spec.addProduct
    rw [List.foldl_cons, Option.getD_some]
    split
    · rfl
    · rfl

private theorem find?_assemble_factoryInterface
    (h : d.sections.find? .factoryInterface name = some spec) :
    d.assemble.find? .factoryInterface name
      = some (if d.has .factory name then spec
          else { spec with products := appendNew spec.products (d.familyProducts name) }) := by
  cases hf : d.has .factory name with
  | true =>
    rw [find?_assemble_of_not_mem, h, if_pos rfl]
    rintro ⟨hf', -⟩
    rw [hf] at hf'
    cases hf'
  | false =>
    rw [find?_assemble, reaching_factoryInterface hf, h, foldl_product, if_neg Bool.false_ne_true]

/-- Other types are only given new entries, and factories only where none is declared. -/
private theorem find?_assemble_of_some {t : ArtifactType} (h : d.sections.find? t name = some spec)
    (hv : t ≠ .valueObject) (hr : t ≠ .repositoryTask) (hf : t ≠ .factoryInterface) :
    d.assemble.find? t name = some spec := by
  rw [find?_assemble, h]
  refine Sections.foldl_makes_of_variants fun a ha => ?_
  obtain ⟨hb, hreach⟩ := mem_reaching_iff.mp ha
  cases a with
  | variant u n s => exact ⟨u, n, s, rfl⟩
  | settled n s => exact absurd (Addition.reaches_settled_iff.mp hreach).1 hv
  | task e c m => exact absurd (Addition.reaches_task_iff.mp hreach).1 hr
  | product family p =>
    obtain ⟨rfl | rfl, rfl⟩ := Addition.reaches_product_iff.mp hreach
    · -- a declared factory is given no products
      cases hb with
      | product _ undeclared =>
        rw [Sections.has_eq_false_iff.mp undeclared] at h
        cases h
    · exact absurd rfl hf

/-! ### Declared entries in a blueprint -/

theorem tasksOf_withDefaults (d : Declaration) (entity : String) :
    d.withDefaults.tasksOf entity = d.tasksOf entity := by
  rw [tasksOf, entries_withDefaults_of_not_mem (by decide), tasksOf]

/-- What becomes of a declared entry when everything is added. -/
theorem find?_assemble_of_declared {t : ArtifactType} (h : d.sections.find? t name = some spec) :
    d.withDefaults.assemble.find? t name = some (d.kept t name spec) := by
  have h' := find?_withDefaults_of_some h
  -- the three types that gain something, and then all others at once
  by_cases hv : t = .valueObject
  · subst hv
    rw [find?_assemble_valueObject h', settleKind_eq_kept]
  by_cases hr : t = .repositoryTask
  · subst hr
    rw [find?_assemble_repositoryTask_of_some h', tasksOf_withDefaults]
    rfl
  by_cases hf : t = .factoryInterface
  · subst hf
    have hhas : d.withDefaults.has .factory name = d.has .factory name := by
      rw [has, Sections.has, find?_withDefaults_of_not_mem (by decide), ← Sections.has, ← has]
    rw [find?_assemble_factoryInterface h', hhas]
    rfl
  rw [find?_assemble_of_some h' hv hr hf]
  congr 1
  unfold kept
  split
  · exact absurd rfl hv
  · exact absurd rfl hr
  · exact absurd rfl hf
  · rfl

/-- A declared entry stays bound to its entity. -/
theorem entity_kept (d : Declaration) (t : ArtifactType) (name : String) (spec : Spec) :
    (d.kept t name spec).entity = spec.entity := by
  unfold kept
  split
  · split
    · rfl
    · rfl
  · rfl
  · split
    · rfl
    · rfl
  · rfl

/-- **The entities of concrete repositories**: a declared one names its own, and any other
is called after the entity it is bound to. -/
theorem entity_of_find?_assemble {concrete : ArtifactType}
    (hc : concrete ∈ ArtifactType.repositories)
    (h : d.withDefaults.assemble.find? concrete name = some spec) :
    (∃ own, d.sections.find? concrete name = some own ∧ spec.entity = own.entity) ∨
      spec.entity = some name ∧ (name ∈ d.derivedNames concrete ∨ name ∈ d.boundEntities) := by
  cases hown : d.sections.find? concrete name with
  | some own =>
    rw [find?_assemble_of_declared hown] at h
    obtain rfl := Option.some.inj h
    exact .inl ⟨own, rfl, entity_kept d concrete name own⟩
  | none =>
    right
    -- of all repositories, only those of tasks are made by commands
    by_cases ht : concrete = .repositoryTask
    · subst ht
      have hnone : d.withDefaults.sections.find? .repositoryTask name = none := by
        rw [find?_withDefaults_of_not_mem (by decide), hown]
      have hbound : name ∈ d.withDefaults.boundEntities := by
        by_contra hn
        rw [find?_assemble_of_not_mem hn, hnone] at h
        cases h
      rw [find?_assemble_repositoryTask_of_none hnone hbound] at h
      obtain rfl := Option.some.inj h
      exact ⟨rfl, .inr (boundEntities_withDefaults d ▸ hbound)⟩
    · rw [find?_assemble_repository hc ht, find?_withDefaults, hown] at h
      split at h
      · exact ⟨(of_get?_derivedSection h).1,
          .inl (contains_derivedSection_iff.mp (Option.isSome_of_eq_some h))⟩
      · cases h

end Declaration

/-- **What the author declares is in the blueprint**, in every field as it was written,
apart from what three types gain. -/
theorem Domain.get?_of_declared {dom : Domain} {b : Blueprint} (h : dom.expand = .ok b) :
    ∃ d, Declaration.ofDomain dom = .ok d ∧
      ∀ t name spec, d.sections.find? t name = some spec →
        b.get? t name = some (d.kept t name spec) := by
  obtain ⟨-, d, hd, s, hs, rfl⟩ := Domain.expand_eq_ok_iff.mp h
  refine ⟨d, hd, fun t name spec hspec => ?_⟩
  obtain ⟨-, -, -, rfl⟩ := Declaration.merge_eq_ok_iff.mp hs
  rw [Blueprint.get?_ofSections]
  exact Sections.find?_addInterfaces_of_some (Declaration.find?_assemble_of_declared hspec)

theorem get?_of_declared_orderDomain :
    ∃ b d, orderDomain.expand = .ok b ∧ Declaration.ofDomain orderDomain = .ok d ∧
      ∀ t name spec, d.sections.find? t name = some spec →
        b.get? t name = some (d.kept t name spec) := by
  have hok : orderDomain.expand.isOk = true := by decide +kernel
  obtain ⟨b, hb⟩ := Except.exists_eq_ok_of_isOk hok
  obtain ⟨d, hd, hkept⟩ := Domain.get?_of_declared hb
  exact ⟨b, d, hb, hd, hkept⟩

end Scaffold
