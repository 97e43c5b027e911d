import Scaffold.Expansion.Additions
import Scaffold.Proofs.Sections

/-!
# What additions do

An addition reaches one entry, or the two factories of a family, and what it makes of
an entry depends on that entry alone.  So the additions can be read entry by entry:
those that do not reach an entry are left out, and those that do are folded over what
stood there.

## Main definitions

* `Addition.reaches`, `Addition.makes` — where an addition works, and what it makes.

## Main results

* `Sections.find?_add` — one addition.
* `Sections.find?_foldl_add`, `Sections.has_foldl_add` — a run of additions.
* `Sections.mem_interfaceAdditions_iff`, `Sections.has_addInterfaces_iff` — the
  interfaces of repositories.
-/

namespace Scaffold

/-! ### One addition -/

namespace Addition

/-- The addition works on the entry of a type and a name. -/
def reaches (t : ArtifactType) (name : String) : Addition → Bool
  | settled n _ => t = .valueObject && n = name
  | variant u n _ => t = u && n = name
  | product family _ => (t = .factory || t = .factoryInterface) && family = name
  | task entity _ _ => t = .repositoryTask && entity = name

/-- What the addition makes of an entry that it reaches. -/
def makes (x : Option Spec) : Addition → Spec
  | settled _ spec => spec
  | variant _ _ spec => x.getD spec
  | product _ p => withProduct p x
  | task entity command method => addTask entity command method x

theorem reaches_settled_iff {t : ArtifactType} {name n : String} {spec : Spec} :
    (settled n spec).reaches t name = true ↔ t = .valueObject ∧ n = name := by
  rw [reaches, Bool.and_eq_true, decide_eq_true_eq, decide_eq_true_eq]

theorem reaches_variant_iff {t u : ArtifactType} {name n : String} {spec : Spec} :
    (variant u n spec).reaches t name = true ↔ t = u ∧ n = name := by
  rw [reaches, Bool.and_eq_true, decide_eq_true_eq, decide_eq_true_eq]

theorem reaches_product_iff {t : ArtifactType} {name family : String} {p : Product} :
    (product family p).reaches t name = true
      ↔ (t = .factory ∨ t = .factoryInterface) ∧ family = name := by
  rw [reaches, Bool.and_eq_true, Bool.or_eq_true, decide_eq_true_eq, decide_eq_true_eq,
    decide_eq_true_eq]

theorem reaches_task_iff {t : ArtifactType} {name entity command : String} {method : Method} :
    (task entity command method).reaches t name = true ↔ t = .repositoryTask ∧ entity = name := by
  rw [reaches, Bool.and_eq_true, decide_eq_true_eq, decide_eq_true_eq]

end Addition

namespace Sections

/-- **An addition changes what it reaches**, and nothing else. -/
theorem find?_add (s : Sections) (a : Addition) (t : ArtifactType) (name : String) :
    (s.add a).find? t name
      = if a.reaches t name then some (a.makes (s.find? t name)) else s.find? t name := by
  cases a with
  | settled n spec =>
    rw [add, find?_update, Addition.makes]
    simp only [Addition.reaches_settled_iff, eq_comm (a := t)]
  | variant u n spec =>
    rw [add, find?_register, Addition.makes]
    simp only [Addition.reaches_variant_iff, eq_comm (a := t)]
  | task entity command method =>
    rw [add, find?_update, Addition.makes]
    simp only [Addition.reaches_task_iff, eq_comm (a := t)]
  | product family p =>
    -- the two factories are two entries, so the second change does not see the first
    rw [add, find?_update, find?_update, Addition.makes]
    simp only [Addition.reaches_product_iff]
    by_cases hn : family = name
    · by_cases hi : t = .factoryInterface
      · subst hi
        simp [hn]
      · by_cases hf : t = .factory
        · subst hf
          simp [hn]
        · rw [if_neg fun h => hi h.1.symm, if_neg fun h => hf h.1.symm,
            if_neg fun h => h.1.elim hf hi]
    · rw [if_neg fun h => hn h.2, if_neg fun h => hn h.2, if_neg fun h => hn h.2]

/-! ### A run of additions -/

/-- **A run of additions, read at one entry**: those that reach it, folded over what
stood there. -/
theorem find?_foldl_add (as : List Addition) (s : Sections) (t : ArtifactType) (name : String) :
    (as.foldl add s).find? t name
      = (as.filter (Addition.reaches t name)).foldl (fun x a => some (a.makes x))
          (s.find? t name) := by
  induction as generalizing s with
  | nil => rfl
  | cons a as ih =>
    rw [List.foldl_cons, ih, find?_add]
    by_cases h : a.reaches t name
    · rw [if_pos h, List.filter_cons_of_pos h, List.foldl_cons]
    · rw [if_neg h, List.filter_cons_of_neg h]

private theorem isSome_foldl_makes (as : List Addition) (x : Option Spec) :
    (as.foldl (fun x a => some (a.makes x)) x).isSome = true ↔ x.isSome = true ∨ as ≠ [] := by
  induction as generalizing x with
  | nil => simp
  | cons a as ih => simp [ih]

/-- **A run of additions brings what its additions reach**, and takes nothing away. -/
theorem has_foldl_add {as : List Addition} {s : Sections} {t : ArtifactType} {name : String} :
    (as.foldl add s).has t name = true
      ↔ s.has t name = true ∨ ∃ a ∈ as, a.reaches t name = true := by
  rw [has, find?_foldl_add, isSome_foldl_makes, has, ne_eq, List.filter_eq_nil_iff]
  simp only [Classical.not_forall, Classical.not_not, exists_prop]

/-- Additions of new artifacts only leave an entry as it is. -/
theorem foldl_makes_of_variants {as : List Addition} {spec : Spec}
    (h : ∀ a ∈ as, ∃ t name s, a = .variant t name s) :
    as.foldl (fun x a => some (a.makes x)) (some spec) = some spec := by
  induction as with
  | nil => rfl
  | cons a as ih =>
    obtain ⟨t, name, s, rfl⟩ := h a List.mem_cons_self
    rw [List.foldl_cons, Addition.makes, Option.getD_some]
    exact ih fun b hb => h b (List.mem_cons_of_mem _ hb)

/-! ### The interfaces of repositories -/

/-- **The interfaces that are added** are those of the concrete repositories that are
not told to have none. -/
theorem mem_interfaceAdditions_iff {s : Sections} {a : Addition} :
    a ∈ s.interfaceAdditions
      ↔ ∃ concrete ∈ ArtifactType.repositories, ∃ name spec, s.find? concrete name = some spec ∧
          spec.repositoryInterface = true ∧
          a = .variant .repositoryInterface (repositoryInterfaceKey concrete name)
            (repositoryInterfaceSpec concrete name spec) := by
  simp only [interfaceAdditions, List.mem_flatMap, List.mem_map, List.mem_filter, Prod.exists,
    mem_entriesAt_iff, and_assoc, eq_comm (a := a)]

private theorem variants_of_filter_interfaceAdditions (s : Sections) (t : ArtifactType)
    (name : String) : ∀ a ∈ s.interfaceAdditions.filter (Addition.reaches t name),
      ∃ u n spec, a = .variant u n spec := by
  intro a ha
  obtain ⟨concrete, -, n, spec, -, -, rfl⟩ :=
    mem_interfaceAdditions_iff.mp (List.mem_filter.mp ha).1
  exact ⟨_, _, _, rfl⟩

/-- The interfaces stand in a section of their own. -/
theorem find?_addInterfaces_of_ne {t : ArtifactType} (ht : t ≠ .repositoryInterface)
    (s : Sections) (name : String) : s.addInterfaces.find? t name = s.find? t name := by
  have hnil : s.interfaceAdditions.filter (Addition.reaches t name) = [] := by
    rw [List.filter_eq_nil_iff]
    intro a ha
    obtain ⟨concrete, -, n, spec, -, -, rfl⟩ := mem_interfaceAdditions_iff.mp ha
    rw [Addition.reaches_variant_iff]
    exact fun h => ht h.1
  rw [addInterfaces, find?_foldl_add, hnil, List.foldl_nil]

/-- A declared interface of a repository is left as it is. -/
theorem find?_addInterfaces_of_some {s : Sections} {t : ArtifactType} {name : String}
    {spec : Spec} (h : s.find? t name = some spec) :
    s.addInterfaces.find? t name = some spec := by
  rw [addInterfaces, find?_foldl_add, h,
    foldl_makes_of_variants (variants_of_filter_interfaceAdditions s t name)]

/-- Where only new artifacts are added, an entry is an old one or that of an addition. -/
theorem foldl_makes_cases {as : List Addition} {x : Option Spec} {spec : Spec}
    (h : ∀ a ∈ as, ∃ t name s, a = .variant t name s)
    (hfold : as.foldl (fun x a => some (a.makes x)) x = some spec) :
    x = some spec ∨ ∃ t name, .variant t name spec ∈ as := by
  cases x with
  | some own =>
    rw [foldl_makes_of_variants h] at hfold
    exact .inl hfold
  | none =>
    cases as with
    | nil => cases hfold
    | cons a as =>
      -- the first addition makes the entry, and the others leave it
      have ⟨⟨t, name, s, hvariant⟩, hrest⟩ := List.forall_mem_cons.mp h
      subst hvariant
      rw [List.foldl_cons, Addition.makes, Option.getD_none, foldl_makes_of_variants hrest] at hfold
      obtain rfl := Option.some.inj hfold
      exact .inr ⟨t, name, List.mem_cons_self⟩

/-- An interface of a repository was there before, or a repository brought it. -/
theorem find?_addInterfaces_cases {s : Sections} {key : String} {spec : Spec}
    (h : s.addInterfaces.find? .repositoryInterface key = some spec) :
    s.find? .repositoryInterface key = some spec ∨
      ∃ concrete ∈ ArtifactType.repositories, ∃ name own, s.find? concrete name = some own ∧
        repositoryInterfaceKey concrete name = key ∧
        spec = repositoryInterfaceSpec concrete name own := by
  rw [addInterfaces, find?_foldl_add] at h
  rcases foldl_makes_cases (variants_of_filter_interfaceAdditions s _ key) h with h | ⟨_, _, hmem⟩
  · exact .inl h
  · obtain ⟨hmem, hreaches⟩ := List.mem_filter.mp hmem
    obtain ⟨concrete, hc, n, own, hown, -, heq⟩ := mem_interfaceAdditions_iff.mp hmem
    obtain ⟨-, rfl, rfl⟩ := Addition.variant.inj heq
    exact .inr ⟨concrete, hc, n, own, hown, (Addition.reaches_variant_iff.mp hreaches).2, rfl⟩

theorem has_addInterfaces_iff {s : Sections} {key : String} :
    s.addInterfaces.has .repositoryInterface key = true
      ↔ s.has .repositoryInterface key = true ∨
        ∃ concrete ∈ ArtifactType.repositories, ∃ name spec, s.find? concrete name = some spec ∧
          spec.repositoryInterface = true ∧ repositoryInterfaceKey concrete name = key := by
  rw [addInterfaces, has_foldl_add]
  refine or_congr_right ⟨?_, ?_⟩
  · rintro ⟨a, ha, hr⟩
    obtain ⟨concrete, hmem, name, spec, h, flag, rfl⟩ := mem_interfaceAdditions_iff.mp ha
    exact ⟨concrete, hmem, name, spec, h, flag, (Addition.reaches_variant_iff.mp hr).2⟩
  · rintro ⟨concrete, hmem, name, spec, h, flag, rfl⟩
    exact ⟨_, mem_interfaceAdditions_iff.mpr ⟨concrete, hmem, name, spec, h, flag, rfl⟩,
      Addition.reaches_variant_iff.mpr ⟨rfl, rfl⟩⟩

end Sections

end Scaffold
