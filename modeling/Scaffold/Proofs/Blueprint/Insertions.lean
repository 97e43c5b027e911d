import Mathlib.Data.List.Induction
import Scaffold.Proofs.Blueprint
import Scaffold.Proofs.Expansion.Interfaces

/-!
# A blueprint as a plain map

A blueprint is kept in layers, but the layer of a section follows from its type, so a
blueprint says no more than a map from types to sections.  Whatever sections are put in,
and in whatever order, every layer holds the sections of its types, and a layer is there
exactly if it has sections.  From this all answers follow, and so does the list of leaves.

## Main definitions

* `Blueprint.ofInsertions` — sections put in one after the other.
* `Sections.ofInsertions` — the plain map that they leave.
* `Blueprint.Represents` — the blueprint holds the sections of a plain map, by layer.
* `Blueprint.Mirrors` — the blueprint answers every question as a plain map does.

## Main results

* `Blueprint.Represents.insertSection` — one insertion on either side.
* `Leaf.path_inj` — a path tells the layer, the type and the name.
* `Blueprint.mirrors_ofInsertions` — **a blueprint mirrors the plain map** of its sections.
-/

namespace Scaffold

/-! ### The plain map -/

namespace Sections

/-- Put a section under its type, over what stands there; a section without entries
changes nothing. -/
def put (s : Sections) (t : ArtifactType) (entries : Section) : Sections :=
  if entries.isEmpty then s else Dict.insert s t entries

/-- The sections that are left when they are put in one after the other. -/
def ofInsertions (inserts : List (ArtifactType × Section)) : Sections :=
  inserts.foldl (fun s e => s.put e.1 e.2) ∅

/-- The sections of the types of one layer. -/
def ofLayer (s : Sections) (l : Layer) : Sections := s.filter fun t _ => t.layer = l

theorem get?_put (s : Sections) (t u : ArtifactType) (entries : Section) :
    Dict.get? (s.put t entries) u
      = if entries.isEmpty = false ∧ t = u then some entries else Dict.get? s u := by
  unfold put
  cases entries.isEmpty with
  | true => rw [if_pos rfl, if_neg fun h => Bool.noConfusion h.1]
  | false =>
    rw [if_neg Bool.false_ne_true, Dict.get?_insert]
    simp only [true_and]

theorem get?_ofLayer (s : Sections) (l : Layer) (t : ArtifactType) :
    Dict.get? (s.ofLayer l) t = if t.layer = l then Dict.get? s t else none := by
  rw [ofLayer, Dict.get?_filter]
  by_cases hl : t.layer = l
  · cases Dict.get? s t <;> simp [Option.filter, hl]
  · simp [hl]

/-- An insertion concerns the layer of its type only. -/
theorem ofLayer_put {t : ArtifactType} {entries : Section} (hentries : entries.isEmpty = false)
    (s : Sections) (l : Layer) :
    (s.put t entries).ofLayer l
      = if t.layer = l then Dict.insert (s.ofLayer l) t entries else s.ofLayer l := by
  refine Dict.ext_get? fun u => ?_
  rw [get?_ofLayer, get?_put]
  by_cases ht : t = u
  · subst ht
    by_cases hl : t.layer = l
    · rw [if_pos hl, if_pos hl, if_pos ⟨hentries, rfl⟩, Dict.get?_insert_self]
    · rw [if_neg hl, if_neg hl, get?_ofLayer, if_neg hl]
  · rw [if_neg fun h : _ ∧ _ => ht h.2, ← get?_ofLayer]
    by_cases hl : t.layer = l
    · rw [if_pos hl, Dict.get?_insert_of_ne ht]
    · rw [if_neg hl]

end Sections

/-! ### Paths of leaves -/

theorem Leaf.path_eq (l : Leaf) :
    l.path = l.layer.tag ++ "." ++ repositoryInterfaceKey l.type l.name := by
  rw [path, repositoryInterfaceKey]
  simp only [String.append_assoc]

theorem Layer.dot_not_mem_tag (l : Layer) : '.' ∉ l.tag.toList := by cases l <;> decide

/-- **A path tells the layer, the type and the name**, though the name may hold dots. -/
theorem Leaf.path_inj {l m : Leaf} :
    l.path = m.path ↔ l.layer = m.layer ∧ l.type = m.type ∧ l.name = m.name := by
  rw [path_eq, path_eq]
  refine ⟨fun h => ?_, fun ⟨hlayer, htype, hname⟩ => by rw [hlayer, htype, hname]⟩
  -- what follows the first dot is the same on both sides
  have hafter := congrArg afterDot? h
  rw [afterDot?_append l.layer.dot_not_mem_tag, afterDot?_append m.layer.dot_not_mem_tag] at hafter
  have hkey := Option.some.inj hafter
  rw [hkey, String.append_left_inj, String.append_left_inj] at h
  exact ⟨Layer.tag_injective h, repositoryInterfaceKey_inj.mp hkey⟩

namespace Blueprint

/-! ### Insertions -/

/-- A blueprint into which sections are put one after the other. -/
def ofInsertions (domain : String) (inserts : List (ArtifactType × Section)) : Blueprint :=
  inserts.foldl (fun b e => b.insertSection e.1 e.2) (new domain)

/-- The blueprint holds the sections of a plain map by layer, and no layer that has none.
No section of the map is without entries. -/
structure Represents (b : Blueprint) (s : Sections) : Prop where
  /-- Under a layer stand the sections of its types. -/
  layer? (l : Layer) :
    b.layer? l = if (s.ofLayer l).isEmpty then none else some (s.ofLayer l)
  /-- What stands under a type has entries. -/
  isEmpty_eq_false {t : ArtifactType} {entries : Section} (h : Dict.get? s t = some entries) :
    entries.isEmpty = false

theorem represents_new (domain : String) : (new domain).Represents ∅ where
  layer? _ := rfl
  isEmpty_eq_false h := by cases h

/-- **One insertion** changes the blueprint as it changes the plain map. -/
theorem Represents.insertSection {b : Blueprint} {s : Sections} (h : b.Represents s)
    (t : ArtifactType) (entries : Section) :
    (b.insertSection t entries).Represents (s.put t entries) := by
  cases hentries : entries.isEmpty with
  | true =>
    rw [Blueprint.insertSection, Sections.put, if_pos hentries, if_pos hentries]
    exact h
  | false =>
    refine ⟨fun l => ?_, fun {u} {found} hfound => ?_⟩
    · have hbefore : (b.layer? t.layer).getD ∅ = s.ofLayer t.layer := by
        rw [h.layer?]
        split
        · next hempty => exact (Dict.isEmpty_iff.mp hempty).symm
        · rfl
      have hinserted : (b.insertSection t entries).layer? l
          = if t.layer = l then some (Dict.insert (s.ofLayer t.layer) t entries)
            else b.layer? l := by
        rw [Blueprint.insertSection, if_neg (by simp [hentries]), ← hbefore]
        exact Dict.get?_insert _ _ _ _
      rw [hinserted, Sections.ofLayer_put hentries]
      by_cases hl : t.layer = l
      · subst hl
        -- something stands in this layer now
        have hsome : (Dict.insert (s.ofLayer t.layer) t entries).isEmpty = false := by
          rw [Bool.eq_false_iff, Ne, Dict.isEmpty_iff_get?]
          intro hnone
          have hself := hnone t
          rw [Dict.get?_insert_self] at hself
          cases hself
        rw [if_pos rfl, if_pos rfl, if_neg (by simp [hsome])]
      · rw [if_neg hl, if_neg hl, h.layer?]
    · rw [Sections.get?_put] at hfound
      split at hfound
      · obtain rfl := Option.some.inj hfound
        exact hentries
      · exact h.isEmpty_eq_false hfound

/-- **A run of insertions** leaves the plain map of its sections. -/
theorem represents_ofInsertions (domain : String) (inserts : List (ArtifactType × Section)) :
    (ofInsertions domain inserts).Represents (.ofInsertions inserts) := by
  induction inserts using List.reverseRecOn with
  | nil => exact represents_new domain
  | append_singleton inserts e ih =>
    rw [ofInsertions, Sections.ofInsertions, List.foldl_append, List.foldl_append]
    exact ih.insertSection e.1 e.2

theorem domain_ofInsertions (domain : String) (inserts : List (ArtifactType × Section)) :
    (ofInsertions domain inserts).domain = domain := by
  induction inserts using List.reverseRecOn with
  | nil => rfl
  | append_singleton inserts e ih =>
    rw [ofInsertions, List.foldl_append]
    exact (domain_insertSection _ e.1 e.2).trans ih

/-! ### Answers -/

namespace Represents

variable {b : Blueprint} {s : Sections} (h : b.Represents s)

include h

/-- A section stands under the layer of its type and nowhere else. -/
theorem sectionIn? (l : Layer) (t : ArtifactType) :
    b.sectionIn? l t = if t.layer = l then Dict.get? s t else none := by
  rw [Blueprint.sectionIn?, h.layer?, ← Sections.get?_ofLayer]
  split
  · next hempty => rw [Dict.isEmpty_iff.mp hempty, Dict.get?_empty, Option.bind_none]
  · rfl

theorem section? (t : ArtifactType) : b.section? t = Dict.get? s t :=
  (h.sectionIn? t.layer t).trans (if_pos rfl)

theorem get? (t : ArtifactType) (name : String) : b.get? t name = s.find? t name := by
  rw [Blueprint.get?, h.section?, Sections.find?, Sections.ofType]
  cases Dict.get? s t <;> rfl

theorem getIn? (l : Layer) (t : ArtifactType) (name : String) :
    b.getIn? l t name = if t.layer = l then s.find? t name else none := by
  have hin : b.getIn? l t name = (b.sectionIn? l t).bind (·.get? name) := rfl
  rw [hin, h.sectionIn?]
  by_cases hl : t.layer = l
  · rw [if_pos hl, if_pos hl, ← h.get?, Blueprint.get?, h.section?]
  · rw [if_neg hl, if_neg hl, Option.bind_none]

theorem mem_leaves_iff {l : Leaf} :
    l ∈ b.leaves ↔ l.layer = l.type.layer ∧ s.find? l.type l.name = some l.spec := by
  rw [Blueprint.mem_leaves_iff, h.getIn?]
  by_cases hl : l.type.layer = l.layer
  · rw [if_pos hl]
    exact (and_iff_right hl.symm).symm
  · rw [if_neg hl]
    exact iff_of_false nofun fun hleaf => hl hleaf.1.symm

/-- A layer holds something, and so does each of its sections. -/
theorem of_layer {l : Layer} {sections : Sections} (hl : b.layers.get? l = some sections) :
    sections.isEmpty = false ∧ ∀ t entries, Dict.get? sections t = some entries →
      t.layer = l ∧ entries.isEmpty = false := by
  have hlayer : b.layer? l = some sections := hl
  rw [h.layer?] at hlayer
  split at hlayer
  · cases hlayer
  · next hne =>
    obtain rfl := Option.some.inj hlayer
    refine ⟨Bool.eq_false_iff.mpr hne, fun t entries ht => ?_⟩
    rw [Sections.get?_ofLayer] at ht
    split at ht
    · next htype => exact ⟨htype, h.isEmpty_eq_false ht⟩
    · cases ht

/-- Where there is a layer there is a leaf. -/
theorem isEmpty_iff : b.isEmpty = true ↔ b.size = 0 := by
  have hsize : b.size = 0 ↔ b.leaves = [] := List.length_eq_zero_iff
  rw [hsize]
  constructor
  · intro hempty
    rw [leaves, List.isEmpty_iff.mp hempty, List.flatMap_nil]
  · intro hnone
    refine Dict.isEmpty_iff_get?.mpr fun l => ?_
    by_contra hl
    obtain ⟨sections, hl⟩ := Option.ne_none_iff_exists'.mp hl
    obtain ⟨hsections, hentries⟩ := h.of_layer hl
    obtain ⟨⟨t, entries⟩, ht⟩ :=
      List.exists_mem_of_ne_nil _ (List.isEmpty_eq_false_iff.mp hsections)
    obtain ⟨htype, hne⟩ := hentries t entries (Dict.mem_entries_iff.mp ht)
    obtain ⟨⟨name, spec⟩, hname⟩ := List.exists_mem_of_ne_nil _ (List.isEmpty_eq_false_iff.mp hne)
    have hleaf : (⟨l, t, name, spec⟩ : Leaf) ∈ b.leaves := by
      rw [Blueprint.mem_leaves_iff, Blueprint.getIn?, Blueprint.layer?, hl, Option.bind_some,
        Dict.mem_entries_iff.mp ht, Option.bind_some, Dict.mem_entries_iff.mp hname]
    rw [hnone] at hleaf
    cases hleaf

end Represents

/-! ### The mirror -/

/-- The blueprint answers every question as a plain map of sections does, and its leaves
are the entries of the map. -/
structure Mirrors (b : Blueprint) (s : Sections) : Prop where
  ofType? (t : ArtifactType) : b.section? t = Dict.get? s t
  get? (t : ArtifactType) (name : String) : b.get? t name = s.find? t name
  has (t : ArtifactType) (name : String) : b.has t name = s.has t name
  /-- Under another layer than that of its type nothing is found. -/
  getIn? (l : Layer) (t : ArtifactType) (name : String) :
    b.getIn? l t name = if t.layer = l then s.find? t name else none
  /-- A layer holds the sections of its types, and is not there without any. -/
  layer? (l : Layer) :
    b.layer? l = if (s.ofLayer l).isEmpty then none else some (s.ofLayer l)
  repositoryInterface? (concrete : ArtifactType) (name : String) :
    b.repositoryInterface? concrete name
      = s.find? .repositoryInterface (repositoryInterfaceKey concrete name)
  /-- Nothing is kept that has no entries, and nothing under a foreign layer. -/
  stored (l : Layer) (sections : Sections) (h : b.layers.get? l = some sections) :
    sections.isEmpty = false ∧ ∀ t entries, Dict.get? sections t = some entries →
      t.layer = l ∧ entries.isEmpty = false
  isEmpty_iff : b.isEmpty = true ↔ b.size = 0
  /-- The leaves are the entries, each under the layer of its type. -/
  mem_leaves_iff (l : Leaf) :
    l ∈ b.leaves ↔ l.layer = l.type.layer ∧ s.find? l.type l.name = some l.spec
  /-- No leaf comes twice. -/
  nodup_leaves : b.leaves.Nodup
  /-- They come by layer, by type and by name, and strictly so. -/
  pairwise_leaves : b.leaves.Pairwise Leaf.Precedes
  /-- No two leaves have one path. -/
  nodup_paths : b.paths.Nodup

theorem nodup_paths (b : Blueprint) : b.paths.Nodup := by
  refine List.pairwise_map.mpr (b.pairwise_leaves.imp ?_)
  intro l m hprecedes hpath
  exact hprecedes.place_ne (Leaf.path_inj.mp hpath)

/-- **A blueprint mirrors the plain map** of the sections that are put in, whichever they
are and in whatever order they come. -/
theorem mirrors_ofInsertions (domain : String) (inserts : List (ArtifactType × Section)) :
    (ofInsertions domain inserts).domain = domain ∧
      (ofInsertions domain inserts).Mirrors (.ofInsertions inserts) := by
  have h := represents_ofInsertions domain inserts
  refine ⟨domain_ofInsertions domain inserts, ?_⟩
  exact {
    ofType? := h.section?
    get? := h.get?
    has := fun t name => congrArg Option.isSome (h.get? t name)
    getIn? := h.getIn?
    layer? := h.layer?
    repositoryInterface? := fun concrete name => h.get? _ (repositoryInterfaceKey concrete name)
    stored := fun _ _ => h.of_layer
    isEmpty_iff := h.isEmpty_iff
    mem_leaves_iff := fun _ => h.mem_leaves_iff
    nodup_leaves := nodup_leaves _
    pairwise_leaves := pairwise_leaves _
    nodup_paths := nodup_paths _ }

end Blueprint

end Scaffold
