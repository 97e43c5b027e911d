import Scaffold.Blueprint
import Scaffold.Proofs.Sections

/-!
# The blueprint of sections

A blueprint laid out from sections answers what the sections answer, and keeps every
section under the layer of its type and nowhere else.  Its leaves are the entries of
the sections.

The layout goes through the four layers and for each of them through all sections.
A section is put in as a whole, so the statements about the loop are about sections,
and the entries follow in the end.

## Main results

* `Blueprint.get?_ofSections` — the answers.
* `Blueprint.mem_leaves_ofSections_iff` — the leaves.
* `Blueprint.pairwise_leaves` — their order.
-/

namespace Scaffold

@[simp]
theorem Leaf.artifactType_names (l : Leaf) : l.names.artifactType = l.type := by
  unfold names
  split
  · rfl
  · rfl

/-- One leaf stands before another: by layer, then by type, then by name. -/
def Leaf.Precedes (l m : Leaf) : Prop :=
  compare l.layer m.layer = .lt ∨ l.layer = m.layer ∧
    (compare l.type m.type = .lt ∨ l.type = m.type ∧ compare l.name m.name = .lt)

/-- What stands before something else is kept at another place. -/
theorem Leaf.Precedes.place_ne {l m : Leaf} (h : l.Precedes m) :
    ¬(l.layer = m.layer ∧ l.type = m.type ∧ l.name = m.name) := by
  rintro ⟨hlayer, htype, hname⟩
  rw [Precedes, hlayer, htype, hname] at h
  rcases h with hlt | ⟨-, hlt | ⟨-, hlt⟩⟩
  · rw [Std.ReflOrd.compare_self] at hlt
    cases hlt
  · rw [Std.ReflOrd.compare_self] at hlt
    cases hlt
  · rw [Std.ReflOrd.compare_self] at hlt
    cases hlt

namespace Blueprint

/-! ### One section under one layer -/

/-- The section of a type under a layer. -/
def sectionIn? (b : Blueprint) (l : Layer) (t : ArtifactType) : Option Section :=
  (b.layer? l).bind fun sections => Dict.get? sections t

theorem get?_eq_bind (b : Blueprint) (t : ArtifactType) (name : String) :
    b.get? t name = (b.sectionIn? t.layer t).bind (·.get? name) := rfl

@[simp] theorem sectionIn?_new (domain : String) (l : Layer) (t : ArtifactType) :
    (new domain).sectionIn? l t = none := rfl

/-- A section that is put in stands under its own layer; one without entries changes
nothing. -/
theorem sectionIn?_insertSection (b : Blueprint) (t u : ArtifactType) (entries : Section)
    (l : Layer) :
    (b.insertSection t entries).sectionIn? l u
      = if entries.isEmpty = false ∧ t.layer = l ∧ t = u then some entries
        else b.sectionIn? l u := by
  unfold insertSection
  cases hempty : entries.isEmpty with
  | true => rw [if_pos rfl, if_neg fun h => Bool.noConfusion h.1]
  | false =>
    rw [if_neg Bool.false_ne_true]
    simp only [sectionIn?, layer?, Dict.get?_insert, true_and]
    by_cases hl : t.layer = l
    · rw [if_pos hl, Option.bind_some, Dict.get?_insert, hl]
      by_cases ht : t = u
      · rw [if_pos ht, if_pos ⟨rfl, ht⟩]
      · rw [if_neg ht, if_neg fun h => ht h.2]
        cases b.layers.get? l <;> rfl
    · rw [if_neg hl, if_neg fun h => hl h.1]

/-! ### The layout -/

/-- What of a section list goes under a layer. -/
private def belongs (l : Layer) (e : ArtifactType × Section) : Bool :=
  e.1.layer = l && !e.2.isEmpty

/-- One layer of the layout; the last section of a type would count, but no type
comes twice. -/
private theorem sectionIn?_foldl_insertSection (l k : Layer) (u : ArtifactType)
    (es : List (ArtifactType × Section)) (b : Blueprint) :
    (es.foldl (fun b e => if e.1.layer = l then b.insertSection e.1 e.2 else b) b).sectionIn? k u
      = (if k = l then Dict.lookup u (es.filter (belongs l)).reverse else none).or
          (b.sectionIn? k u) := by
  induction es generalizing b with
  | nil =>
    rw [List.filter_nil, List.reverse_nil, Dict.lookup, ite_self]
    rfl
  | cons e es ih =>
    obtain ⟨t, entries⟩ := e
    rw [List.foldl_cons, ih]
    by_cases hl : t.layer = l
    · rw [if_pos hl, sectionIn?_insertSection]
      cases hempty : entries.isEmpty with
      | true =>
        rw [List.filter_cons_of_neg (by simp [belongs, hempty])]
        simp only [Bool.true_eq_false, false_and, if_false]
      | false =>
        rw [List.filter_cons_of_pos (by simp [belongs, hempty, hl]), List.reverse_cons,
          Dict.lookup_append, Dict.lookup_singleton, hl]
        by_cases hk : k = l
        · rw [if_pos hk, if_pos hk, Option.or_assoc]
          by_cases ht : t = u
          · rw [if_pos ⟨rfl, hk.symm, ht⟩, if_pos ht]
            rfl
          · rw [if_neg fun h => ht h.2.2, if_neg ht]
            rfl
        · rw [if_neg hk, if_neg hk, if_neg fun h => hk h.2.1.symm]
    · -- a section of another layer is passed over
      rw [if_neg hl, List.filter_cons_of_neg (by simp [belongs, hl])]

private theorem lookup_filter_belongs (l : Layer) (s : Sections) (t : ArtifactType) :
    Dict.lookup t (s.entries.filter (belongs l)).reverse
      = if t.layer = l then (Dict.get? s t).filter (!·.isEmpty) else none := by
  refine Option.ext fun entries => ?_
  -- no type stands twice, so the search from the end finds what stands there
  have hnodup : ((s.entries.filter (belongs l)).reverse.map (·.1)).Nodup := by
    rw [List.map_reverse, List.Nodup, List.pairwise_reverse]
    exact ((Dict.nodup_keys s).sublist (List.filter_sublist.map _)).imp Ne.symm
  have hmem : (t, entries) ∈ (s.entries.filter (belongs l)).reverse
      ↔ Dict.get? s t = some entries ∧ t.layer = l ∧ entries.isEmpty = false := by
    rw [List.mem_reverse, List.mem_filter, Dict.mem_entries_iff]
    simp [belongs]
  constructor
  · intro h
    obtain ⟨hget, hl, hempty⟩ := hmem.mp (Dict.mem_of_lookup h)
    rw [if_pos hl, Option.filter_eq_some_iff]
    exact ⟨hget, by rw [hempty]; rfl⟩
  · intro h
    refine Dict.lookup_eq_some_of_mem hnodup (hmem.mpr ?_)
    by_cases hl : t.layer = l
    · rw [if_pos hl, Option.filter_eq_some_iff] at h
      exact ⟨h.1, hl, by simpa using h.2⟩
    · rw [if_neg hl] at h
      cases h

theorem sectionIn?_insertLayer (s : Sections) (b : Blueprint) (l k : Layer) (t : ArtifactType) :
    (insertLayer s b l).sectionIn? k t
      = (if k = l ∧ t.layer = l then (Dict.get? s t).filter (!·.isEmpty) else none).or
          (b.sectionIn? k t) := by
  rw [insertLayer, sectionIn?_foldl_insertSection, lookup_filter_belongs]
  by_cases hk : k = l
  · simp [hk]
  · simp [hk]

/-- **Every section stands under the layer of its type**, and under no other. -/
theorem sectionIn?_ofSections (domain : String) (s : Sections) (l : Layer) (t : ArtifactType) :
    (ofSections domain s).sectionIn? l t
      = if t.layer = l then (Dict.get? s t).filter (!·.isEmpty) else none := by
  simp only [ofSections, Layer.all, List.foldl_cons, List.foldl_nil, sectionIn?_insertLayer,
    sectionIn?_new, Option.or_none]
  cases l <;> simp

/-! ### Answers and leaves -/

private theorem bind_filter_isEmpty (x : Option Section) (name : String) :
    (x.filter (!·.isEmpty)).bind (·.get? name) = (x.getD ∅).get? name := by
  rw [← Sections.getD_filter_isEmpty x]
  cases x.filter (!·.isEmpty) <;> rfl

/-- **A blueprint answers what its sections answer.** -/
theorem get?_ofSections (domain : String) (s : Sections) (t : ArtifactType) (name : String) :
    (ofSections domain s).get? t name = s.find? t name := by
  rw [get?_eq_bind, sectionIn?_ofSections, if_pos rfl, bind_filter_isEmpty]
  rfl

theorem has_ofSections (domain : String) (s : Sections) (t : ArtifactType) (name : String) :
    (ofSections domain s).has t name = s.has t name := by
  rw [has, get?_ofSections, Sections.has]

theorem mem_leaves_iff {b : Blueprint} {l : Leaf} :
    l ∈ b.leaves ↔ b.getIn? l.layer l.type l.name = some l.spec := by
  obtain ⟨layer, type, name, spec⟩ := l
  simp only [leaves, sectionLeaves, List.mem_flatMap, List.mem_map, Prod.exists, Leaf.mk.injEq,
    Dict.mem_entries_iff, getIn?, layer?, Option.bind_eq_some_iff]
  constructor
  · rintro ⟨_, sections, hlayer, _, entries, htype, _, _, hname, rfl, rfl, rfl, rfl⟩
    exact ⟨entries, ⟨sections, hlayer, htype⟩, hname⟩
  · rintro ⟨entries, ⟨sections, hlayer, htype⟩, hname⟩
    exact ⟨layer, sections, hlayer, type, entries, htype, name, spec, hname, rfl, rfl, rfl, rfl⟩

/-- **The leaves are the entries of the sections**, each under the layer of its type. -/
theorem mem_leaves_ofSections_iff {domain : String} {s : Sections} {l : Leaf} :
    l ∈ (ofSections domain s).leaves ↔
      l.layer = l.type.layer ∧ s.find? l.type l.name = some l.spec := by
  have hget : (ofSections domain s).getIn? l.layer l.type l.name
      = ((ofSections domain s).sectionIn? l.layer l.type).bind (·.get? l.name) := rfl
  rw [mem_leaves_iff, hget, sectionIn?_ofSections]
  by_cases hl : l.type.layer = l.layer
  · rw [if_pos hl, bind_filter_isEmpty, hl]
    exact (and_iff_right rfl).symm
  · rw [if_neg hl, Option.bind_none]
    exact iff_of_false (by simp) fun h => hl h.1.symm

theorem exists_leaf_iff {domain : String} {s : Sections} {t : ArtifactType} {name : String}
    {P : Leaf → Prop} :
    (∃ l ∈ (ofSections domain s).leaves, l.type = t ∧ l.name = name ∧ P l)
      ↔ ∃ spec, s.find? t name = some spec ∧ P ⟨t.layer, t, name, spec⟩ := by
  constructor
  · rintro ⟨⟨layer, u, n, spec⟩, hl, htype, hname, hp⟩
    obtain rfl : u = t := htype
    obtain rfl : n = name := hname
    obtain ⟨hlayer, hfind⟩ := mem_leaves_ofSections_iff.mp hl
    obtain rfl : layer = u.layer := hlayer
    exact ⟨spec, hfind, hp⟩
  · rintro ⟨spec, hfind, hp⟩
    exact ⟨_, mem_leaves_ofSections_iff.mpr ⟨rfl, hfind⟩, rfl, rfl, hp⟩

theorem exists_leaf_of_has {domain : String} {s : Sections} {t : ArtifactType} {name : String}
    (h : (ofSections domain s).has t name = true) :
    ∃ l ∈ (ofSections domain s).leaves, l.type = t ∧ l.name = name := by
  rw [has_ofSections, Sections.has_iff] at h
  obtain ⟨spec, h⟩ := h
  exact ⟨⟨t.layer, t, name, spec⟩, mem_leaves_ofSections_iff.mpr ⟨rfl, h⟩, rfl, rfl⟩

/-- A leaf is told by its type and its name. -/
theorem eq_of_mem_leaves {domain : String} {s : Sections} {l m : Leaf}
    (hl : l ∈ (ofSections domain s).leaves) (hm : m ∈ (ofSections domain s).leaves)
    (htype : l.type = m.type) (hname : l.name = m.name) : l = m := by
  obtain ⟨layer, t, n, spec⟩ := l
  obtain ⟨layer', u, k, spec'⟩ := m
  obtain rfl : t = u := htype
  obtain rfl : n = k := hname
  obtain ⟨hlayer, hspec⟩ := mem_leaves_ofSections_iff.mp hl
  obtain ⟨hlayer', hspec'⟩ := mem_leaves_ofSections_iff.mp hm
  obtain rfl : layer = layer' := hlayer.trans hlayer'.symm
  obtain rfl : spec = spec' := Option.some.inj (hspec.symm.trans hspec')
  rfl

/-- **The leaves are in order**, by layer, by type and by name. -/
theorem pairwise_leaves (b : Blueprint) : b.leaves.Pairwise Leaf.Precedes := by
  refine List.pairwise_flatMap.mpr ⟨fun (l, sections) _ => ?_, b.layers.ordered.imp ?_⟩
  · refine List.pairwise_flatMap.mpr ⟨fun (t, entries) _ => ?_, sections.ordered.imp ?_⟩
    · exact List.pairwise_map.mpr (entries.ordered.imp fun h => .inr ⟨rfl, .inr ⟨rfl, h⟩⟩)
    · intro _ _ h x hx y hy
      obtain ⟨_, -, rfl⟩ := List.mem_map.mp hx
      obtain ⟨_, -, rfl⟩ := List.mem_map.mp hy
      exact .inr ⟨rfl, .inl h⟩
  · intro _ _ h x hx y hy
    obtain ⟨_, -, hx⟩ := List.mem_flatMap.mp hx
    obtain ⟨_, -, hy⟩ := List.mem_flatMap.mp hy
    obtain ⟨_, -, rfl⟩ := List.mem_map.mp hx
    obtain ⟨_, -, rfl⟩ := List.mem_map.mp hy
    exact .inl h

theorem nodup_leaves (b : Blueprint) : b.leaves.Nodup := by
  refine b.pairwise_leaves.imp ?_
  rintro l _ hprecedes rfl
  exact hprecedes.place_ne ⟨rfl, rfl, rfl⟩

@[simp] theorem domain_insertSection (b : Blueprint) (t : ArtifactType) (entries : Section) :
    (b.insertSection t entries).domain = b.domain := by
  unfold insertSection
  split <;> rfl

private theorem domain_insertLayer (s : Sections) (b : Blueprint) (l : Layer) :
    (insertLayer s b l).domain = b.domain := by
  unfold insertLayer
  generalize s.entries = es
  induction es generalizing b with
  | nil => rfl
  | cons e es ih =>
    rw [List.foldl_cons, ih]
    dsimp only
    split
    · exact domain_insertSection b e.1 e.2
    · rfl

theorem domain_ofSections (domain : String) (s : Sections) :
    (ofSections domain s).domain = domain := by
  simp only [ofSections, Layer.all, List.foldl_cons, List.foldl_nil, domain_insertLayer, new]

end Blueprint

end Scaffold
