import Scaffold.Proofs.Spec.Reader

/-!
# Spellings of specs

Many things may be written in more than one way: what needs no map may be written as a map
as well, and some keys have two words.  A spec is read in both ways with one result, faults
included; a list of value objects is read as far as names are valid.

## Main definitions

* `Node.SpecSpelling`, `Node.SectionSpelling` — two ways to write a spec, a section.

## Main results

* `Spec.ofNode_spelling`, `Section.ofNode_spelling` — they are read alike.
-/

namespace Scaffold

namespace Node

/-- **Two ways to write a spec** of a type. -/
inductive SpecSpelling (owner : ArtifactType) : Node → Node → Prop
  | bare : SpecSpelling owner .null (.map [])
  | args (howner : owner ≠ .entity) (items : List Node) :
      SpecSpelling owner (.list items) (.map [("args", .list items)])
  | methods (howner : owner = .entity) (items : List Node) :
      SpecSpelling owner (.list items) (.map [("methods", .list items)])
  | kind (howner : owner = .valueObject) {key : String} (hkey : key = "kind" ∨ key = "type")
      (word : String) : SpecSpelling owner (.string word) (.map [(key, .string word)])
  | events {d : Dict String Node} (hevent : d.get? "event" = none)
      (hevents : d.get? "events" = none) (node : Node) :
      SpecSpelling owner (.ofDict (d.insert "event" node)) (.ofDict (d.insert "events" node))

/-- **Two ways to write a section** of a type: one spec in two ways, or value objects by
their names. -/
inductive SectionSpelling (owner : ArtifactType) : Node → Node → Prop
  | spec {node node' : Node} (h : SpecSpelling owner node node') (d : Dict String Node)
      (name : String) :
      SectionSpelling owner (.ofDict (d.insert name node)) (.ofDict (d.insert name node'))
  | names (howner : owner = .valueObject) (names : List String) :
      SectionSpelling owner (.list (names.map .string)) (.ofEntries (names.map (·, .null)))

end Node

open Node

variable {owner : ArtifactType}

/-! ### Specs -/

/-- Events are read alike under both keys, since no key that says something stands between
them. -/
private theorem ofEntries_events {name : String} {d : Dict String Node}
    (hevent : d.get? "event" = none) (hevents : d.get? "events" = none) (node : Node) :
    Spec.ofEntries owner name (d.insert "event" node).entries
      = Spec.ofEntries owner name (d.insert "events" node).entries := by
  -- one of the two keys is there, and says the same
  have hfirst (spec : Spec) :
      ["event", "events"].foldlM (Spec.withField owner name (d.insert "event" node).get?) spec
        = spec.withKey owner name "event" node := by
    have hnone : (d.insert "event" node).get? "events" = none :=
      (Dict.get?_insert_of_ne (by decide) d node).trans hevents
    simp only [List.foldlM_cons, List.foldlM_nil, Spec.withField, Dict.get?_insert_self, hnone]
    exact bind_pure (spec.withKey owner name "event" node)
  have hsecond (spec : Spec) :
      ["event", "events"].foldlM (Spec.withField owner name (d.insert "events" node).get?) spec
        = spec.withKey owner name "event" node := by
    have hnone : (d.insert "events" node).get? "event" = none :=
      (Dict.get?_insert_of_ne (by decide) d node).trans hevent
    simp only [List.foldlM_cons, List.foldlM_nil, Spec.withField, Dict.get?_insert_self, hnone]
    exact bind_pure (spec.withKey owner name "event" node)
  -- the other keys are the same
  have hothers (keys : List String) (hkeys : ∀ key ∈ keys, key ≠ "event" ∧ key ≠ "events")
      (spec : Spec) :
      keys.foldlM (Spec.withField owner name (d.insert "event" node).get?) spec
        = keys.foldlM (Spec.withField owner name (d.insert "events" node).get?) spec := by
    induction keys generalizing spec with
    | nil => rfl
    | cons key keys ih =>
      obtain ⟨⟨hkey, hkey'⟩, hrest⟩ := List.forall_mem_cons.mp hkeys
      have hget : (d.insert "event" node).get? key = (d.insert "events" node).get? key := by
        rw [Dict.get?_insert_of_ne hkey.symm, Dict.get?_insert_of_ne hkey'.symm]
      rw [List.foldlM_cons, List.foldlM_cons, Spec.withField, Spec.withField, hget]
      exact congrArg _ (funext fun spec => ih hrest spec)
  have hsplit : specKeys = ["args", "entity"] ++ (["event", "events"] ++
      ["kind", "methods", "repository_interface", "returns", "type"]) := rfl
  rw [Spec.ofEntries_eq_keys, Spec.ofEntries_eq_keys, hsplit]
  simp only [List.foldlM_append, hfirst, hsecond, hothers ["args", "entity"] (by decide),
    hothers ["kind", "methods", "repository_interface", "returns", "type"] (by decide)]

/-- **A spec is read in both ways alike.** -/
theorem Spec.ofNode_spelling {node node' : Node} (h : SpecSpelling owner node node')
    (name : String) : Spec.ofNode owner name node = Spec.ofNode owner name node' := by
  cases h with
  | bare => rfl
  | args howner items =>
    rw [Spec.ofNode, if_neg howner]
    exact (bind_pure _).symm
  | methods howner items =>
    rw [Spec.ofNode, if_pos howner]
    exact (bind_pure _).symm
  | kind howner hkey word =>
    subst howner
    rcases hkey with rfl | rfl <;> rfl
  | events hevent hevents node => exact ofEntries_events hevent hevents node

/-! ### Sections -/

theorem Node.denotesNames_iff {α : Type} {bare : α} {names : List String} {d : Dict String α} :
    DenotesNames bare (.list (names.map .string)) d
      ↔ ∀ name, d.get? name = if name ∈ names then some bare else none := by
  refine ⟨fun h => ?_, .names⟩
  generalize hnode : Node.list (names.map .string) = node at h
  cases h with
  | names h =>
    have hnames := (List.map_inj_right fun _ _ => Node.string.inj).mp (Node.list.inj hnode)
    rw [hnames]
    exact h

/-- A list of names is read as the set of them. -/
private theorem ofNode_names_congr {names names' : List String}
    (h : ∀ name, name ∈ names ↔ name ∈ names') {s : Section} :
    Section.ofNode .valueObject (.list (names.map .string)) = .ok s
      ↔ Section.ofNode .valueObject (.list (names'.map .string)) = .ok s := by
  rw [Section.ofNode, Section.ofNode, if_pos rfl, if_pos rfl,
    ofList_mapM_names_eq_ok_iff fun _ _ => readValueObjectName_eq_ok_iff,
    ofList_mapM_names_eq_ok_iff fun _ _ => readValueObjectName_eq_ok_iff,
    Node.denotesNames_iff, Node.denotesNames_iff]
  simp only [h]

/-- A map of names to nothing is read as the list of its keys. -/
private theorem ofNode_bare_entries (keys : List String) :
    Section.ofNode .valueObject (.map (keys.map (·, .null)))
      = Section.ofNode .valueObject (.list (keys.map .string)) := by
  rw [Section.ofNode, Section.ofNode, if_pos rfl, List.mapM_map, List.mapM_map]
  rfl

/-- **A section is read in both ways alike**, but for the first fault that is met. -/
theorem Section.ofNode_spelling {node node' : Node} (h : SectionSpelling owner node node')
    {s : Section} : Section.ofNode owner node = .ok s ↔ Section.ofNode owner node' = .ok s := by
  cases h with
  | @spec node node' h d name =>
    obtain ⟨before, after, hinsert, -⟩ := d.exists_entries_insert name
    have hentry : readEntry owner (name, node) = readEntry owner (name, node') := by
      rw [readEntry, readEntry, Spec.ofNode_spelling h name]
    simp only [Node.ofDict, Section.ofNode, hinsert, List.mapM_append, List.mapM_cons, hentry]
  | names howner names =>
    subst howner
    let d : Dict String Node := .ofList (names.map (·, .null))
    have hbare : d.entries = d.keys.map (·, .null) := by
      rw [Dict.keys, List.map_map]
      refine (List.map_id _).symm.trans (List.map_congr_left fun e he => ?_)
      obtain ⟨_, -, -, hnull⟩ := Dict.of_get?_ofList_map (Dict.mem_entries_iff.mp he)
      exact Prod.ext rfl hnull.symm
    have hkeys (name : String) : name ∈ names ↔ name ∈ d.keys := by
      rw [← Dict.contains_iff, Dict.contains_ofList_map]
      simp
    rw [Node.ofEntries, hbare, ofNode_bare_entries]
    exact ofNode_names_congr hkeys

end Scaffold
