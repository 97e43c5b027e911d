import Scaffold.Spec
import Scaffold.Proofs.Dict

/-!
# Laws of sections

What each change of the sections answers under a type and a name.  A change has one
place, and everywhere else the answer is what it was before.

## Main results

* `Sections.has_iff`, `Sections.mem_entriesAt_iff` — the questions agree.
* `Sections.find?_insert`, `Sections.find?_register`, `Sections.find?_update` — what
  the changes answer.
-/

namespace Scaffold.Sections

/-! ### Questions -/

theorem has_iff {s : Sections} {t : ArtifactType} {name : String} :
    s.has t name = true ↔ ∃ spec, s.find? t name = some spec := Option.isSome_iff_exists

theorem has_eq_false_iff {s : Sections} {t : ArtifactType} {name : String} :
    s.has t name = false ↔ s.find? t name = none := by
  rw [has, Option.isSome_eq_false_iff, Option.isNone_iff_eq_none]

theorem mem_entriesAt_iff {s : Sections} {t : ArtifactType} {name : String} {spec : Spec} :
    (name, spec) ∈ s.entriesAt t ↔ s.find? t name = some spec := Dict.mem_entries_iff

/-- A type lacks entries exactly when nothing is found under it. -/
theorem isEmpty_ofType_iff {s : Sections} {t : ArtifactType} :
    (s.ofType t).isEmpty = true ↔ ∀ name, s.find? t name = none := Dict.isEmpty_iff_get?

/-- An empty section counts as no section. -/
theorem getD_filter_isEmpty (x : Option Section) : (x.filter (!·.isEmpty)).getD ∅ = x.getD ∅ := by
  cases x with
  | none => rfl
  | some entries =>
    cases h : entries.isEmpty with
    | true => simp [Option.filter, Dict.isEmpty_iff.mp h, Dict.isEmpty]
    | false => simp [Option.filter, h]

/-- **Sections are told apart** by which types are present and what is found. -/
theorem ext_find? {s s' : Sections} (hcontains : ∀ t, s.contains t = s'.contains t)
    (hfind : ∀ t name, s.find? t name = s'.find? t name) : s = s' := by
  refine Dict.ext_get? fun t => ?_
  have hofType : s.ofType t = s'.ofType t := Dict.ext_get? (hfind t)
  have hsome : (Dict.get? s t).isSome = (Dict.get? s' t).isSome := hcontains t
  rw [ofType, ofType] at hofType
  cases h : Dict.get? s t with
  | none =>
    rw [h, Option.isSome_none, eq_comm, Option.isSome_eq_false_iff,
      Option.isNone_iff_eq_none] at hsome
    rw [hsome]
  | some entries =>
    rw [h, Option.isSome_some, eq_comm, Option.isSome_iff_exists] at hsome
    obtain ⟨entries', h'⟩ := hsome
    rw [h, h', Option.getD_some, Option.getD_some] at hofType
    rw [h', hofType]

/-! ### Changes -/

theorem ofType_insert (s : Sections) (t u : ArtifactType) (entries : Section) :
    ofType (Dict.insert s t entries) u = if t = u then entries else s.ofType u := by
  rw [ofType, Dict.get?_insert]
  split
  · rfl
  · rfl

theorem find?_insert (s : Sections) (t u : ArtifactType) (entries : Section) (name : String) :
    find? (Dict.insert s t entries) u name
      = if t = u then entries.get? name else s.find? u name := by
  rw [find?, ofType_insert]
  split
  · rfl
  · rfl

/-- A change of one entry of one section. -/
private theorem find?_modify_entry {f : Section → Section} {g : Option Spec → Spec}
    {name other : String} (s : Sections) (t u : ArtifactType)
    (hf : ∀ entries, (f entries).get? other
      = if name = other then some (g (entries.get? other)) else entries.get? other) :
    (s.modify t f).find? u other
      = if t = u ∧ name = other then some (g (s.find? u other)) else s.find? u other := by
  rw [modify, find?_insert, hf]
  by_cases ht : t = u
  · subst ht
    by_cases hn : name = other
    · rw [if_pos rfl, if_pos hn, if_pos ⟨rfl, hn⟩]
      rfl
    · rw [if_pos rfl, if_neg hn, if_neg fun h => hn h.2]
      rfl
  · rw [if_neg ht, if_neg fun h => ht h.1]

/-- A registered spec stands only where nothing stood. -/
theorem find?_register (s : Sections) (t u : ArtifactType) (name other : String) (spec : Spec) :
    (s.register t name spec).find? u other
      = if t = u ∧ name = other then some ((s.find? u other).getD spec) else s.find? u other := by
  refine find?_modify_entry (g := fun x => x.getD spec) s t u fun entries => ?_
  rw [Dict.get?_insertNew]
  split
  · next h => rw [h]
  · rfl

theorem find?_update (s : Sections) (t u : ArtifactType) (name other : String)
    (f : Option Spec → Spec) :
    (s.update t name f).find? u other
      = if t = u ∧ name = other then some (f (s.find? u other)) else s.find? u other := by
  refine find?_modify_entry s t u fun entries => ?_
  rw [Dict.get?_insert]
  split
  · next h => rw [h]
  · rfl

end Scaffold.Sections
