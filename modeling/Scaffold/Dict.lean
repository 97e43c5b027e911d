/-!
# Finite maps with ordered keys

A dictionary is the list of its entries in strictly ascending order of the keys.
The order is part of the value: whoever walks over a dictionary meets its
entries by key, however they were put in.  Since a set of entries has only one
ascending arrangement, two dictionaries that answer every question alike are
equal (`Dict.ext_get?`).

## Main definitions

* `Dict` — the type; `Dict.get?`, `Dict.contains` — its questions.
* `Dict.insert`, `Dict.insertNew`, `Dict.union`, `Dict.ofList` — its makers.
* `Dict.mapValues`, `Dict.filter` — entry by entry.

## Main results

* `Dict.get?_insert` — what an insertion changes.
* `Dict.mem_entries_iff` — entries and answers agree.
* `Dict.ext_get?` — extensionality.
-/

namespace Scaffold

universe u v w

/-- A finite map, kept as its entries in strictly ascending order of keys. -/
structure Dict (κ : Type u) (α : Type v) [Ord κ] where
  /-- The entries, by ascending key. -/
  entries : List (κ × α)
  /-- Each key is below all later ones. -/
  ordered : entries.Pairwise fun a b => compare a.1 b.1 = .lt

namespace Dict

variable {κ : Type u} {α : Type v} {β : Type w} [Ord κ]

theorem ext_entries {d e : Dict κ α} (h : d.entries = e.entries) : d = e := by
  cases d; cases e; cases h; rfl

instance [DecidableEq κ] [DecidableEq α] : DecidableEq (Dict κ α) := fun d e =>
  if h : d.entries = e.entries then .isTrue (ext_entries h)
  else .isFalse fun he => h (congrArg entries he)

instance [Repr κ] [Repr α] : Repr (Dict κ α) := ⟨fun d n => reprPrec d.entries n⟩

/-- The dictionary without entries. -/
def empty : Dict κ α := ⟨[], .nil⟩

instance : EmptyCollection (Dict κ α) := ⟨empty⟩
instance : Inhabited (Dict κ α) := ⟨empty⟩

@[simp] theorem entries_empty : (∅ : Dict κ α).entries = [] := rfl

/-- No entries. -/
def isEmpty (d : Dict κ α) : Bool := d.entries.isEmpty

/-- The number of entries. -/
def size (d : Dict κ α) : Nat := d.entries.length

/-- The keys, ascending. -/
def keys (d : Dict κ α) : List κ := d.entries.map (·.1)

/-- The values, by ascending key. -/
def values (d : Dict κ α) : List α := d.entries.map (·.2)

/-! ### Questions -/

/-- The value of the first entry with this key. -/
def lookup (k : κ) : List (κ × α) → Option α
  | [] => none
  | (k', v) :: rest => if compare k k' = .eq then some v else lookup k rest

/-- The value under a key. -/
def get? (d : Dict κ α) (k : κ) : Option α := lookup k d.entries

/-- There is an entry under this key. -/
def contains (d : Dict κ α) (k : κ) : Bool := (d.get? k).isSome

@[simp] theorem get?_empty (k : κ) : (∅ : Dict κ α).get? k = none := rfl

@[simp] theorem contains_empty (k : κ) : (∅ : Dict κ α).contains k = false := rfl

theorem isEmpty_iff {d : Dict κ α} : d.isEmpty = true ↔ d = ∅ := by
  constructor
  · intro h; exact ext_entries (List.isEmpty_iff.1 h)
  · rintro rfl; rfl

/-! ### Entry by entry -/

/-- Every value replaced, under its own key. -/
def mapValues (f : κ → α → β) (d : Dict κ α) : Dict κ β where
  entries := d.entries.map fun e => (e.1, f e.1 e.2)
  ordered := d.ordered.map _ fun _ _ h => h

/-- The entries that pass a test. -/
def filter (p : κ → α → Bool) (d : Dict κ α) : Dict κ α where
  entries := d.entries.filter fun e => p e.1 e.2
  ordered := d.ordered.filter _

/-! ### Insertion -/

/-- Put an entry at its place, over an entry with the same key. -/
def insertInto (k : κ) (v : α) : List (κ × α) → List (κ × α)
  | [] => [(k, v)]
  | (k', v') :: rest =>
    match compare k k' with
    | .lt => (k, v) :: (k', v') :: rest
    | .eq => (k, v) :: rest
    | .gt => (k', v') :: insertInto k v rest

theorem mem_insertInto {k : κ} {v : α} {l : List (κ × α)} {e : κ × α}
    (h : e ∈ insertInto k v l) : e = (k, v) ∨ e ∈ l := by
  induction l with
  | nil => simpa [insertInto] using h
  | cons head rest ih =>
    obtain ⟨k', v'⟩ := head
    simp only [insertInto] at h
    split at h
    · simpa using h
    · rcases List.mem_cons.1 h with h | h
      · exact .inl h
      · exact .inr (List.mem_cons_of_mem _ h)
    · rcases List.mem_cons.1 h with h | h
      · exact .inr (h ▸ List.mem_cons_self)
      · exact (ih h).imp_right (List.mem_cons_of_mem _)

theorem ordered_insertInto [Std.TransOrd κ] (k : κ) (v : α) {l : List (κ × α)}
    (h : l.Pairwise fun a b => compare a.1 b.1 = .lt) :
    (insertInto k v l).Pairwise fun a b => compare a.1 b.1 = .lt := by
  induction l with
  | nil => simp [insertInto]
  | cons head rest ih =>
    obtain ⟨k', v'⟩ := head
    have ⟨hhead, hrest⟩ := List.pairwise_cons.1 h
    simp only [insertInto]
    split
    · rename_i hlt
      refine List.pairwise_cons.2 ⟨fun e he => ?_, h⟩
      rcases List.mem_cons.1 he with rfl | he
      · exact hlt
      · exact Std.TransCmp.lt_trans hlt (hhead e he)
    · rename_i heq
      exact List.pairwise_cons.2
        ⟨fun e he => Std.TransCmp.lt_of_eq_of_lt heq (hhead e he), hrest⟩
    · rename_i hgt
      refine List.pairwise_cons.2 ⟨fun e he => ?_, ih hrest⟩
      rcases mem_insertInto he with rfl | he
      · exact Std.OrientedCmp.lt_of_gt hgt
      · exact hhead e he

/-- Put a value under a key, over the value that stands there. -/
def insert [Std.TransOrd κ] (d : Dict κ α) (k : κ) (v : α) : Dict κ α :=
  ⟨insertInto k v d.entries, ordered_insertInto k v d.ordered⟩

/-- Put a value under a key unless one stands there. -/
def insertNew [Std.TransOrd κ] (d : Dict κ α) (k : κ) (v : α) : Dict κ α :=
  if d.contains k then d else d.insert k v

/-- Entries put in one after the other; of two with one key the later stays. -/
def ofList [Std.TransOrd κ] (l : List (κ × α)) : Dict κ α :=
  l.foldl (fun d e => d.insert e.1 e.2) ∅

/-- The entries of both; under a key of both, the value of the second. -/
def union [Std.TransOrd κ] (d e : Dict κ α) : Dict κ α :=
  e.entries.foldl (fun d x => d.insert x.1 x.2) d

@[simp] theorem ofList_nil [Std.TransOrd κ] : ofList ([] : List (κ × α)) = ∅ := rfl

/-! ### Laws -/

section Laws

variable [Std.LawfulEqOrd κ]

@[simp] theorem lookup_insertInto_self (k : κ) (v : α) (l : List (κ × α)) :
    lookup k (insertInto k v l) = some v := by
  induction l with
  | nil => simp [insertInto, lookup]
  | cons head rest ih =>
    obtain ⟨k', v'⟩ := head
    simp only [insertInto]
    split <;> rename_i h
    · simp [lookup]
    · simp [lookup]
    · simp [lookup, h, ih]

theorem lookup_insertInto_of_ne {k k' : κ} (h : k ≠ k') (v : α) (l : List (κ × α)) :
    lookup k' (insertInto k v l) = lookup k' l := by
  have hne : compare k' k ≠ .eq := fun he => h (Std.LawfulEqOrd.eq_of_compare he).symm
  induction l with
  | nil => simp [insertInto, lookup, hne]
  | cons head rest ih =>
    obtain ⟨k'', v''⟩ := head
    simp only [insertInto]
    split <;> rename_i hc
    · simp [lookup, hne]
    · obtain rfl := Std.LawfulEqOrd.eq_of_compare hc
      simp [lookup, hne]
    · simp [lookup, ih]

/-- The answer at a key is an entry, and the entries are the answers. -/
theorem mem_entries_iff {d : Dict κ α} {k : κ} {v : α} :
    (k, v) ∈ d.entries ↔ d.get? k = some v := by
  obtain ⟨l, hl⟩ := d
  show _ ↔ lookup k l = some v
  induction l with
  | nil => simp [lookup]
  | cons head rest ih =>
    obtain ⟨k', v'⟩ := head
    have ⟨hhead, hrest⟩ := List.pairwise_cons.1 hl
    simp only [List.mem_cons, Prod.mk.injEq, lookup]
    split
    · rename_i heq
      obtain rfl := Std.LawfulEqOrd.eq_of_compare heq
      constructor
      · rintro (⟨-, rfl⟩ | h)
        · rfl
        · exact absurd (hhead _ h) (by simp)
      · rintro h
        exact .inl ⟨rfl, (Option.some.inj h).symm⟩
    · rename_i hne
      rw [← ih hrest]
      constructor
      · rintro (⟨rfl, -⟩ | h)
        · exact absurd (by simp) hne
        · exact h
      · exact .inr

theorem contains_iff {d : Dict κ α} {k : κ} : d.contains k = true ↔ k ∈ d.keys := by
  unfold contains keys
  rw [Option.isSome_iff_exists]
  simp only [← mem_entries_iff, List.mem_map]
  constructor
  · rintro ⟨v, hv⟩; exact ⟨_, hv, rfl⟩
  · rintro ⟨⟨k', v⟩, hv, rfl⟩; exact ⟨v, hv⟩

variable [Std.TransOrd κ]

@[simp] theorem get?_insert_self (d : Dict κ α) (k : κ) (v : α) :
    (d.insert k v).get? k = some v := lookup_insertInto_self k v d.entries

theorem get?_insert_of_ne {k k' : κ} (h : k ≠ k') (d : Dict κ α) (v : α) :
    (d.insert k v).get? k' = d.get? k' := lookup_insertInto_of_ne h v d.entries

/-- An insertion changes the answer at its own key only. -/
theorem get?_insert [DecidableEq κ] (d : Dict κ α) (k k' : κ) (v : α) :
    (d.insert k v).get? k' = if k = k' then some v else d.get? k' := by
  split
  · subst_vars; simp
  · exact get?_insert_of_ne ‹_› d v

theorem contains_insert [DecidableEq κ] (d : Dict κ α) (k k' : κ) (v : α) :
    (d.insert k v).contains k' = (k = k' || d.contains k') := by
  unfold contains
  rw [get?_insert]
  split <;> simp [*]

theorem get?_insertNew [DecidableEq κ] (d : Dict κ α) (k k' : κ) (v : α) :
    (d.insertNew k v).get? k' = if k = k' then some ((d.get? k).getD v) else d.get? k' := by
  unfold insertNew contains
  cases h : d.get? k with
  | none => simp [get?_insert]
  | some x =>
    by_cases hk : k = k'
    · subst hk; simp [h]
    · simp [hk]

private theorem entries_eq_of_mem {l₁ l₂ : List (κ × α)}
    (h₁ : l₁.Pairwise fun a b => compare a.1 b.1 = .lt)
    (h₂ : l₂.Pairwise fun a b => compare a.1 b.1 = .lt)
    (h : ∀ e, e ∈ l₁ ↔ e ∈ l₂) : l₁ = l₂ := by
  induction l₁ generalizing l₂ with
  | nil =>
    cases l₂ with
    | nil => rfl
    | cons e r => exact absurd ((h e).2 List.mem_cons_self) (by simp)
  | cons e₁ r₁ ih =>
    cases l₂ with
    | nil => exact absurd ((h e₁).1 List.mem_cons_self) (by simp)
    | cons e₂ r₂ =>
      have ⟨hh₁, hr₁⟩ := List.pairwise_cons.1 h₁
      have ⟨hh₂, hr₂⟩ := List.pairwise_cons.1 h₂
      have irrefl : ∀ e : κ × α, compare e.1 e.1 ≠ .lt := fun e => by simp
      have heads : e₁ = e₂ := by
        rcases List.mem_cons.1 ((h e₁).1 List.mem_cons_self) with he | he
        · exact he
        · rcases List.mem_cons.1 ((h e₂).2 List.mem_cons_self) with he' | he'
          · exact he'.symm
          · exact absurd (Std.TransCmp.lt_trans (hh₂ _ he) (hh₁ _ he')) (irrefl _)
      subst heads
      refine congrArg _ (ih hr₁ hr₂ fun e => ⟨fun he => ?_, fun he => ?_⟩)
      · rcases List.mem_cons.1 ((h e).1 (List.mem_cons_of_mem _ he)) with rfl | he'
        · exact absurd (hh₁ _ he) (irrefl _)
        · exact he'
      · rcases List.mem_cons.1 ((h e).2 (List.mem_cons_of_mem _ he)) with rfl | he'
        · exact absurd (hh₂ _ he) (irrefl _)
        · exact he'

/-- Dictionaries that answer alike are equal. -/
theorem ext_get? {d e : Dict κ α} (h : ∀ k, d.get? k = e.get? k) : d = e :=
  ext_entries <| entries_eq_of_mem d.ordered e.ordered fun (k, v) => by
    rw [mem_entries_iff, mem_entries_iff, h]

end Laws

end Dict

end Scaffold
