import Scaffold.Dict

/-!
# Laws of dictionaries

What the makers of dictionaries answer.  A dictionary made from a list of entries
answers with the last entry of a key, so the laws are stated on the list read from
its end; where no key comes twice the direction does not matter.

## Main results

* `Dict.of_findSome?_entries` — a search over the entries.
* `Dict.exists_entries_insert` — where an insertion puts an entry.
* `Dict.get?_ofList`, `Dict.contains_ofList` — entries put in one after the other.
* `Dict.get?_ofList_map_iff` — one entry for each element of a list.
* `Dict.get?_union` — the second dictionary wins.
* `Dict.get?_filter`, `Dict.get?_mapValues`, `Dict.isEmpty_iff_get?` — entry by entry.
* `Dict.keys_congr` — the keys, whatever stands under them.
* `Dict.foldlM_entries` — a walk that passes over all keys but some.
-/

namespace Scaffold.Dict

universe u v w

variable {κ : Type u} {α : Type v} [Ord κ]

/-! ### Looking up in a list -/

theorem lookup_append (k : κ) (l₁ l₂ : List (κ × α)) :
    lookup k (l₁ ++ l₂) = (lookup k l₁).or (lookup k l₂) := by
  induction l₁ with
  | nil => rfl
  | cons head rest ih =>
    obtain ⟨k', v'⟩ := head
    simp only [List.cons_append, lookup]
    split
    · rfl
    · exact ih

/-- The place of a key among the entries depends on the keys alone. -/
theorem exists_insertInto (k : κ) (l : List (κ × α)) :
    ∃ before after, (∀ v, insertInto k v l = before ++ (k, v) :: after) ∧
      (lookup k l = none → l = before ++ after) := by
  induction l with
  | nil => exact ⟨[], [], fun _ => rfl, fun _ => rfl⟩
  | cons head rest ih =>
    obtain ⟨k', v'⟩ := head
    cases h : compare k k' with
    | lt => exact ⟨[], (k', v') :: rest, fun v => by simp [insertInto, h], fun _ => rfl⟩
    | eq =>
      refine ⟨[], rest, fun v => by simp [insertInto, h], fun hnone => ?_⟩
      rw [lookup, if_pos h] at hnone
      cases hnone
    | gt =>
      obtain ⟨before, after, hinsert, hnone⟩ := ih
      refine ⟨(k', v') :: before, after, fun v => ?_, fun h' => ?_⟩
      · simp only [insertInto, h]
        rw [hinsert, List.cons_append]
      · rw [lookup, if_neg (by simp [h])] at h'
        rw [hnone h', List.cons_append]

/-- **An insertion puts an entry between the others.** -/
theorem exists_entries_insert [Std.TransOrd κ] (d : Dict κ α) (k : κ) :
    ∃ before after, (∀ v, (d.insert k v).entries = before ++ (k, v) :: after) ∧
      (d.get? k = none → d.entries = before ++ after) :=
  exists_insertInto k d.entries

variable [Std.LawfulEqOrd κ]

theorem lookup_singleton [DecidableEq κ] (k k' : κ) (v : α) :
    lookup k [(k', v)] = if k' = k then some v else none := by
  rw [lookup, lookup]
  by_cases h : k' = k
  · rw [if_pos h, if_pos (Std.LawfulEqCmp.compare_eq_iff_eq.mpr h.symm)]
  · rw [if_neg h, if_neg fun hc => h (Std.LawfulEqCmp.compare_eq_iff_eq.mp hc).symm]

theorem mem_of_lookup {k : κ} {v : α} {l : List (κ × α)} (h : lookup k l = some v) :
    (k, v) ∈ l := by
  induction l with
  | nil => simp [lookup] at h
  | cons head rest ih =>
    obtain ⟨k', v'⟩ := head
    rw [lookup] at h
    split at h
    · next heq =>
      obtain rfl := Std.LawfulEqOrd.eq_of_compare heq
      obtain rfl := Option.some.inj h
      exact List.mem_cons_self
    · exact List.mem_cons_of_mem _ (ih h)

theorem isSome_lookup_iff {k : κ} {l : List (κ × α)} :
    (lookup k l).isSome = true ↔ k ∈ l.map (·.1) := by
  constructor
  · intro h
    obtain ⟨v, hv⟩ := Option.isSome_iff_exists.mp h
    exact List.mem_map.mpr ⟨(k, v), mem_of_lookup hv, rfl⟩
  · intro h
    induction l with
    | nil => simp at h
    | cons head rest ih =>
      obtain ⟨k', v'⟩ := head
      rw [lookup]
      split
      · rfl
      · next hne =>
        rw [List.map_cons, List.mem_cons] at h
        rcases h with rfl | h
        · exact absurd (Std.LawfulEqCmp.compare_eq_iff_eq.mpr rfl) hne
        · exact ih h

/-- Where no key comes twice, an entry is found under its key. -/
theorem lookup_eq_some_of_mem {k : κ} {v : α} {l : List (κ × α)}
    (hl : (l.map (·.1)).Nodup) (h : (k, v) ∈ l) : lookup k l = some v := by
  induction l with
  | nil => simp at h
  | cons head rest ih =>
    obtain ⟨k', v'⟩ := head
    rw [List.map_cons, List.nodup_cons] at hl
    rw [lookup]
    rcases List.mem_cons.mp h with heq | hmem
    · obtain ⟨rfl, rfl⟩ := Prod.mk.inj heq
      rw [if_pos (Std.LawfulEqCmp.compare_eq_iff_eq.mpr rfl)]
    · have hne : k ≠ k' := by
        rintro rfl
        exact hl.1 (List.mem_map.mpr ⟨(k, v), hmem, rfl⟩)
      rw [if_neg fun hc => hne (Std.LawfulEqOrd.eq_of_compare hc)]
      exact ih hl.2 hmem

/-- Where no key comes twice, it does not matter which entry of a key counts. -/
theorem lookup_reverse {l : List (κ × α)} (hl : (l.map (·.1)).Nodup) (k : κ) :
    lookup k l.reverse = lookup k l := by
  refine Option.ext fun v => ⟨fun h => ?_, fun h => ?_⟩
  · exact lookup_eq_some_of_mem hl (List.mem_reverse.mp (mem_of_lookup h))
  · refine lookup_eq_some_of_mem ?_ (List.mem_reverse.mpr (mem_of_lookup h))
    rw [List.map_reverse]
    exact (List.reverse_perm _).nodup_iff.mpr hl

/-! ### Keys and entries -/

/-- No key stands twice in a dictionary. -/
theorem nodup_keys (d : Dict κ α) : d.keys.Nodup := by
  refine List.pairwise_map.mpr (d.ordered.imp ?_)
  intro a b hlt heq
  rw [heq, Std.LawfulEqOrd.compare_eq_iff_eq.mpr rfl] at hlt
  cases hlt

theorem isEmpty_iff_get? {d : Dict κ α} : d.isEmpty = true ↔ ∀ k, d.get? k = none := by
  constructor
  · intro h k
    rw [isEmpty_iff.mp h, get?_empty]
  · intro h
    have hnil : d.entries = [] := by
      rw [List.eq_nil_iff_forall_not_mem]
      rintro ⟨k, v⟩ hmem
      rw [mem_entries_iff, h k] at hmem
      cases hmem
    rw [isEmpty, hnil, List.isEmpty_nil]

theorem get?_filter (p : κ → α → Bool) (d : Dict κ α) (k : κ) :
    (d.filter p).get? k = (d.get? k).filter (p k) := by
  refine Option.ext fun v => ?_
  rw [← mem_entries_iff, Option.filter_eq_some_iff, ← mem_entries_iff]
  exact List.mem_filter

theorem get?_mapValues {β : Type w} (f : κ → α → β) (d : Dict κ α) (k : κ) :
    (d.mapValues f).get? k = (d.get? k).map (f k) := by
  refine Option.ext fun v => ?_
  rw [← mem_entries_iff, Option.map_eq_some_iff]
  simp only [mapValues, List.mem_map, Prod.exists, Prod.mk.injEq, mem_entries_iff]
  constructor
  · rintro ⟨_, v', hget, rfl, rfl⟩
    exact ⟨v', hget, rfl⟩
  · rintro ⟨v', hget, rfl⟩
    exact ⟨k, v', hget, rfl, rfl⟩

/-- A walk over the entries that stops at one key only finds the value of the key. -/
theorem flatMap_entries_of_key {β : Type w} {k : κ} {f : κ × α → List β}
    (hf : ∀ e, e.1 ≠ k → f e = []) (d : Dict κ α) :
    d.entries.flatMap f = (d.get? k).toList.flatMap fun v => f (k, v) := by
  have hd := d.nodup_keys
  unfold keys at hd
  unfold get?
  generalize d.entries = l at hd
  induction l with
  | nil => rfl
  | cons head rest ih =>
    obtain ⟨k', v⟩ := head
    rw [List.map_cons, List.nodup_cons] at hd
    rw [List.flatMap_cons, lookup]
    by_cases hk : k = k'
    · -- no later entry has the key
      subst hk
      have hrest : rest.flatMap f = [] := by
        refine List.flatMap_eq_nil_iff.mpr fun e he => hf e fun heq => hd.1 ?_
        exact List.mem_map.mpr ⟨e, he, heq⟩
      rw [if_pos (Std.LawfulEqCmp.compare_eq_iff_eq.mpr rfl), hrest, List.append_nil,
        Option.toList_some, List.flatMap_cons, List.flatMap_nil, List.append_nil]
    · rw [if_neg fun hc => hk (Std.LawfulEqOrd.eq_of_compare hc), hf _ fun h => hk h.symm,
        List.nil_append, ih hd.2]

/-! ### Entries put in one after the other -/

variable [Std.TransOrd κ]

/-- Dictionaries that have the same keys list them alike. -/
theorem keys_congr {d e : Dict κ α} (h : ∀ k, d.contains k = true ↔ e.contains k = true) :
    d.keys = e.keys := by
  have hkeys (d : Dict κ α) : (d.mapValues fun _ _ => ()).keys = d.keys := by
    simp [keys, mapValues, Function.comp_def]
  -- without their values they are equal
  have hunits : (d.mapValues fun _ _ => ()) = e.mapValues fun _ _ => () := by
    refine ext_get? fun k => ?_
    have hk : (d.get? k).isSome = (e.get? k).isSome := Bool.eq_iff_iff.mpr (h k)
    rw [get?_mapValues, get?_mapValues]
    cases hd : d.get? k with
    | none =>
      rw [hd, Option.isSome_none, eq_comm, Option.isSome_eq_false_iff,
        Option.isNone_iff_eq_none] at hk
      rw [hk]
    | some v =>
      rw [hd, Option.isSome_some, eq_comm, Option.isSome_iff_exists] at hk
      obtain ⟨v', hv⟩ := hk
      rw [hv]
      rfl
  rw [← hkeys d, hunits, hkeys e]

/-- **A search over the entries ends at the least key** of those it looks for. -/
theorem of_findSome?_entries {β : Type w} {f : κ × α → Option β} {d : Dict κ α} {b : β}
    (h : d.entries.findSome? f = some b) :
    ∃ k v, d.get? k = some v ∧ f (k, v) = some b ∧
      ∀ k' v', d.get? k' = some v' → compare k' k = .lt → f (k', v') = none := by
  obtain ⟨before, ⟨k, v⟩, after, hentries, hf, hbefore⟩ := List.findSome?_eq_some_iff.mp h
  have hordered := d.ordered
  rw [hentries, List.pairwise_append, List.pairwise_cons] at hordered
  refine ⟨k, v, mem_entries_iff.mp (by simp [hentries]), hf, fun k' v' hk' hlt => ?_⟩
  rw [← mem_entries_iff, hentries, List.mem_append, List.mem_cons] at hk'
  rcases hk' with hk' | heq | hk'
  · exact hbefore _ hk'
  · obtain ⟨rfl, -⟩ := Prod.mk.inj heq
    exact absurd hlt (by simp)
  · -- what comes after is above
    have hgt := hordered.2.1.1 _ hk'
    rw [Std.OrientedCmp.gt_of_lt hgt] at hlt
    cases hlt

/-- Entries of different keys may be put in in either order. -/
theorem insert_comm {k k' : κ} (h : k ≠ k') (d : Dict κ α) (v v' : α) :
    (d.insert k v).insert k' v' = (d.insert k' v').insert k v := by
  classical
  refine ext_get? fun x => ?_
  by_cases hx : k = x
  · subst hx
    rw [get?_insert_of_ne h.symm, get?_insert_self, get?_insert_self]
  · rw [get?_insert_of_ne hx, get?_insert, get?_insert_of_ne hx, get?_insert]

/-- An entry that is there already may be put in again. -/
theorem insert_of_get? {d : Dict κ α} {k : κ} {v : α} (h : d.get? k = some v) :
    d.insert k v = d := by
  classical
  refine ext_get? fun k' => ?_
  rw [get?_insert]
  split
  · next hk => rw [← hk, h]
  · rfl

/-- The last entry of a key counts, and below the entries what was there before. -/
theorem get?_foldl_insert (l : List (κ × α)) (d : Dict κ α) (k : κ) :
    (l.foldl (fun d e => d.insert e.1 e.2) d).get? k = (lookup k l.reverse).or (d.get? k) := by
  classical
  induction l generalizing d with
  | nil => rfl
  | cons head rest ih =>
    obtain ⟨k', v'⟩ := head
    rw [List.foldl_cons, ih, List.reverse_cons, lookup_append, lookup_singleton, get?_insert,
      Option.or_assoc]
    split <;> rfl

/-- Where entries are only added, what was there before counts, and then the first
entry of a key. -/
theorem get?_foldl_insertNew (l : List (κ × α)) (d : Dict κ α) (k : κ) :
    (l.foldl (fun d e => d.insertNew e.1 e.2) d).get? k = (d.get? k).or (lookup k l) := by
  classical
  induction l generalizing d with
  | nil => rw [List.foldl_nil, lookup, Option.or_none]
  | cons head rest ih =>
    obtain ⟨k', v'⟩ := head
    -- the first entry counts only if nothing stood under its key
    rw [List.foldl_cons, ih, get?_insertNew, lookup]
    by_cases h : k' = k
    · subst h
      rw [if_pos rfl, if_pos (Std.LawfulEqCmp.compare_eq_iff_eq.mpr rfl)]
      cases d.get? k' <;> rfl
    · rw [if_neg h, if_neg fun hc => h (Std.LawfulEqCmp.compare_eq_iff_eq.mp hc).symm]

theorem get?_ofList (l : List (κ × α)) (k : κ) : (ofList l).get? k = lookup k l.reverse := by
  rw [ofList, get?_foldl_insert, get?_empty, Option.or_none]

/-- Entries that are in order already are put in as they stand. -/
theorem ofList_entries (d : Dict κ α) : ofList d.entries = d :=
  ext_get? fun k => (get?_ofList _ k).trans (lookup_reverse d.nodup_keys k)

theorem contains_ofList {l : List (κ × α)} {k : κ} :
    (ofList l).contains k = true ↔ k ∈ l.map (·.1) := by
  rw [contains, get?_ofList, isSome_lookup_iff, List.map_reverse, List.mem_reverse]

theorem mem_of_get?_ofList {l : List (κ × α)} {k : κ} {v : α} (h : (ofList l).get? k = some v) :
    (k, v) ∈ l := by
  rw [get?_ofList] at h
  exact List.mem_reverse.mp (mem_of_lookup h)

/-! ### One entry for each element of a list -/

section Listed

variable {β : Type w} {l : List β} {key : β → κ} {f : β → α} {k : κ}

theorem contains_ofList_map :
    (ofList (l.map fun a => (key a, f a))).contains k = true ↔ ∃ a ∈ l, key a = k := by
  rw [contains_ofList, List.map_map, List.mem_map]
  rfl

theorem of_get?_ofList_map {v : α} (h : (ofList (l.map fun a => (key a, f a))).get? k = some v) :
    ∃ a ∈ l, key a = k ∧ f a = v := by
  obtain ⟨a, hmem, ha⟩ := List.mem_map.mp (mem_of_get?_ofList h)
  obtain ⟨hkey, hf⟩ := Prod.mk.inj ha
  exact ⟨a, hmem, hkey, hf⟩

/-- Where elements of one key have one value, it does not matter which of them comes last. -/
theorem get?_ofList_map_iff (hf : ∀ a ∈ l, ∀ b ∈ l, key a = key b → f a = f b) {v : α} :
    (ofList (l.map fun a => (key a, f a))).get? k = some v ↔ ∃ a ∈ l, key a = k ∧ f a = v := by
  refine ⟨of_get?_ofList_map, ?_⟩
  rintro ⟨a, ha, hkey, rfl⟩
  obtain ⟨v, hv⟩ := Option.isSome_iff_exists.mp (contains_ofList_map (f := f).mpr ⟨a, ha, hkey⟩)
  obtain ⟨b, hb, hkey', rfl⟩ := of_get?_ofList_map hv
  rw [hv, hf a ha b hb (hkey.trans hkey'.symm)]

end Listed

/-! ### Two dictionaries -/

/-- **Under a key of both dictionaries the second one answers.** -/
theorem get?_union (d e : Dict κ α) (k : κ) : (d.union e).get? k = (e.get? k).or (d.get? k) := by
  -- no key stands twice in `e`, so its entries answer from either end
  rw [union, get?_foldl_insert, lookup_reverse e.nodup_keys]
  rfl

/-- Entries of distinct keys that are only added stand below what was there before. -/
theorem foldl_insertNew_eq_union {l : List (κ × α)} (hl : (l.map (·.1)).Nodup) (d : Dict κ α) :
    l.foldl (fun d e => d.insertNew e.1 e.2) d = (ofList l).union d := by
  refine ext_get? fun k => ?_
  rw [get?_foldl_insertNew, get?_union, get?_ofList, lookup_reverse hl]

/-! ### Walks that look for some keys -/

section Walks

variable [DecidableEq κ] {keys : List κ}

/-- The entries whose keys are on a list, in the order of the list. -/
theorem entries_filter_eq_filterMap (hkeys : keys.Pairwise fun a b => compare a b = .lt)
    (d : Dict κ α) :
    (d.filter fun k _ => k ∈ keys).entries = keys.filterMap fun k => (d.get? k).map (k, ·) := by
  have hordered : (keys.filterMap fun k => (d.get? k).map (k, ·)).Pairwise
      fun a b => compare a.1 b.1 = .lt := by
    refine List.pairwise_filterMap.mpr (hkeys.imp fun hlt => ?_)
    rintro _ ha _ hb
    obtain ⟨_, -, rfl⟩ := Option.map_eq_some_iff.mp ha
    obtain ⟨_, -, rfl⟩ := Option.map_eq_some_iff.mp hb
    exact hlt
  have heq : d.filter (fun k _ => k ∈ keys) = ⟨_, hordered⟩ := by
    refine ext_get? fun k => Option.ext fun v => ?_
    rw [get?_filter, Option.filter_eq_some_iff, ← mem_entries_iff (d := ⟨_, hordered⟩),
      List.mem_filterMap, decide_eq_true_eq]
    constructor
    · rintro ⟨hget, hk⟩
      exact ⟨k, hk, by rw [hget]; rfl⟩
    · rintro ⟨k', hk, hmap⟩
      obtain ⟨v', hget, heq⟩ := Option.map_eq_some_iff.mp hmap
      obtain ⟨rfl, rfl⟩ := Prod.mk.inj heq
      exact ⟨hget, hk⟩
  rw [heq]

/-- **A walk that passes over all keys but some** looks these up, one after the other. -/
theorem foldlM_entries {ε σ : Type w} (hkeys : keys.Pairwise fun a b => compare a b = .lt)
    {f : σ → κ × α → Except ε σ} (hother : ∀ s k v, k ∉ keys → f s (k, v) = .ok s)
    (d : Dict κ α) (s : σ) :
    d.entries.foldlM f s
      = keys.foldlM (fun s k => match d.get? k with
          | some v => f s (k, v)
          | none => .ok s) s := by
  have hfilter : d.entries.foldlM f s = (d.filter fun k _ => k ∈ keys).entries.foldlM f s := by
    rw [filter, List.foldlM_filter]
    congr 1
    funext s e
    split
    · rfl
    · next hk => exact hother s e.1 e.2 (by simpa using hk)
  rw [hfilter, entries_filter_eq_filterMap hkeys, List.foldlM_filterMap]
  congr 1
  funext s k
  cases d.get? k <;> rfl

end Walks

end Scaffold.Dict
