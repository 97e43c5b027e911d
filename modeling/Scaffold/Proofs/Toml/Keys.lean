import Mathlib.Data.List.Nodup
import Scaffold.Proofs.Fallible
import Scaffold.Toml.Document

/-!
# Keys stand once

In a table of a text that can be read no key stands twice, however deep the table lies: a
second assignment, header or inline pair of the same key is refused, not obeyed.  So it does
not matter whether the first or the last entry of a key is looked at.

Everything that changes a table does so at the end of a path, through `Entries.update`, which
has one law here: what becomes of the table at the end is what the change says, and the tables
around it keep their keys.

## Main definitions

* `Value.Distinct`, `Entry.Distinct`, `Entries.Distinct` — no key stands twice.
* `Entries.tableAt` — the table at the end of a path.
* `Draft.Distinct` — the invariant of a text while it is read.

## Main results

* `Entries.of_update` — the law of a change at the end of a path.
* `Draft.Distinct.apply`, `distinct_of_ofStatements` — one statement, and all of them.
* `distinct_of_read` — **no key stands twice in a table of a text.**
-/

namespace Scaffold.Toml

/-! ### Values and tables without a second key -/

/-- No key stands twice in a table of the value. -/
inductive Value.Distinct : Value → Prop
  | string (text : String) : Distinct (.string text)
  | number (literal : String) : Distinct (.number literal)
  | noNumber : Distinct .noNumber
  | boolean (b : Bool) : Distinct (.boolean b)
  | moment (text : String) : Distinct (.moment text)
  | array {items : List Value} (all : ∀ v ∈ items, v.Distinct) : Distinct (.array items)
  | table {entries : List (String × Value)} (keys : (entries.map (·.1)).Nodup)
      (all : ∀ e ∈ entries, e.2.Distinct) : Distinct (.table entries)

/-- No key stands twice in a table of what stands under a key. -/
inductive Entry.Distinct : Entry → Prop
  | value {v : Value} (h : v.Distinct) : Distinct (.value v)
  | table {origin : Origin} {entries : List (String × Entry)} (keys : (entries.map (·.1)).Nodup)
      (all : ∀ e ∈ entries, e.2.Distinct) : Distinct (.table origin entries)
  | tables {elements : List (List (String × Entry))}
      (keys : ∀ entries ∈ elements, (entries.map (·.1)).Nodup)
      (all : ∀ entries ∈ elements, ∀ e ∈ entries, e.2.Distinct) : Distinct (.tables elements)

namespace Entries

/-- No key stands twice, neither among the entries nor below them. -/
structure Distinct (entries : Entries) : Prop where
  /-- The keys of the entries are distinct. -/
  keys : (entries.map (·.1)).Nodup
  /-- So are those of the tables below. -/
  all : ∀ e ∈ entries, e.2.Distinct

/-! ### What stands under a key -/

section Find

variable {key : String} {e : Entry} {entries : Entries}

theorem find?_eq_none_iff : entries.find? key = none ↔ key ∉ entries.map (·.1) := by
  induction entries with
  | nil => exact iff_of_true rfl List.not_mem_nil
  | cons head rest ih =>
    obtain ⟨k, e⟩ := head
    rw [find?, List.map_cons, List.mem_cons, not_or, ← ih]
    by_cases hk : k = key
    · rw [if_pos hk]
      exact iff_of_false nofun fun h => h.1 hk.symm
    · rw [if_neg hk]
      exact (and_iff_right (Ne.symm hk)).symm

theorem mem_of_find? (h : entries.find? key = some e) : (key, e) ∈ entries := by
  induction entries with
  | nil => cases h
  | cons head rest ih =>
    obtain ⟨k, e'⟩ := head
    rw [find?] at h
    split at h
    · next hk =>
      obtain rfl := Option.some.inj h
      exact hk ▸ List.mem_cons_self
    · exact List.mem_cons_of_mem _ (ih h)

theorem find?_append_self (h : entries.find? key = none) :
    Entries.find? key (entries ++ [(key, e)]) = some e := by
  induction entries with
  | nil => exact if_pos rfl
  | cons head rest ih =>
    obtain ⟨k, e'⟩ := head
    rw [find?] at h
    split at h
    · cases h
    · next hk =>
      rw [List.cons_append, find?, if_neg hk]
      exact ih h

theorem find?_replace_self {old : Entry} (h : entries.find? key = some old) :
    (entries.replace key e).find? key = some e := by
  induction entries with
  | nil => cases h
  | cons head rest ih =>
    obtain ⟨k, e'⟩ := head
    by_cases hk : k = key
    · rw [replace, if_pos hk, find?, if_pos hk]
    · rw [find?, if_neg hk] at h
      rw [replace, if_neg hk, find?, if_neg hk]
      exact ih h

theorem find?_without_self : (entries.without key).find? key = none := by
  rw [find?_eq_none_iff]
  intro hmem
  obtain ⟨⟨k, e⟩, he, rfl⟩ := List.mem_map.mp hmem
  exact of_decide_eq_true (List.mem_filter.mp he).2 rfl

theorem map_fst_replace : (entries.replace key e).map (·.1) = entries.map (·.1) := by
  induction entries with
  | nil => rfl
  | cons head rest ih =>
    obtain ⟨k, e'⟩ := head
    rw [replace]
    split
    · rfl
    · exact congrArg (k :: ·) ih

theorem eq_or_mem_of_mem_replace {x : String × Entry} (h : x ∈ entries.replace key e) :
    x = (key, e) ∨ x ∈ entries := by
  induction entries with
  | nil => cases h
  | cons head rest ih =>
    obtain ⟨k, e'⟩ := head
    rw [replace] at h
    split at h
    · next hk =>
      rw [List.mem_cons, hk] at h
      exact h.imp_right (List.mem_cons_of_mem _)
    · rcases List.mem_cons.mp h with rfl | h
      · exact .inr List.mem_cons_self
      · exact (ih h).imp_right (List.mem_cons_of_mem _)

end Find

/-! ### Changes that keep the keys distinct -/

namespace Distinct

variable {key : String} {e : Entry} {entries : Entries}

theorem nil : Distinct [] := ⟨List.nodup_nil, List.forall_mem_nil _⟩

theorem of_find? (h : entries.Distinct) (he : entries.find? key = some e) : e.Distinct :=
  h.all _ (mem_of_find? he)

theorem append (h : entries.Distinct) (hkey : entries.find? key = none) (he : e.Distinct) :
    Entries.Distinct (entries ++ [(key, e)]) where
  keys := by
    rw [List.map_append, List.nodup_append]
    refine ⟨h.keys, List.nodup_singleton key, fun k hk k' hk' => ?_⟩
    obtain rfl := List.mem_singleton.mp hk'
    exact ne_of_mem_of_not_mem hk (find?_eq_none_iff.mp hkey)
  all := List.forall_mem_append.mpr ⟨h.all, List.forall_mem_singleton.mpr he⟩

theorem replace (h : entries.Distinct) (he : e.Distinct) : (entries.replace key e).Distinct where
  keys := by
    rw [map_fst_replace]
    exact h.keys
  all x hx := by
    rcases eq_or_mem_of_mem_replace hx with rfl | hx
    · exact he
    · exact h.all x hx

theorem without (h : entries.Distinct) : (entries.without key).Distinct where
  keys := h.keys.sublist (List.filter_sublist.map _)
  all e he := h.all e (List.mem_filter.mp he).1

end Distinct

/-! ### A change at the end of a path -/

/-- The table at the end of a path, the last one of a list; where nothing is, an empty one. -/
def tableAt : List String → Entries → Entries
  | [], entries => entries
  | key :: path, entries =>
    match entries.find? key with
    | none => tableAt path []
    | some (.table _ inner) => tableAt path inner
    | some (.tables elements) => tableAt path (elements.getLast?.getD [])
    | some (.value _) => []

theorem Distinct.tableAt {path : List String} {entries : Entries} (h : entries.Distinct) :
    (entries.tableAt path).Distinct := by
  induction path generalizing entries with
  | nil => exact h
  | cons key path ih =>
    rw [Entries.tableAt]
    split
    · exact ih .nil
    · next hfind =>
      cases h.of_find? hfind with
      | table keys all => exact ih ⟨keys, all⟩
    · next elements hfind =>
      cases h.of_find? hfind with
      | tables keys all =>
        cases hlast : elements.getLast? with
        | none => exact ih .nil
        | some last =>
          have hmem := List.mem_of_getLast? hlast
          exact ih ⟨keys last hmem, all last hmem⟩
    · exact .nil

/-- A list stays distinct when its last table is changed into a distinct one. -/
theorem Distinct.concat {elements : List Entries} {last : Entries}
    (h : Entry.Distinct (.tables elements)) (hlast : last.Distinct) :
    Entry.Distinct (.tables (elements.dropLast ++ [last])) := by
  cases h with
  | tables keys all =>
    refine .tables (List.forall_mem_append.mpr ⟨fun entries he => ?_, ?_⟩)
      (List.forall_mem_append.mpr ⟨fun entries he => ?_, ?_⟩)
    · exact keys entries (List.dropLast_subset elements he)
    · exact List.forall_mem_singleton.mpr hlast.keys
    · exact all entries (List.dropLast_subset elements he)
    · exact List.forall_mem_singleton.mpr hlast.all

/-- **What a change at the end of a path does**: the table at the end becomes what the change
says, and the keys stay distinct if they do so there. -/
theorem of_update {α : Type} {way : Origin} {change : Origin → Entries → Option (Entries × α)}
    {here : Origin} {path : List String} {entries out : Entries} {a : α}
    (h : update way change here path entries = some (out, a)) :
    ∃ origin, change origin (entries.tableAt path) = some (out.tableAt path, a) ∧
      (entries.Distinct → (out.tableAt path).Distinct → out.Distinct) := by
  induction path generalizing here entries out with
  | nil => exact ⟨here, h, fun _ hout => hout⟩
  | cons key path ih =>
    rw [update] at h
    split at h
    · next hfind =>
      -- nothing stands under the key, so a new table comes behind all others
      obtain ⟨⟨inner, a⟩, hinner, h⟩ := Option.bind_eq_some_iff.mp h
      obtain ⟨rfl, rfl⟩ := Prod.mk.inj (Option.some.inj h)
      obtain ⟨origin, hchange, hkeep⟩ := ih hinner
      rw [tableAt, hfind, tableAt, find?_append_self hfind]
      refine ⟨origin, hchange, fun hentries hout => ?_⟩
      have hnew := hkeep .nil hout
      exact hentries.append hfind (.table hnew.keys hnew.all)
    · next origin inner hfind =>
      split at h
      · cases h
      obtain ⟨⟨inner', a⟩, hinner, h⟩ := Option.bind_eq_some_iff.mp h
      obtain ⟨rfl, rfl⟩ := Prod.mk.inj (Option.some.inj h)
      obtain ⟨origin, hchange, hkeep⟩ := ih hinner
      rw [tableAt, hfind, tableAt, find?_replace_self hfind]
      refine ⟨origin, hchange, fun hentries hout => ?_⟩
      cases hentries.of_find? hfind with
      | table keys all =>
        have hnew := hkeep ⟨keys, all⟩ hout
        exact hentries.replace (.table hnew.keys hnew.all)
    · next elements hfind =>
      -- of several tables under one key, the last one is meant
      split at h
      · cases h
      · next last hlast =>
        obtain ⟨⟨last', a⟩, hinner, h⟩ := Option.bind_eq_some_iff.mp h
        obtain ⟨rfl, rfl⟩ := Prod.mk.inj (Option.some.inj h)
        obtain ⟨origin, hchange, hkeep⟩ := ih hinner
        rw [tableAt, hfind, tableAt, find?_replace_self hfind]
        dsimp only
        rw [hlast, Option.getD_some, List.getLast?_concat, Option.getD_some]
        refine ⟨origin, hchange, fun hentries hout => ?_⟩
        have hlist := hentries.of_find? hfind
        refine hentries.replace (Distinct.concat hlist (hkeep ?_ hout))
        cases hlist with
        | tables keys all =>
          have hmem := List.mem_of_getLast? hlast
          exact ⟨keys last hmem, all last hmem⟩
    · cases h

/-- What a change keeps at the end of a path, it keeps as a whole. -/
theorem Distinct.update {α : Type} {way : Origin}
    {change : Origin → Entries → Option (Entries × α)} {here : Origin} {path : List String}
    {entries out : Entries} {a : α} (hentries : entries.Distinct)
    (hchange : ∀ {origin inner out a}, inner.Distinct → change origin inner = some (out, a) →
      out.Distinct)
    (h : Entries.update way change here path entries = some (out, a)) : out.Distinct := by
  obtain ⟨origin, hat, hkeep⟩ := of_update h
  exact hkeep hentries (hchange hentries.tableAt hat)

theorem Distinct.put {path : List String} {key : String} {v : Value} {entries out : Entries}
    (hentries : entries.Distinct) (hv : v.Distinct) (h : entries.put path key v = some out) :
    out.Distinct := by
  obtain ⟨⟨out, a⟩, hupdate, h⟩ := Option.bind_eq_some_iff.mp h
  obtain rfl := Option.some.inj h
  refine hentries.update (fun {origin inner out a} hinner hchange => ?_) hupdate
  dsimp only at hchange
  split at hchange
  · cases hchange
  obtain ⟨added, hadd, hchange⟩ := Option.bind_eq_some_iff.mp hchange
  obtain ⟨rfl, -⟩ := Prod.mk.inj (Option.some.inj hchange)
  rw [add] at hadd
  split at hadd
  · cases hadd
  · next hkey =>
    obtain rfl := Option.some.inj hadd
    exact hinner.append (Option.not_isSome_iff_eq_none.mp hkey) (.value hv)

end Entries

/-! ### The finished table -/

theorem Entries.toTable_eq_map (entries : Entries) :
    Entries.toTable entries = entries.map fun e => (e.1, e.2.toValue) := by
  induction entries with
  | nil => exact Entries.toTable.eq_1
  | cons head rest ih =>
    obtain ⟨key, e⟩ := head
    rw [Entries.toTable.eq_2, ih, List.map_cons]

theorem elementValues_eq_map (elements : List Entries) :
    elementValues elements = elements.map fun entries => .table (Entries.toTable entries) := by
  induction elements with
  | nil => exact elementValues.eq_1
  | cons entries rest ih => rw [elementValues.eq_2, ih, List.map_cons]

/-- By induction on how the distinctness was told. -/
theorem Entry.Distinct.toValue {e : Entry} (h : e.Distinct) : e.toValue.Distinct := by
  have htable {entries : Entries} (keys : (entries.map (·.1)).Nodup)
      (ih : ∀ e ∈ entries, e.2.toValue.Distinct) :
      (Value.table (Entries.toTable entries)).Distinct := by
    rw [Entries.toTable_eq_map]
    refine .table ?_ (List.forall_mem_map.mpr ih)
    rw [List.map_map]
    exact keys
  induction h with
  | value h => exact h
  | table keys all ih => exact htable keys ih
  | tables keys all ih =>
    rw [Entry.toValue, elementValues_eq_map]
    exact .array (List.forall_mem_map.mpr fun entries he =>
      htable (keys entries he) (ih entries he))

theorem Entries.Distinct.toTable {entries : Entries} (h : entries.Distinct) :
    (Value.table (Entries.toTable entries)).Distinct :=
  Entry.Distinct.toValue (e := .table .header entries) (.table h.keys h.all)

/-! ### Values of a text -/

private theorem distinct_of_readRadix {base : Nat} {text rest : List Char} {v : Value}
    (h : readRadix base text = some (v, rest)) : v.Distinct := by
  obtain ⟨⟨digits, after⟩, -, h⟩ := Option.bind_eq_some_iff.mp h
  dsimp only at h
  split at h
  · obtain ⟨rfl, -⟩ := Prod.mk.inj (Option.some.inj h)
    exact .number _
  · cases h

private theorem distinct_of_floatValue {negative : Bool} {d : Decimal} {literal : String}
    {v : Value} (h : floatValue negative d literal = some v) : v.Distinct := by
  rw [floatValue] at h
  split at h
  · obtain rfl := Option.some.inj h
    exact .number literal
  · split at h
    · obtain rfl := Option.some.inj h
      exact .noNumber
    · cases h

private theorem distinct_of_readDecimal {negative : Bool} {text rest : List Char} {v : Value}
    (h : readDecimal negative text = some (v, rest)) : v.Distinct := by
  obtain ⟨⟨whole, afterWhole⟩, -, h⟩ := Option.bind_eq_some_iff.mp h
  obtain ⟨⟨fraction, afterFraction⟩, -, h⟩ := Option.bind_eq_some_iff.mp h
  obtain ⟨⟨exponent, afterExponent⟩, -, h⟩ := Option.bind_eq_some_iff.mp h
  dsimp only at h
  split at h
  · split at h
    · obtain ⟨rfl, -⟩ := Prod.mk.inj (Option.some.inj h)
      exact .number _
    · cases h
  · obtain ⟨v', hv, h⟩ := Option.bind_eq_some_iff.mp h
    obtain ⟨rfl, -⟩ := Prod.mk.inj (Option.some.inj h)
    exact distinct_of_floatValue hv

theorem distinct_of_readNumber {text rest : List Char} {v : Value}
    (h : readNumber text = some (v, rest)) : v.Distinct := by
  unfold readNumber at h
  split at h
  · exact distinct_of_readRadix h
  · exact distinct_of_readRadix h
  · exact distinct_of_readRadix h
  · dsimp only at h
    split at h
    · obtain ⟨rfl, -⟩ := Prod.mk.inj (Option.some.inj h)
      exact .noNumber
    · obtain ⟨rfl, -⟩ := Prod.mk.inj (Option.some.inj h)
      exact .noNumber
    · exact distinct_of_readDecimal h

theorem distinct_of_readWord {text rest : List Char} {v : Value}
    (h : readWord text = some (v, rest)) : v.Distinct := by
  unfold readWord at h
  split at h
  · obtain ⟨rfl, -⟩ := Prod.mk.inj (Option.some.inj h)
    exact .boolean true
  · obtain ⟨rfl, -⟩ := Prod.mk.inj (Option.some.inj h)
    exact .boolean false
  · split at h
    · obtain ⟨rfl, -⟩ := Prod.mk.inj (Option.some.inj h)
      exact .moment _
    · exact distinct_of_readNumber h

/-- **The table of an inline table has no key twice**, whatever its pairs are. -/
theorem distinct_of_tableOfPairs {pairs : List (Key × Value)} {t : Table}
    (hpairs : ∀ p ∈ pairs, p.2.Distinct) (h : tableOfPairs pairs = some t) :
    (Value.table t).Distinct := by
  obtain ⟨entries, hfold, h⟩ := Option.bind_eq_some_iff.mp h
  obtain rfl := Option.some.inj h
  have hentries : Entries.Distinct entries :=
    Option.foldlM_invariant hfold .nil fun p hp _ _ hs hput => hs.put (hpairs p hp) hput
  exact hentries.toTable

/-- A value has no key twice if the items and the pairs that it holds have none. -/
private theorem distinct_of_readValue_step {fuel : Nat}
    (hitems : ∀ bound, fuel = bound + 1 → ∀ depth text items rest,
      readItems bound depth text = some (items, rest) → ∀ v ∈ items, v.Distinct)
    (hpairs : ∀ bound, fuel = bound + 1 → ∀ depth text pairs rest,
      readPairs bound depth text = some (pairs, rest) → ∀ p ∈ pairs, p.2.Distinct)
    {depth : Nat} {text rest : List Char} {v : Value}
    (h : readValue fuel depth text = some (v, rest)) : v.Distinct := by
  unfold readValue at h
  split at h
  · obtain ⟨⟨s, after⟩, -, h⟩ := Option.map_eq_some_iff.mp h
    obtain ⟨rfl, -⟩ := Prod.mk.inj h
    exact .string s
  · obtain ⟨⟨s, after⟩, -, h⟩ := Option.map_eq_some_iff.mp h
    obtain ⟨rfl, -⟩ := Prod.mk.inj h
    exact .string s
  · obtain ⟨⟨items, after⟩, hread, h⟩ := Option.bind_eq_some_iff.mp h
    obtain ⟨rfl, -⟩ := Prod.mk.inj (Option.some.inj h)
    exact .array (hitems _ rfl _ _ _ _ hread)
  · split at h
    · obtain ⟨rfl, -⟩ := Prod.mk.inj (Option.some.inj h)
      exact .table List.nodup_nil (List.forall_mem_nil _)
    · obtain ⟨⟨pairs, after⟩, hread, h⟩ := Option.bind_eq_some_iff.mp h
      obtain ⟨t, ht, h⟩ := Option.bind_eq_some_iff.mp h
      obtain ⟨rfl, -⟩ := Prod.mk.inj (Option.some.inj h)
      exact distinct_of_tableOfPairs (hpairs _ rfl _ _ _ _ hread) ht
  · exact distinct_of_readWord h

/-- The three readers together, by induction on the bound. -/
private theorem distinct_of_readers (fuel : Nat) :
    (∀ depth text v rest, readValue fuel depth text = some (v, rest) → v.Distinct) ∧
    (∀ depth text items rest, readItems fuel depth text = some (items, rest) →
      ∀ v ∈ items, v.Distinct) ∧
    ∀ depth text pairs rest, readPairs fuel depth text = some (pairs, rest) →
      ∀ p ∈ pairs, p.2.Distinct := by
  induction fuel with
  | zero =>
    -- without fuel no array and no table is read
    have hnone (bound : Nat) : 0 ≠ bound + 1 := (Nat.succ_ne_zero bound).symm
    refine ⟨fun _ _ _ _ => distinct_of_readValue_step (fun bound h => absurd h (hnone bound))
      fun bound h => absurd h (hnone bound), fun _ _ _ _ h => ?_, fun _ _ _ _ h => ?_⟩
    · cases h
    · cases h
  | succ fuel ih =>
    obtain ⟨hvalue, hitems, hpairs⟩ := ih
    refine ⟨fun _ _ _ _ => distinct_of_readValue_step ?_ ?_, fun depth text items rest h => ?_,
      fun depth text pairs rest h => ?_⟩
    · rintro _ ⟨⟩
      exact hitems
    · rintro _ ⟨⟩
      exact hpairs
    · unfold readItems at h
      split at h
      · cases h
      · obtain ⟨rfl, -⟩ := Prod.mk.inj (Option.some.inj h)
        exact List.forall_mem_nil _
      · next hfuel _ =>
        obtain rfl := Nat.succ.inj hfuel
        obtain ⟨⟨item, after⟩, hitem, h⟩ := Option.bind_eq_some_iff.mp h
        dsimp only at h
        split at h
        · obtain ⟨⟨others, after⟩, hothers, h⟩ := Option.bind_eq_some_iff.mp h
          obtain ⟨rfl, -⟩ := Prod.mk.inj (Option.some.inj h)
          exact List.forall_mem_cons.mpr ⟨hvalue _ _ _ _ hitem, hitems _ _ _ _ hothers⟩
        · obtain ⟨rfl, -⟩ := Prod.mk.inj (Option.some.inj h)
          exact List.forall_mem_singleton.mpr (hvalue _ _ _ _ hitem)
        · cases h
    · unfold readPairs at h
      obtain ⟨⟨key, afterKey⟩, -, h⟩ := Option.bind_eq_some_iff.mp h
      obtain ⟨afterSign, -, h⟩ := Option.bind_eq_some_iff.mp h
      obtain ⟨⟨v, afterValue⟩, hread, h⟩ := Option.bind_eq_some_iff.mp h
      have hv := hvalue _ _ _ _ hread
      dsimp only at h
      split at h
      · obtain ⟨⟨others, after⟩, hothers, h⟩ := Option.bind_eq_some_iff.mp h
        obtain ⟨rfl, -⟩ := Prod.mk.inj (Option.some.inj h)
        exact List.forall_mem_cons.mpr ⟨hv, hpairs _ _ _ _ hothers⟩
      · obtain ⟨rfl, -⟩ := Prod.mk.inj (Option.some.inj h)
        exact List.forall_mem_singleton.mpr hv
      · cases h

/-- **A value of a text has no key twice.** -/
theorem distinct_of_readValue {fuel depth : Nat} {text rest : List Char} {v : Value}
    (h : readValue fuel depth text = some (v, rest)) : v.Distinct :=
  (distinct_of_readers fuel).1 depth text v rest h

theorem distinct_of_readStatement {text rest : List Char} {key : Key} {v : Value}
    (h : readStatement text = some (.assign key v, rest)) : v.Distinct := by
  unfold readStatement at h
  split at h
  · obtain ⟨⟨key, afterKey⟩, -, h⟩ := Option.bind_eq_some_iff.mp h
    obtain ⟨after, -, h⟩ := Option.bind_eq_some_iff.mp h
    obtain ⟨after, -, h⟩ := Option.bind_eq_some_iff.mp h
    obtain ⟨after, -, h⟩ := Option.bind_eq_some_iff.mp h
    cases h
  · obtain ⟨⟨key, afterKey⟩, -, h⟩ := Option.bind_eq_some_iff.mp h
    obtain ⟨after, -, h⟩ := Option.bind_eq_some_iff.mp h
    obtain ⟨after, -, h⟩ := Option.bind_eq_some_iff.mp h
    cases h
  · split at h
    · cases h
    · obtain ⟨⟨key, afterKey⟩, -, h⟩ := Option.bind_eq_some_iff.mp h
      obtain ⟨afterSign, -, h⟩ := Option.bind_eq_some_iff.mp h
      obtain ⟨⟨v, afterValue⟩, hread, h⟩ := Option.bind_eq_some_iff.mp h
      obtain ⟨after, -, h⟩ := Option.bind_eq_some_iff.mp h
      cases h
      exact distinct_of_readValue hread

theorem distinct_of_readStatements {fuel : Nat} {text : List Char} {statements : List Statement}
    (h : readStatements fuel text = some statements) {key : Key} {v : Value}
    (hmem : .assign key v ∈ statements) : v.Distinct := by
  induction fuel generalizing text statements with
  | zero => cases h
  | succ fuel ih =>
    rw [readStatements] at h
    split at h
    · obtain rfl := Option.some.inj h
      cases hmem
    · obtain ⟨⟨s, after⟩, hs, h⟩ := Option.bind_eq_some_iff.mp h
      obtain ⟨others, hothers, h⟩ := Option.bind_eq_some_iff.mp h
      obtain rfl := Option.some.inj h
      rcases List.mem_cons.mp hmem with rfl | hmem
      · exact distinct_of_readStatement hs
      · exact ih hothers hmem

/-! ### The table of a text while it is built -/

namespace Draft

/-- What holds of a draft after any statements: no key stands twice in what is there, and the
place of the table that is being filled is still free. -/
structure Distinct (d : Draft) : Prop where
  /-- No key stands twice in what is complete. -/
  root : d.root.Distinct
  /-- Nor does one in what has been assigned since. -/
  current : d.current.Distinct
  /-- Nothing stands where the current table will go. -/
  free : ∀ key, d.target = .table key → (d.root.tableAt key.path).find? key.last = none

theorem of_atParent {α : Type} {key : Key} {change : Entries → Option (Entries × α)}
    {root out : Entries} {a : α} (h : atParent key change root = some (out, a)) :
    change (root.tableAt key.path) = some (out.tableAt key.path, a) ∧
      (root.Distinct → (out.tableAt key.path).Distinct → out.Distinct) := by
  obtain ⟨-, hchange⟩ := Entries.of_update h
  exact hchange

theorem distinct_of_addElement {name : String} {element entries out : Entries}
    (hentries : entries.Distinct) (helement : element.Distinct)
    (h : addElement name element entries = some (out, ())) : out.Distinct := by
  rw [addElement] at h
  split at h
  · next hfind =>
    obtain ⟨rfl, -⟩ := Prod.mk.inj (Option.some.inj h)
    exact hentries.append hfind (.tables (List.forall_mem_singleton.mpr helement.keys)
      (List.forall_mem_singleton.mpr helement.all))
  · next elements hfind =>
    obtain ⟨rfl, -⟩ := Prod.mk.inj (Option.some.inj h)
    cases hentries.of_find? hfind with
    | tables keys all =>
      exact hentries.replace (.tables
        (List.forall_mem_append.mpr ⟨keys, List.forall_mem_singleton.mpr helement.keys⟩)
        (List.forall_mem_append.mpr ⟨all, List.forall_mem_singleton.mpr helement.all⟩))
  · cases h

theorem distinct_of_reserveList {name : String} {entries out : Entries}
    (hentries : entries.Distinct) (h : reserveList name entries = some (out, ())) :
    out.Distinct := by
  rw [reserveList] at h
  split at h
  · next hfind =>
    obtain ⟨rfl, -⟩ := Prod.mk.inj (Option.some.inj h)
    exact hentries.append hfind (.tables (List.forall_mem_nil _) (List.forall_mem_nil _))
  · obtain ⟨rfl, -⟩ := Prod.mk.inj (Option.some.inj h)
    exact hentries
  · cases h

/-- A table that is taken out leaves its place free. -/
theorem distinct_of_takeTable {name : String} {entries out taken : Entries}
    (hentries : entries.Distinct) (h : takeTable name entries = some (out, taken)) :
    out.Distinct ∧ taken.Distinct ∧ out.find? name = none := by
  rw [takeTable] at h
  split at h
  · next hfind =>
    obtain ⟨rfl, rfl⟩ := Prod.mk.inj (Option.some.inj h)
    exact ⟨hentries, .nil, hfind⟩
  · next inner hfind =>
    obtain ⟨rfl, rfl⟩ := Prod.mk.inj (Option.some.inj h)
    cases hentries.of_find? hfind with
    | table keys all => exact ⟨hentries.without, ⟨keys, all⟩, Entries.find?_without_self⟩
  · cases h

variable {d d' : Draft}

/-- **Putting the current assignments where they belong brings up no key twice.** -/
theorem Distinct.finish {out : Entries} (hd : d.Distinct) (h : d.finish = some out) :
    out.Distinct := by
  rw [Draft.finish] at h
  split at h
  · obtain rfl := Option.some.inj h
    exact hd.current
  · next key htarget =>
    obtain ⟨⟨out, _⟩, hparent, h⟩ := Option.bind_eq_some_iff.mp h
    obtain rfl := Option.some.inj h
    obtain ⟨hchange, hkeep⟩ := of_atParent hparent
    refine hkeep hd.root ?_
    rw [← (Prod.mk.inj (Option.some.inj hchange)).1]
    exact hd.root.tableAt.append (hd.free key htarget) (.table hd.current.keys hd.current.all)
  · obtain ⟨⟨out, _⟩, hparent, h⟩ := Option.bind_eq_some_iff.mp h
    obtain rfl := Option.some.inj h
    obtain ⟨hchange, hkeep⟩ := of_atParent hparent
    exact hkeep hd.root (distinct_of_addElement hd.root.tableAt hd.current hchange)

/-- **One statement brings up no key twice.** -/
theorem Distinct.apply {s : Statement} (hd : d.Distinct)
    (hs : ∀ key v, s = .assign key v → v.Distinct) (h : d.apply s = some d') : d'.Distinct := by
  cases s with
  | empty =>
    obtain rfl := Option.some.inj h
    exact hd
  | assign key v =>
    obtain ⟨current, hput, h⟩ := Option.bind_eq_some_iff.mp h
    obtain rfl := Option.some.inj h
    exact ⟨hd.root, hd.current.put (hs key v rfl) hput, hd.free⟩
  | table key =>
    obtain ⟨root, hfinish, h⟩ := Option.bind_eq_some_iff.mp h
    obtain ⟨⟨root', current⟩, hparent, h⟩ := Option.bind_eq_some_iff.mp h
    obtain rfl := Option.some.inj h
    have hroot := hd.finish hfinish
    obtain ⟨hchange, hkeep⟩ := of_atParent hparent
    obtain ⟨hout, hcurrent, hfree⟩ := distinct_of_takeTable hroot.tableAt hchange
    refine ⟨hkeep hroot hout, hcurrent, fun key' htarget => ?_⟩
    obtain rfl := Target.table.inj htarget
    exact hfree
  | element key =>
    obtain ⟨root, hfinish, h⟩ := Option.bind_eq_some_iff.mp h
    obtain ⟨⟨root', _⟩, hparent, h⟩ := Option.bind_eq_some_iff.mp h
    obtain rfl := Option.some.inj h
    have hroot := hd.finish hfinish
    obtain ⟨hchange, hkeep⟩ := of_atParent hparent
    exact ⟨hkeep hroot (distinct_of_reserveList hroot.tableAt hchange), .nil, nofun⟩

end Draft

/-- Any statements bring up no key twice, by the invariant of the draft. -/
theorem distinct_of_ofStatements {statements : List Statement} {t : Table}
    (hstatements : ∀ key v, .assign key v ∈ statements → v.Distinct)
    (h : ofStatements statements = some t) : (Value.table t).Distinct := by
  obtain ⟨d, hfold, h⟩ := Option.bind_eq_some_iff.mp h
  obtain ⟨out, hfinish, h⟩ := Option.bind_eq_some_iff.mp h
  obtain rfl := Option.some.inj h
  have hd : d.Distinct := by
    refine Option.foldlM_invariant hfold ⟨.nil, .nil, nofun⟩ fun s hs d d' hd happly => ?_
    exact hd.apply (fun key v hassign => hstatements key v (hassign ▸ hs)) happly
  exact (hd.finish hfinish).toTable

/-- **No key stands twice in a table of a text.** -/
theorem distinct_of_read {text : String} {t : Table} (h : read text = some t) :
    (Value.table t).Distinct := by
  obtain ⟨statements, hread, h⟩ := Option.bind_eq_some_iff.mp h
  exact distinct_of_ofStatements (fun key v hmem => distinct_of_readStatements hread hmem) h

end Scaffold.Toml
