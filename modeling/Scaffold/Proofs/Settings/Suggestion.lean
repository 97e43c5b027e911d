import Scaffold.Proofs.Text.Distance
import Scaffold.Settings.Unknown

/-!
# Suggestions for unknown keys

For a key that means nothing the known keys are gone through in their order, and the nearest
so far is kept until one comes that is nearer still.  One as near comes too late.  The one
that is left is suggested if it is two edits away at most, an edit being one byte put in,
taken out or replaced.

## Main definitions

* `FirstNearest` — the first of the candidates that no other is nearer than.

## Main results

* `Text.byteDistance_eq_zero_iff` — only equal texts are no edit apart.
* `exists_nearest?` — what going through the candidates leaves.
* `suggestion?_of_least_edits` — **which key is suggested.**
-/

namespace Scaffold

open Text

/-- It stands among the candidates, none of them is nearer to the key, and those in front of it
are farther. -/
def FirstNearest (key : String) (candidates : List String) (found : String) : Prop :=
  ∃ i : Nat, candidates[i]? = some found ∧
    ∀ (j : Nat) (other : String), candidates[j]? = some other →
      byteDistance key found ≤ byteDistance key other ∧
        (j < i → byteDistance key found < byteDistance key other)

/-! ### Bytes -/

theorem Text.bytes_injective : Function.Injective bytes := by
  intro a b h
  have harray : a.toUTF8.data = b.toUTF8.data := Array.toList_inj.mp h
  exact String.toByteArray_inj.mp (ByteArray.ext harray)

theorem Text.byteDistance_eq_zero_iff {a b : String} : byteDistance a b = 0 ↔ a = b :=
  distance_eq_zero_iff.trans bytes_injective.eq_iff

/-! ### Going through the candidates -/

variable {key : String} {candidates : List String}

/-- Only one candidate is the first of the nearest. -/
theorem FirstNearest.unique {a b : String} (ha : FirstNearest key candidates a)
    (hb : FirstNearest key candidates b) : a = b := by
  obtain ⟨i, hi, hleast⟩ := ha
  obtain ⟨j, hj, hleast'⟩ := hb
  have hab := hleast j b hj
  have hba := hleast' i a hi
  rcases Nat.lt_trichotomy i j with hlt | rfl | hgt
  · exact absurd (hba.2 hlt) (Nat.not_lt.mpr hab.1)
  · exact Option.some.inj (hi.symm.trans hj)
  · exact absurd (hab.2 hgt) (Nat.not_lt.mpr hba.1)

private theorem getElem?_concat_cases {j : Nat} {candidate other : String}
    (h : (candidates ++ [candidate])[j]? = some other) :
    candidates[j]? = some other ∨ j = candidates.length ∧ other = candidate := by
  rcases Nat.lt_trichotomy j candidates.length with hlt | rfl | hgt
  · rw [List.getElem?_append_left hlt] at h
    exact .inl h
  · rw [List.getElem?_concat_length, Option.some.injEq] at h
    exact .inr ⟨rfl, h.symm⟩
  · have hlength : (candidates ++ [candidate]).length ≤ j := by
      rw [List.length_append, List.length_singleton]
      omega
    rw [List.getElem?_eq_none hlength] at h
    cases h

/-- One more candidate that is no nearer changes nothing. -/
private theorem FirstNearest.concat {held candidate : String}
    (h : FirstNearest key candidates held)
    (hle : byteDistance key held ≤ byteDistance key candidate) :
    FirstNearest key (candidates ++ [candidate]) held := by
  obtain ⟨i, hi, hleast⟩ := h
  have hlt : i < candidates.length := (List.getElem?_eq_some_iff.mp hi).1
  refine ⟨i, by rw [List.getElem?_append_left hlt, hi], fun j other hother => ?_⟩
  rcases getElem?_concat_cases hother with hold | ⟨rfl, rfl⟩
  · exact hleast j other hold
  · exact ⟨hle, fun hbefore => absurd hbefore (Nat.lt_asymm hlt)⟩

/-- One more candidate that is nearer than the nearest is the only nearest one. -/
private theorem FirstNearest.concat_of_lt {held candidate : String}
    (h : FirstNearest key candidates held)
    (hlt : byteDistance key candidate < byteDistance key held) :
    FirstNearest key (candidates ++ [candidate]) candidate := by
  obtain ⟨i, -, hleast⟩ := h
  refine ⟨candidates.length, List.getElem?_concat_length, fun j other hother => ?_⟩
  rcases getElem?_concat_cases hother with hold | ⟨rfl, rfl⟩
  · have hfar := hlt.trans_le (hleast j other hold).1
    exact ⟨hfar.le, fun _ => hfar⟩
  · exact ⟨le_rfl, fun hbefore => absurd hbefore (Nat.lt_irrefl _)⟩

private theorem nearest?_concat (candidate : String) :
    nearest? key (candidates ++ [candidate]) = match nearest? key candidates with
      | none => some (candidate, byteDistance key candidate)
      | some (held, least) =>
        if byteDistance key candidate < least then some (candidate, byteDistance key candidate)
        else some (held, least) := by
  rw [nearest?, List.foldl_append, List.foldl_cons, List.foldl_nil]
  rfl

/-- **Going through the candidates** leaves the first of the nearest. -/
theorem exists_nearest? (key : String) (candidates : List String) (h : candidates ≠ []) :
    ∃ found, nearest? key candidates = some (found, byteDistance key found) ∧
      FirstNearest key candidates found := by
  induction candidates using List.reverseRecOn with
  | nil => exact absurd rfl h
  | append_singleton candidates candidate ih =>
    rw [nearest?_concat]
    by_cases hnil : candidates = []
    · subst hnil
      refine ⟨candidate, rfl, 0, rfl, fun j other hother => ?_⟩
      rcases getElem?_concat_cases hother with hold | ⟨rfl, rfl⟩
      · cases hold
      · exact ⟨le_rfl, fun hbefore => absurd hbefore (Nat.lt_irrefl _)⟩
    · obtain ⟨held, hnearest, hfirst⟩ := ih hnil
      rw [hnearest]
      dsimp only
      by_cases hlt : byteDistance key candidate < byteDistance key held
      · exact ⟨candidate, if_pos hlt, hfirst.concat_of_lt hlt⟩
      · exact ⟨held, if_neg hlt, hfirst.concat (Nat.not_lt.mp hlt)⟩

/-! ### Suggestions -/

theorem suggestion?_eq_some_iff {found : String} :
    suggestion? key = some found
      ↔ FirstNearest key settingKeys found ∧ byteDistance key found ≤ 2 := by
  obtain ⟨nearest, hnearest, hfirst⟩ :=
    exists_nearest? key settingKeys (List.cons_ne_nil _ _)
  rw [suggestion?, hnearest]
  dsimp only
  constructor
  · intro h
    split at h
    · next hle =>
      obtain rfl := Option.some.inj h
      exact ⟨hfirst, hle⟩
    · cases h
  · rintro ⟨hfound, hle⟩
    obtain rfl := hfirst.unique hfound
    exact if_pos hle

theorem suggestion?_eq_none_iff :
    suggestion? key = none ↔ ∀ known ∈ settingKeys, 2 < byteDistance key known := by
  obtain ⟨nearest, -, i, hi, hleast⟩ :=
    exists_nearest? key settingKeys (List.cons_ne_nil _ _)
  rw [← not_iff_not, ← Ne, Option.ne_none_iff_exists']
  simp only [suggestion?_eq_some_iff, not_forall, Nat.not_lt, exists_prop]
  constructor
  · rintro ⟨found, ⟨j, hj, -⟩, hle⟩
    exact ⟨found, List.mem_of_getElem? hj, hle⟩
  · rintro ⟨known, hmem, hle⟩
    obtain ⟨j, hj⟩ := List.mem_iff_getElem?.mp hmem
    exact ⟨nearest, ⟨i, hi, hleast⟩, (hleast j known hj).1.trans hle⟩

/-- **Which key is suggested**: the distance of two texts is the least number of bytes to put in,
take out or replace on the way from the one to the other, and so it is the same both ways, zero
for equal texts only, and no longer than the way over a third text; and for any key, the first
of the nearest known keys is suggested if it is two edits away at most, and none if all of them
are farther. -/
theorem suggestion?_of_least_edits :
    (∀ a b : String, IsLeast {n | Edits n (bytes a) (bytes b)} (byteDistance a b)) ∧
    (∀ a b : String, byteDistance a b = byteDistance b a) ∧
    (∀ a b : String, byteDistance a b = 0 ↔ a = b) ∧
    (∀ a b c : String, byteDistance a c ≤ byteDistance a b + byteDistance b c) ∧
    ∀ key : String,
      (∀ found, suggestion? key = some found
        ↔ FirstNearest key settingKeys found ∧ byteDistance key found ≤ 2) ∧
      (suggestion? key = none ↔ ∀ known ∈ settingKeys, 2 < byteDistance key known) :=
  ⟨fun _ _ => isLeast_distance _ _, fun _ _ => distance_comm _ _,
    fun _ _ => byteDistance_eq_zero_iff, fun _ _ _ => distance_le_add _ _ _,
    fun _ => ⟨fun _ => suggestion?_eq_some_iff, suggestion?_eq_none_iff⟩⟩

/-- One byte left out. -/
example : suggestion? "directry" = some "directory" ∧ suggestion? "colour" = none := by
  decide +kernel

end Scaffold
