import Mathlib.Data.List.Basic
import Mathlib.Order.Interval.Basic
import Mathlib.Order.Minimal
import Scaffold.Proofs.Naming

/-!
# The words as stretches of a name

Where the words of a name stand can be told without cutting it.  A stretch of the name is
unbroken if it holds no separator and case changes nowhere in it, and the words are the
unbroken stretches that cannot be made longer.

Whether two neighbours are bound together is told by these two and the character behind
them.  Of a stretch that cannot be made longer, the first character is bound to nothing
before it and the last to nothing behind it, so unbroken stretches that meet lie in one of
these.  They start and end where their neighbourhood says so, whatever else the name holds.

## Main definitions

* `IsWordChar`, `CaseChanges` — what parts words.
* `Stretch`, `Unbroken` — a stretch of a name without separators and changes of case.
* `Bound` — two neighbours of one word.
* `Segments` — the stretches of a name, found as characters are put in front of it.
* `StartsAt`, `EndsAt` — the places where longest unbroken stretches start and end.

## Main results

* `maximal_unbroken_iff` — a longest unbroken stretch, told by its ends.
* `Segments.mem_iff`, `exists_segments` — the pieces are the longest unbroken stretches.
* `startsAt_append_iff`, `endsAt_append_iff` — what starts and ends a word.
* `words_of_stretches` — **words are the longest unbroken stretches of a name.**
-/

namespace Scaffold.Name

open Text

/-! ### Unbroken stretches -/

/-- A character that stands in a word. -/
def IsWordChar (c : Char) : Prop := c ≠ '_' ∧ c ≠ '-' ∧ isBlank c = false

instance (c : Char) : Decidable (IsWordChar c) := inferInstanceAs (Decidable (_ ∧ _ ∧ _))

/-- Case changes between the neighbours `p` and `c` with `next` behind them: `c` is a
capital, and `p` is a small letter or an ASCII digit, or a capital too while a small letter
comes next. -/
def CaseChanges (p c : Char) (next : Option Char) : Prop :=
  isUppercase c = true ∧
    ((isLowercase p = true ∨ p.isDigit = true) ∨
      isUppercase p = true ∧ ∃ n, next = some n ∧ isLowercase n = true)

/-- The character at a place stands in a word. -/
def WordAt (name : List Char) (i : ℕ) : Prop := ∃ c, name[i]? = some c ∧ IsWordChar c

/-- Case changes behind the character at a place. -/
def ChangesAt (name : List Char) (i : ℕ) : Prop :=
  ∃ p c, name[i]? = some p ∧ name[i + 1]? = some c ∧ CaseChanges p c name[i + 2]?

/-- A stretch of a text, from its first character to its last; a stretch is below another
if it lies in it. -/
abbrev Stretch := NonemptyInterval ℕ

/-- The characters of a stretch. -/
def Stretch.textIn (I : Stretch) (text : List Char) : List Char :=
  (text.drop I.fst).take (I.snd + 1 - I.fst)

/-- A stretch of a name that holds no separator and no change of case. -/
structure Unbroken (name : List Char) (I : Stretch) : Prop where
  /-- Its characters stand in words. -/
  wordAt : ∀ i, I.fst ≤ i → i ≤ I.snd → WordAt name i
  /-- Case does not change between two of them. -/
  unchanged : ∀ i, I.fst ≤ i → i < I.snd → ¬ChangesAt name i

/-- The character at a place is in one word with the character behind it. -/
def Bound (name : List Char) (i : ℕ) : Prop :=
  WordAt name i ∧ WordAt name (i + 1) ∧ ¬ChangesAt name i

section Ends

variable {name : List Char} {I J : Stretch}

/-- A stretch is unbroken if its neighbours are bound to each other. -/
theorem unbroken_iff :
    Unbroken name I ↔ WordAt name I.fst ∧ ∀ i, I.fst ≤ i → i < I.snd → Bound name i := by
  constructor
  · intro h
    refine ⟨h.wordAt _ le_rfl I.fst_le_snd, fun i hfst hsnd => ?_⟩
    exact ⟨h.wordAt i hfst hsnd.le, h.wordAt (i + 1) (by omega) hsnd, h.unchanged i hfst hsnd⟩
  · rintro ⟨hfirst, hbound⟩
    refine ⟨fun i hfst hsnd => ?_, fun i hfst hsnd => (hbound i hfst hsnd).2.2⟩
    rcases hfst.eq_or_lt with rfl | hlt
    · exact hfirst
    · obtain ⟨k, rfl⟩ := Nat.exists_eq_add_of_lt hlt
      exact (hbound (I.fst + k) (by omega) (by omega)).2.1

/-- A stretch that is bound to nothing at its ends holds all unbroken stretches it meets. -/
theorem le_of_not_bound (hleft : ∀ i, I.fst = i + 1 → ¬Bound name i)
    (hright : ¬Bound name I.snd) (hJ : Unbroken name J)
    (hfst : J.fst ≤ I.snd) (hsnd : I.fst ≤ J.snd) : J ≤ I := by
  obtain ⟨-, hbound⟩ := unbroken_iff.mp hJ
  constructor
  · by_contra hlt
    exact hleft (I.fst - 1) (by omega) (hbound _ (by omega) (by omega))
  · by_contra hlt
    exact hright (hbound _ (by omega) (by omega))

/-- **A longest unbroken stretch** is one that is bound to nothing at its ends. -/
theorem maximal_unbroken_iff :
    Maximal (Unbroken name) I ↔
      Unbroken name I ∧ (∀ i, I.fst = i + 1 → ¬Bound name i) ∧ ¬Bound name I.snd := by
  have hle := I.fst_le_snd
  constructor
  · intro h
    obtain ⟨hfirst, hbound⟩ := unbroken_iff.mp h.prop
    refine ⟨h.prop, fun i hi hleft => ?_, fun hright => ?_⟩
    · -- one character more in front
      let J : Stretch := ⟨(i, I.snd), by show i ≤ I.snd; omega⟩
      have hJ : Unbroken name J := by
        refine unbroken_iff.mpr ⟨hleft.1, fun k hk hlt => ?_⟩
        rcases (show i ≤ k from hk).eq_or_lt with rfl | hik
        · exact hleft
        · exact hbound k (by omega) hlt
      have hback : I.fst ≤ i := (h.le_of_ge hJ ⟨by show i ≤ I.fst; omega, le_rfl⟩).1
      omega
    · -- one character more behind
      let J : Stretch := ⟨(I.fst, I.snd + 1), by show I.fst ≤ I.snd + 1; omega⟩
      have hJ : Unbroken name J := by
        refine unbroken_iff.mpr ⟨hfirst, fun k hk hlt => ?_⟩
        rcases (Nat.lt_succ_iff.mp hlt).eq_or_lt with rfl | hki
        · exact hright
        · exact hbound k hk hki
      have hback : I.snd + 1 ≤ I.snd := (h.le_of_ge hJ ⟨le_rfl, Nat.le_succ _⟩).2
      omega
  · rintro ⟨hI, hleft, hright⟩
    refine ⟨hI, fun J hJ hIJ => le_of_not_bound hleft hright hJ ?_ ?_⟩
    · exact hIJ.1.trans hle
    · exact hle.trans hIJ.2

/-- Longest unbroken stretches that meet are one. -/
theorem eq_of_meets (hI : Maximal (Unbroken name) I) (hJ : Maximal (Unbroken name) J)
    (hfst : J.fst ≤ I.snd) (hsnd : I.fst ≤ J.snd) : I = J := by
  obtain ⟨-, hleft, hright⟩ := maximal_unbroken_iff.mp hI
  have hle : J ≤ I := le_of_not_bound hleft hright hJ.prop hfst hsnd
  exact le_antisymm (hJ.le_of_ge hI.prop hle) hle

/-- An unbroken stretch holds something. -/
theorem Unbroken.textIn_ne_nil (h : Unbroken name I) : I.textIn name ≠ [] := by
  obtain ⟨c, hc, -⟩ := h.wordAt I.fst le_rfl I.fst_le_snd
  obtain ⟨hlt, -⟩ := List.getElem?_eq_some_iff.mp hc
  have hle := I.fst_le_snd
  rw [Stretch.textIn, Ne, List.take_eq_nil_iff, List.drop_eq_nil_iff]
  omega

end Ends

/-! ### A character in front -/

/-- The place of a stretch once a character stands in front of the text. -/
def Stretch.shift (I : Stretch) : Stretch :=
  ⟨(I.fst + 1, I.snd + 1), Nat.succ_le_succ I.fst_le_snd⟩

/-- The stretch from a character in front of the text to the end of another. -/
def Stretch.upTo (I : Stretch) : Stretch := ⟨(0, I.snd + 1), Nat.zero_le _⟩

@[simp] theorem Stretch.fst_shift (I : Stretch) : I.shift.fst = I.fst + 1 := rfl

@[simp] theorem Stretch.snd_shift (I : Stretch) : I.shift.snd = I.snd + 1 := rfl

@[simp] theorem Stretch.fst_upTo (I : Stretch) : I.upTo.fst = 0 := rfl

@[simp] theorem Stretch.snd_upTo (I : Stretch) : I.upTo.snd = I.snd + 1 := rfl

section Front

variable {c : Char} {rest : List Char} {I : Stretch}

theorem Stretch.textIn_shift : I.shift.textIn (c :: rest) = I.textIn rest := by
  simp [Stretch.textIn]

theorem Stretch.textIn_upTo (h : I.fst = 0) : I.upTo.textIn (c :: rest) = c :: I.textIn rest := by
  simp [Stretch.textIn, h]

theorem Stretch.textIn_pure_zero : Stretch.textIn (.pure 0) (c :: rest) = [c] := by
  simp [Stretch.textIn]

theorem wordAt_zero_iff : WordAt (c :: rest) 0 ↔ IsWordChar c := by
  simp [WordAt]

/-- What binds places behind a new first character is what bound them before. -/
theorem unbroken_shift_iff : Unbroken (c :: rest) I.shift ↔ Unbroken rest I := by
  rw [unbroken_iff, unbroken_iff]
  refine and_congr Iff.rfl ⟨fun h i hfst hsnd => ?_, fun h i hfst hsnd => ?_⟩
  · exact h (i + 1) (Nat.succ_le_succ hfst) (Nat.succ_lt_succ hsnd)
  · obtain ⟨k, rfl⟩ := Nat.exists_eq_add_of_le' (Nat.le_of_add_left_le hfst)
    exact h k (Nat.le_of_succ_le_succ hfst) (Nat.lt_of_succ_lt_succ hsnd)

/-- A longest stretch stays one unless the new first character is bound to it. -/
theorem maximal_shift (h : Maximal (Unbroken rest) I) (hfirst : I.fst = 0 → ¬Bound (c :: rest) 0) :
    Maximal (Unbroken (c :: rest)) I.shift := by
  obtain ⟨hI, hleft, hright⟩ := maximal_unbroken_iff.mp h
  refine maximal_unbroken_iff.mpr ⟨unbroken_shift_iff.mpr hI, fun i hi => ?_, hright⟩
  rw [Stretch.fst_shift, Nat.succ.injEq] at hi
  subst hi
  cases hfst : I.fst with
  | zero => exact hfirst hfst
  | succ k => exact hleft k hfst

/-- The longest stretch the new first character is bound to is the one it belongs to. -/
theorem maximal_upTo (h : Maximal (Unbroken rest) I) (hI : I.fst = 0)
    (hbound : Bound (c :: rest) 0) : Maximal (Unbroken (c :: rest)) I.upTo := by
  obtain ⟨hunbroken, -, hright⟩ := maximal_unbroken_iff.mp h
  refine maximal_unbroken_iff.mpr ⟨unbroken_iff.mpr ⟨hbound.1, fun i _ hsnd => ?_⟩, ?_, hright⟩
  · cases i with
    | zero => exact hbound
    | succ k =>
      exact (unbroken_iff.mp hunbroken).2 k (hI ▸ Nat.zero_le k) (Nat.lt_of_succ_lt_succ hsnd)
  · intro i hi
    cases hi

/-- A new first character that is bound to nothing is a longest stretch of its own. -/
theorem maximal_pure_zero (hc : IsWordChar c) (hbound : ¬Bound (c :: rest) 0) :
    Maximal (Unbroken (c :: rest)) (.pure 0) := by
  refine maximal_unbroken_iff.mpr ⟨unbroken_iff.mpr ⟨wordAt_zero_iff.mpr hc, ?_⟩, ?_, hbound⟩
  · intro i _ hi
    cases hi
  · intro i hi
    cases hi

end Front

/-! ### All of them -/

/-- The stretches that are cut out of a name, first to last.  A new first character is a
stretch of its own or makes the first one longer. -/
inductive Segments : List Char → List Stretch → Prop
  /-- There are none in an empty name. -/
  | nil : Segments [] []
  /-- A separator belongs to none. -/
  | separator {c rest Is} (hc : ¬IsWordChar c) (h : Segments rest Is) :
      Segments (c :: rest) (Is.map Stretch.shift)
  /-- A character that is not bound to the next is one. -/
  | alone {c rest Is} (hc : IsWordChar c) (hbound : ¬Bound (c :: rest) 0) (h : Segments rest Is) :
      Segments (c :: rest) (.pure 0 :: Is.map Stretch.shift)
  /-- A character that is bound to the next belongs to the first. -/
  | bound {c rest I Is} (hbound : Bound (c :: rest) 0) (hI : I.fst = 0)
      (h : Segments rest (I :: Is)) : Segments (c :: rest) (I.upTo :: Is.map Stretch.shift)

namespace Segments

variable {name : List Char} {Is : List Stretch}

/-- They stand one behind the other. -/
theorem pairwise (h : Segments name Is) : Is.Pairwise (fun I J => I.snd < J.fst) := by
  have hshift {Js : List Stretch} (hJs : Js.Pairwise fun I J => I.snd < J.fst) :
      (Js.map Stretch.shift).Pairwise fun I J => I.snd < J.fst := by
    rw [List.pairwise_map]
    refine hJs.imp ?_
    intro I J hlt
    exact Nat.succ_lt_succ hlt
  induction h with
  | nil => exact .nil
  | separator hc h ih => exact hshift ih
  | alone hc hbound h ih =>
    exact .cons (List.forall_mem_map.mpr fun I _ => Nat.succ_pos I.fst) (hshift ih)
  | bound hbound hI h ih =>
    obtain ⟨hfirst, hrest⟩ := List.pairwise_cons.mp ih
    exact .cons (List.forall_mem_map.mpr fun J hJ => Nat.succ_lt_succ (hfirst J hJ)) (hshift hrest)

/-- None of them can be made longer. -/
theorem maximal (h : Segments name Is) : ∀ I ∈ Is, Maximal (Unbroken name) I := by
  induction h with
  | nil => exact List.forall_mem_nil _
  | separator hc h ih =>
    exact List.forall_mem_map.mpr fun I hI =>
      maximal_shift (ih I hI) fun _ hbound => hc (wordAt_zero_iff.mp hbound.1)
  | alone hc hbound h ih =>
    exact List.forall_mem_cons.mpr ⟨maximal_pure_zero hc hbound,
      List.forall_mem_map.mpr fun I hI => maximal_shift (ih I hI) fun _ => hbound⟩
  | bound hbound hI h ih =>
    obtain ⟨hfirst, hrest⟩ := List.forall_mem_cons.mp ih
    refine List.forall_mem_cons.mpr ⟨maximal_upTo hfirst hI hbound,
      List.forall_mem_map.mpr fun J hJ => maximal_shift (hrest J hJ) fun hzero => ?_⟩
    -- it stands behind the first
    have hbehind := (List.pairwise_cons.mp h.pairwise).1 J hJ
    omega

/-- Every character of a word lies in one of them. -/
theorem exists_covering (h : Segments name Is) {i : ℕ} (hi : WordAt name i) :
    ∃ I ∈ Is, I.fst ≤ i ∧ i ≤ I.snd := by
  have hshift {Js : List Stretch} {k : ℕ} (hcovered : ∃ J ∈ Js, J.fst ≤ k ∧ k ≤ J.snd) :
      ∃ J ∈ Js.map Stretch.shift, J.fst ≤ k + 1 ∧ k + 1 ≤ J.snd := by
    obtain ⟨J, hJ, hfst, hsnd⟩ := hcovered
    exact ⟨J.shift, List.mem_map_of_mem hJ, Nat.succ_le_succ hfst, Nat.succ_le_succ hsnd⟩
  induction h generalizing i with
  | nil =>
    obtain ⟨c, hc, -⟩ := hi
    cases hc
  | separator hc h ih =>
    cases i with
    | zero => exact absurd (wordAt_zero_iff.mp hi) hc
    | succ k => exact hshift (ih hi)
  | alone hc hbound h ih =>
    cases i with
    | zero => exact ⟨_, List.mem_cons_self, le_rfl, le_rfl⟩
    | succ k =>
      obtain ⟨J, hJ, hcovers⟩ := hshift (ih hi)
      exact ⟨J, List.mem_cons_of_mem _ hJ, hcovers⟩
  | bound hbound hI h ih =>
    cases i with
    | zero => exact ⟨_, List.mem_cons_self, le_rfl, Nat.zero_le _⟩
    | succ k =>
      obtain ⟨J, hJ, hcovers⟩ := ih hi
      rcases List.mem_cons.mp hJ with rfl | hJ
      · exact ⟨J.upTo, List.mem_cons_self, Nat.zero_le _, Nat.succ_le_succ hcovers.2⟩
      · obtain ⟨K, hK, hcovers⟩ := hshift ⟨J, hJ, hcovers⟩
        exact ⟨K, List.mem_cons_of_mem _ hK, hcovers⟩

/-- **They are the longest unbroken stretches.** -/
theorem mem_iff (h : Segments name Is) {I : Stretch} : I ∈ Is ↔ Maximal (Unbroken name) I := by
  refine ⟨h.maximal I, fun hI => ?_⟩
  -- it meets the one that covers its first character
  obtain ⟨J, hJ, hfst, hsnd⟩ := h.exists_covering (unbroken_iff.mp hI.prop).1
  rwa [eq_of_meets hI (h.maximal J hJ) (hfst.trans I.fst_le_snd) hsnd]

/-- If the name starts with a word, the first of them starts there. -/
theorem exists_first (h : Segments name Is) (hword : WordAt name 0) :
    ∃ I Js, Is = I :: Js ∧ I.fst = 0 := by
  cases h with
  | nil =>
    obtain ⟨c, hc, -⟩ := hword
    cases hc
  | separator hc h => exact absurd (wordAt_zero_iff.mp hword) hc
  | alone hc hbound h => exact ⟨_, _, rfl, rfl⟩
  | bound hbound hI h => exact ⟨_, _, rfl, rfl⟩

end Segments

/-! ### The pieces of a name -/

theorem isSeparator_eq_false_iff {c : Char} : isSeparator c = false ↔ IsWordChar c := by
  simp [isSeparator, IsWordChar, and_assoc]

theorem startsWord_iff {p c : Char} {next : Option Char} :
    startsWord p c next = true ↔ CaseChanges p c next := by
  cases next <;> simp [startsWord, CaseChanges]

theorem bound_zero_iff {c : Char} {rest : List Char} :
    Bound (c :: rest) 0 ↔ IsWordChar c ∧ joins c rest = true := by
  cases rest with
  | nil => simp [Bound, WordAt, joins]
  | cons d rest =>
    have hchanges : ChangesAt (c :: d :: rest) 0 ↔ CaseChanges c d rest.head? := by
      simp [ChangesAt, List.head?_eq_getElem?]
    rw [Bound, wordAt_zero_iff, hchanges, ← startsWord_iff, joins, Bool.and_eq_true,
      Bool.not_eq_true', Bool.not_eq_true', isSeparator_eq_false_iff, Bool.not_eq_true]
    exact and_congr_right fun _ => and_congr_left fun _ => @wordAt_zero_iff d rest

/-- **The pieces of a name** are the longest unbroken stretches, first to last. -/
theorem exists_segments (name : List Char) :
    ∃ Is, Segments name Is ∧ Is.map (fun I => I.textIn name) = pieces name := by
  induction name with
  | nil => exact ⟨[], .nil, rfl⟩
  | cons c rest ih =>
    obtain ⟨Is, hIs, hpieces⟩ := ih
    -- the stretches behind the new character hold what they held
    have hshift {Js : List Stretch} :
        (Js.map Stretch.shift).map (fun I => I.textIn (c :: rest))
          = Js.map fun I => I.textIn rest := by
      rw [List.map_map]
      exact List.map_congr_left fun I _ => Stretch.textIn_shift
    by_cases hc : IsWordChar c
    · have hsep := isSeparator_eq_false_iff.mpr hc
      cases hjoins : joins c rest with
      | true =>
        have hbound : Bound (c :: rest) 0 := bound_zero_iff.mpr ⟨hc, hjoins⟩
        obtain ⟨I, Js, rfl, hI⟩ := hIs.exists_first hbound.2.1
        refine ⟨_, .bound hbound hI hIs, ?_⟩
        rw [pieces_of_joins hsep hjoins, ← hpieces, List.map_cons, hshift, Stretch.textIn_upTo hI]
        rfl
      | false =>
        have hbound : ¬Bound (c :: rest) 0 := by
          rw [bound_zero_iff, hjoins]
          exact fun h => absurd h.2 Bool.false_ne_true
        refine ⟨_, .alone hc hbound hIs, ?_⟩
        rw [pieces_of_not_joins hsep hjoins, ← hpieces, List.map_cons, hshift,
          Stretch.textIn_pure_zero]
    · refine ⟨_, .separator hc hIs, ?_⟩
      have hsep : isSeparator c = true := by
        rwa [← Bool.not_eq_false, isSeparator_eq_false_iff]
      rw [pieces_cons_separator hsep, hshift, hpieces]

/-! ### Where words start and end -/

/-- A word starts at the place. -/
def StartsAt (name : List Char) (i : ℕ) : Prop :=
  ∃ I : Stretch, Maximal (Unbroken name) I ∧ I.fst = i

/-- A word ends in front of the place. -/
def EndsAt (name : List Char) (i : ℕ) : Prop :=
  ∃ I : Stretch, Maximal (Unbroken name) I ∧ I.snd + 1 = i

section Places

variable {name : List Char} {i : ℕ}

/-- Every character of a word lies in a longest unbroken stretch. -/
theorem exists_maximal (h : WordAt name i) :
    ∃ I : Stretch, Maximal (Unbroken name) I ∧ I.fst ≤ i ∧ i ≤ I.snd := by
  obtain ⟨Is, hIs, -⟩ := exists_segments name
  obtain ⟨I, hI, hcovers⟩ := hIs.exists_covering h
  exact ⟨I, hIs.maximal I hI, hcovers⟩

theorem startsAt_iff : StartsAt name i ↔ WordAt name i ∧ ∀ k, i = k + 1 → ¬Bound name k := by
  constructor
  · rintro ⟨I, hI, rfl⟩
    obtain ⟨hunbroken, hleft, -⟩ := maximal_unbroken_iff.mp hI
    exact ⟨(unbroken_iff.mp hunbroken).1, hleft⟩
  · rintro ⟨hword, hfree⟩
    obtain ⟨I, hI, hfst, hsnd⟩ := exists_maximal hword
    refine ⟨I, hI, ?_⟩
    -- if it started before, the place would be bound to the one in front
    by_contra hne
    exact hfree (i - 1) (by omega) ((unbroken_iff.mp hI.prop).2 _ (by omega) (by omega))

theorem endsAt_succ_iff : EndsAt name (i + 1) ↔ WordAt name i ∧ ¬Bound name i := by
  constructor
  · rintro ⟨I, hI, hsnd⟩
    obtain rfl := Nat.succ.inj hsnd
    obtain ⟨hunbroken, -, hright⟩ := maximal_unbroken_iff.mp hI
    exact ⟨hunbroken.wordAt _ I.fst_le_snd le_rfl, hright⟩
  · rintro ⟨hword, hfree⟩
    obtain ⟨I, hI, hfst, hsnd⟩ := exists_maximal hword
    refine ⟨I, hI, ?_⟩
    by_contra hne
    exact hfree ((unbroken_iff.mp hI.prop).2 _ hfst (by omega))

end Places

section Neighbours

variable {front back front' back' : List Char}

theorem wordAt_append_iff (i : ℕ) :
    WordAt (front ++ back) (front.length + i) ↔ WordAt back i := by
  rw [WordAt, WordAt, List.getElem?_append_right (Nat.le_add_right _ _), Nat.add_sub_cancel_left]

theorem bound_append_iff (i : ℕ) :
    Bound (front ++ back) (front.length + i) ↔ Bound back i := by
  have hget (k : ℕ) : (front ++ back)[front.length + k]? = back[k]? := by
    rw [List.getElem?_append_right (Nat.le_add_right _ _), Nat.add_sub_cancel_left]
  simp only [Bound, ChangesAt, Nat.add_assoc, wordAt_append_iff, hget]

/-- **A word starts** behind a part of the name if a word character follows that the last
character of the part is not bound to. -/
theorem startsAt_append_iff : StartsAt (front ++ back) front.length ↔
    WordAt back 0 ∧ ∀ p, front.getLast? = some p → ¬Bound (p :: back) 0 := by
  rw [startsAt_iff]
  refine and_congr (wordAt_append_iff 0) ?_
  rcases front.eq_nil_or_concat' with rfl | ⟨front, p, rfl⟩
  · simp
  · rw [List.append_assoc, List.singleton_append, List.getLast?_concat, List.length_append,
      List.length_singleton]
    simp only [Nat.succ_inj, Option.some.injEq, forall_eq']
    exact not_congr (bound_append_iff 0)

/-- **A word ends** with a part of the name if the last character of the part is in a word
and not bound to what follows. -/
theorem endsAt_append_iff : EndsAt (front ++ back) front.length ↔
    ∃ p, front.getLast? = some p ∧ IsWordChar p ∧ ¬Bound (p :: back) 0 := by
  rcases front.eq_nil_or_concat' with rfl | ⟨front, p, rfl⟩
  · simp [EndsAt]
  · rw [List.append_assoc, List.singleton_append, List.getLast?_concat, List.length_append,
      List.length_singleton, endsAt_succ_iff]
    simp only [Option.some.injEq, exists_eq_left']
    rw [← @wordAt_zero_iff p back]
    exact and_congr (wordAt_append_iff 0) (not_congr (bound_append_iff 0))

private theorem getElem?_congr {n i : ℕ} (h : back.take n = back'.take n) (hi : i < n) :
    back[i]? = back'[i]? := by
  rw [← List.getElem?_take_of_lt hi, h, List.getElem?_take_of_lt hi]

theorem wordAt_zero_congr (h : back.take 2 = back'.take 2) : WordAt back 0 ↔ WordAt back' 0 := by
  rw [WordAt, WordAt, getElem?_congr h Nat.two_pos]

/-- Whether a character is bound to the next is told by these two and the one behind them. -/
theorem bound_zero_congr (h : back.take 2 = back'.take 2) (p : Char) :
    Bound (p :: back) 0 ↔ Bound (p :: back') 0 := by
  simp only [Bound, WordAt, ChangesAt, List.getElem?_cons_succ, List.getElem?_cons_zero,
    Nat.zero_add, getElem?_congr h Nat.two_pos, getElem?_congr h Nat.one_lt_two]

end Neighbours

/-- **The words of a name are its longest unbroken stretches**, first to last: they hold no
separator and no change of case and cannot be made longer.  A stretch with a small letter is
kept, any other is put in small letters.  So no word is empty, what is not a separator stands
in one stretch, in its order, and where words start and end is told by the character in front
of the place and the two behind it. -/
theorem words_of_stretches (name : List Char) :
    (∃ Is : List Stretch,
      (∀ I, I ∈ Is ↔ Maximal (Unbroken name) I) ∧
      Is.Pairwise (fun I J => I.snd < J.fst) ∧
      (Is.map fun I => I.textIn name).flatten = name.filter (fun c => IsWordChar c) ∧
      words name = Is.map fun I =>
        if (I.textIn name).any isLowercase then I.textIn name
        else lowercaseWord (I.textIn name)) ∧
    (∀ word ∈ words name, word ≠ []) ∧
    ∀ front back front' back', front ++ back = name →
      front.getLast? = front'.getLast? → back.take 2 = back'.take 2 →
      (StartsAt name front.length ↔ StartsAt (front' ++ back') front'.length) ∧
      (EndsAt name front.length ↔ EndsAt (front' ++ back') front'.length) := by
  obtain ⟨Is, hIs, hpieces⟩ := exists_segments name
  refine ⟨⟨Is, fun I => hIs.mem_iff, hIs.pairwise, ?_, ?_⟩, ?_, ?_⟩
  · rw [hpieces, flatten_pieces]
    refine List.filter_congr fun c _ => ?_
    rw [Bool.eq_iff_iff, Bool.not_eq_true', isSeparator_eq_false_iff, decide_eq_true_eq]
  · rw [words, ← hpieces, List.map_map]
    rfl
  · intro word hword
    obtain ⟨piece, hpiece, rfl⟩ := List.mem_map.mp hword
    rw [← hpieces] at hpiece
    obtain ⟨I, hI, rfl⟩ := List.mem_map.mp hpiece
    rw [Ne, settle_eq_nil_iff]
    exact (hIs.maximal I hI).prop.textIn_ne_nil
  · rintro front back front' back' rfl hlast hnext
    rw [startsAt_append_iff, startsAt_append_iff, endsAt_append_iff, endsAt_append_iff, hlast,
      wordAt_zero_congr hnext]
    simp only [bound_zero_congr hnext, and_self]

/-- The run of capitals ends in front of the last of them, as in another name with the same
letters there. -/
theorem words_of_stretches_httpServer :
    (∃ Is : List Stretch, (∀ I, I ∈ Is ↔ Maximal (Unbroken "HTTPServer".toList) I) ∧
      Is.length = 2) ∧
    (∀ word ∈ words "HTTPServer".toList, word ≠ []) ∧
    (StartsAt "HTTPServer".toList 4 ↔ StartsAt "myAPSet".toList 4) ∧
    (EndsAt "HTTPServer".toList 4 ↔ EndsAt "myAPSet".toList 4) := by
  have hwords : words "HTTPServer".toList = ["http".toList, "Server".toList] := by decide +kernel
  obtain ⟨⟨Is, hmem, -, -, hmap⟩, hne, hplaces⟩ := words_of_stretches "HTTPServer".toList
  have hlength := congrArg List.length hmap
  rw [hwords, List.length_map] at hlength
  have hplaces := hplaces "HTTP".toList "Server".toList "myAP".toList "Set".toList
    (by decide) (by decide) (by decide)
  exact ⟨⟨Is, hmem, hlength.symm⟩, hne, hplaces⟩

end Scaffold.Name
