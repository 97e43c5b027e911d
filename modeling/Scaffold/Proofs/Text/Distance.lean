import Mathlib.Data.List.Induction
import Mathlib.Order.Bounds.Basic
import Mathlib.Order.MinMax
import Scaffold.Text.Distance

/-!
# The edit distance is a distance

The rows of the table are filled from left to right, each from the one before it, and an
entry is the cheapest of three ways to come from a neighbour.  The difficulty is the claim
that no other way of editing is cheaper: edits may fall anywhere and in any order, and may
undo each other.  It is enough to see that a single edit of one list changes its entry by
one at most, wherever the edit falls; this is an induction on what stands in front of it.

The rows grow at the ends of both lists, so the entries are described on lists whose last
unit comes first.

## Main definitions

* `Edit`, `Edits` — one edit, and so many of them one after the other.
* `cost` — an entry of the table, for two starts whose last unit comes first.

## Main results

* `foldl_nextRow` — **the rows** hold the costs.
* `cost_le_of_edit` — what one edit changes.
* `isLeast_distance` — **the distance is the least number of edits.**
* `distance_comm`, `distance_eq_zero_iff`, `distance_le_add` — it is a distance.
-/

namespace Scaffold.Text

variable {α : Type}

/-! ### Edits -/

/-- One unit is put in, taken out or replaced. -/
inductive Edit : List α → List α → Prop
  /-- A unit is put in. -/
  | insert (before : List α) (x : α) (after : List α) :
      Edit (before ++ after) (before ++ x :: after)
  /-- A unit is taken out. -/
  | delete (before : List α) (x : α) (after : List α) :
      Edit (before ++ x :: after) (before ++ after)
  /-- A unit is replaced. -/
  | replace (before : List α) (x y : α) (after : List α) :
      Edit (before ++ x :: after) (before ++ y :: after)

/-- So many edits, one after the other. -/
inductive Edits : Nat → List α → List α → Prop
  | refl (s : List α) : Edits 0 s s
  | head {n : Nat} {s t u : List α} (first : Edit s t) (rest : Edits n t u) : Edits (n + 1) s u

variable {s t u : List α}

namespace Edit

theorem symm (h : Edit s t) : Edit t s := by
  cases h with
  | insert before x after => exact .delete before x after
  | delete before x after => exact .insert before x after
  | replace before x y after => exact .replace before y x after

theorem cons (c : α) (h : Edit s t) : Edit (c :: s) (c :: t) := by
  cases h with
  | insert before x after => exact .insert (c :: before) x after
  | delete before x after => exact .delete (c :: before) x after
  | replace before x y after => exact .replace (c :: before) x y after

theorem reverse (h : Edit s t) : Edit s.reverse t.reverse := by
  cases h with
  | insert before x after =>
    simpa using Edit.insert after.reverse x before.reverse
  | delete before x after =>
    simpa using Edit.delete after.reverse x before.reverse
  | replace before x y after =>
    simpa using Edit.replace after.reverse x y before.reverse

end Edit

namespace Edits

theorem trans {m n : Nat} (h : Edits m s t) (h' : Edits n t u) : Edits (m + n) s u := by
  induction h with
  | refl s => rwa [Nat.zero_add]
  | head first _ ih =>
    rw [Nat.add_right_comm]
    exact .head first (ih h')

theorem tail {n : Nat} (h : Edits n s t) (last : Edit t u) : Edits (n + 1) s u :=
  h.trans (.head last (.refl u))

theorem symm {n : Nat} (h : Edits n s t) : Edits n t s := by
  induction h with
  | refl s => exact .refl s
  | head first _ ih => exact ih.tail first.symm

theorem cons {n : Nat} (c : α) (h : Edits n s t) : Edits n (c :: s) (c :: t) := by
  induction h with
  | refl s => exact .refl _
  | head first _ ih => exact .head (first.cons c) ih

theorem reverse {n : Nat} (h : Edits n s t) : Edits n s.reverse t.reverse := by
  induction h with
  | refl s => exact .refl _
  | head first _ ih => exact .head first.reverse ih

theorem eq_of_zero (h : Edits 0 s t) : s = t := by
  cases h
  rfl

end Edits

/-! ### Entries of the table -/

variable [DecidableEq α]

/-- An entry of the table, for two starts whose last unit comes first: the cheapest of taking
out the last unit of the one, putting in that of the other, and putting one for the other. -/
def cost : List α → List α → Nat
  | [], t => t.length
  | s, [] => s.length
  | x :: s, y :: t =>
    min (min (cost s (y :: t) + 1) (cost (x :: s) t + 1)) (cost s t + if x = y then 0 else 1)

@[simp] theorem cost_nil_left (t : List α) : cost [] t = t.length := by
  rw [cost]

@[simp] theorem cost_nil_right (s : List α) : cost s [] = s.length := by
  cases s <;> rw [cost]
  exact List.cons_ne_nil _ _

theorem cost_cons_cons (x y : α) (s t : List α) :
    cost (x :: s) (y :: t)
      = min (min (cost s (y :: t) + 1) (cost (x :: s) t + 1))
        (cost s t + if x = y then 0 else 1) := by
  rw [cost]

/-- One unit more on the left costs one edit at most. -/
private theorem cost_cons_left_le (x : α) (s t : List α) : cost (x :: s) t ≤ cost s t + 1 := by
  cases t with
  | nil => simp
  | cons y t =>
    rw [cost_cons_cons]
    omega

/-- One unit more on the right costs one edit at most. -/
private theorem cost_cons_right_le (y : α) (s t : List α) : cost s (y :: t) ≤ cost s t + 1 := by
  cases s with
  | nil => simp
  | cons x s =>
    rw [cost_cons_cons]
    omega

/-- One unit less on the left costs one edit at most. -/
private theorem cost_le_cons_left (x : α) (s t : List α) : cost s t ≤ cost (x :: s) t + 1 := by
  induction t with
  | nil =>
    rw [cost_nil_right, cost_nil_right, List.length_cons]
    omega
  | cons y t ih =>
    have hright := cost_cons_right_le y s t
    rw [cost_cons_cons]
    omega

/-- Another last unit on the left costs one edit at most. -/
private theorem cost_cons_le_cons (x y : α) (s t : List α) :
    cost (x :: s) t ≤ cost (y :: s) t + 1 := by
  induction t with
  | nil => simp
  | cons z t ih =>
    rw [cost_cons_cons, cost_cons_cons]
    split <;> split <;> omega

/-- What changes the costs by one at most still does so in front of another last unit. -/
private theorem cost_cons_le_of_le {s' : List α} (h : ∀ t, cost s t ≤ cost s' t + 1) (c : α)
    (t : List α) : cost (c :: s) t ≤ cost (c :: s') t + 1 := by
  induction t with
  | nil =>
    have hnil := h []
    rw [cost_nil_right, cost_nil_right] at hnil ⊢
    exact Nat.add_le_add_right hnil 1
  | cons z t ih =>
    have hleft := h (z :: t)
    have hcorner := h t
    rw [cost_cons_cons, cost_cons_cons]
    omega

/-- **What one edit changes**: an entry of the table goes up by one at most, wherever in the
list the edit falls. -/
theorem cost_le_of_edit {s' : List α} (h : Edit s s') (t : List α) : cost s t ≤ cost s' t + 1 := by
  have hbefore (before : List α) {s s' : List α} (h : ∀ t, cost s t ≤ cost s' t + 1) (t : List α) :
      cost (before ++ s) t ≤ cost (before ++ s') t + 1 := by
    induction before generalizing t with
    | nil => exact h t
    | cons c before ih => exact cost_cons_le_of_le ih c t
  cases h with
  | insert before x after => exact hbefore before (cost_le_cons_left x after) t
  | delete before x after => exact hbefore before (cost_cons_left_le x after) t
  | replace before x y after => exact hbefore before (cost_cons_le_cons x y after) t

private theorem cost_self (s : List α) : cost s s = 0 := by
  induction s with
  | nil => exact cost_nil_left []
  | cons x s ih => simp [cost_cons_cons, ih]

/-- **No way of editing is cheaper.** -/
theorem cost_le_of_edits {n : Nat} (h : Edits n s t) : cost s t ≤ n := by
  induction h with
  | refl s => rw [cost_self]
  | head first _ ih => exact (cost_le_of_edit first _).trans (Nat.add_le_add_right ih 1)

/-- **The cost is enough**: each of the three ways is an edit behind those of a neighbour. -/
theorem edits_cost (s t : List α) : Edits (cost s t) s t := by
  induction s generalizing t with
  | nil =>
    induction t with
    | nil =>
      rw [cost_nil_left]
      exact .refl []
    | cons y t ih =>
      rw [cost_nil_left] at ih ⊢
      exact ih.tail (.insert [] y t)
  | cons x s ihs =>
    induction t with
    | nil =>
      have hs := ihs []
      rw [cost_nil_right] at hs ⊢
      exact .head (.delete [] x s) hs
    | cons y t iht =>
      have hdelete : Edits (cost s (y :: t) + 1) (x :: s) (y :: t) :=
        .head (.delete [] x s) (ihs (y :: t))
      have hinsert : Edits (cost (x :: s) t + 1) (x :: s) (y :: t) := iht.tail (.insert [] y t)
      have hreplace : Edits (cost s t + if x = y then 0 else 1) (x :: s) (y :: t) := by
        split
        · next heq => exact heq ▸ (ihs t).cons x
        · exact .head (.replace [] x y s) ((ihs t).cons y)
      rw [cost_cons_cons]
      rcases min_choice (min (cost s (y :: t) + 1) (cost (x :: s) t + 1))
        (cost s t + if x = y then 0 else 1) with h | h
      · rw [h]
        rcases min_choice (cost s (y :: t) + 1) (cost (x :: s) t + 1) with h | h
        · rwa [h]
        · rwa [h]
      · rwa [h]

/-! ### Rows -/

/-- The costs of a start against the starts of the other list that go on behind `past`, whose
last unit comes first. -/
def costs (s : List α) : (past target : List α) → List Nat
  | _, [] => []
  | past, y :: target => cost s (y :: past) :: costs s (y :: past) target

/-- The first row puts in everything. -/
private theorem firstRow_eq (target : List α) :
    firstRow target = cost ([] : List α) [] :: costs [] [] target := by
  have hcosts (past target : List α) :
      costs ([] : List α) past target = List.range' (past.length + 1) target.length := by
    induction target generalizing past with
    | nil => rfl
    | cons y target ih =>
      rw [costs, ih, cost_nil_left, List.length_cons, List.length_cons, List.range'_succ]
  rw [firstRow, hcosts, cost_nil_left, List.range_eq_range', List.range'_succ]
  rfl

/-- **A row is filled** with the costs of a start that is longer by one unit. -/
private theorem fillRow_costs (x : α) (s past target : List α) :
    fillRow x (cost (x :: s) past) (cost s past) (costs s past target) target
      = costs (x :: s) past target := by
  induction target generalizing past with
  | nil => rfl
  | cons y target ih =>
    have hhere : min (min (cost s (y :: past) + 1) (cost (x :: s) past + 1))
        (cost s past + if x = y then 0 else 1) = cost (x :: s) (y :: past) :=
      (cost_cons_cons x y s past).symm
    rw [costs, costs, fillRow, hhere, ih]

/-- **The rows** hold the costs of a start against all starts of the target. -/
theorem foldl_nextRow (source target : List α) :
    source.foldl (nextRow target) (firstRow target)
      = cost source.reverse [] :: costs source.reverse [] target := by
  induction source using List.reverseRecOn with
  | nil => exact firstRow_eq target
  | append_singleton source x ih =>
    have hcorner : cost source.reverse [] + 1 = cost (x :: source.reverse) [] := by simp
    rw [List.foldl_append, List.foldl_cons, List.foldl_nil, ih, nextRow, hcorner, fillRow_costs,
      List.reverse_append]
    rfl

private theorem getLast?_costs (s past target : List α) :
    ((cost s past :: costs s past target).getLast?).getD 0 = cost s (target.reverse ++ past) := by
  induction target generalizing past with
  | nil => rfl
  | cons y target ih =>
    rw [costs, List.getLast?_cons_cons, ih, List.reverse_cons, List.append_assoc]
    rfl

theorem distance_eq_cost (source target : List α) :
    distance source target = cost source.reverse target.reverse := by
  rw [distance, foldl_nextRow, getLast?_costs, List.append_nil]

/-! ### The distance -/

/-- **The distance is the least number of edits** that lead from the one list to the other. -/
theorem isLeast_distance (s t : List α) : IsLeast {n | Edits n s t} (distance s t) := by
  rw [distance_eq_cost]
  constructor
  · have hedits := (edits_cost s.reverse t.reverse).reverse
    rwa [List.reverse_reverse, List.reverse_reverse] at hedits
  · exact fun n hn => cost_le_of_edits hn.reverse

theorem distance_comm (s t : List α) : distance s t = distance t s :=
  le_antisymm ((isLeast_distance s t).2 (isLeast_distance t s).1.symm)
    ((isLeast_distance t s).2 (isLeast_distance s t).1.symm)

theorem distance_eq_zero_iff : distance s t = 0 ↔ s = t := by
  constructor
  · intro h
    have hleast := (isLeast_distance s t).1
    rw [h] at hleast
    exact hleast.eq_of_zero
  · rintro rfl
    exact Nat.le_zero.mp ((isLeast_distance s s).2 (.refl s))

/-- The way over a third list is no shorter. -/
theorem distance_le_add (s t u : List α) : distance s u ≤ distance s t + distance t u :=
  (isLeast_distance s u).2 ((isLeast_distance s t).1.trans (isLeast_distance t u).1)

end Scaffold.Text
