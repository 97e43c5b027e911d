/-!
# Edit distance

The least number of units to put in, take out or replace on the way from one text
to another.  It is computed by rows: the row of a start of the first text holds
that start's distance from every start of the second, the shortest first.

## Main definitions

* `firstRow`, `nextRow` — the rows.
* `distance` — the distance of two lists.
* `byteDistance` — the distance of two texts, in bytes of their UTF-8 form.
-/

namespace Scaffold.Text

/-- The row of the empty start: everything has to be put in. -/
def firstRow {α : Type} (target : List α) : List Nat := List.range (target.length + 1)

/-- One more unit `x` at the end of the start.  The entry under the next unit of the
target comes from three neighbours: the entry to its left in its own row, and
those above its left and above itself in the row before. -/
def fillRow {α : Type} [DecidableEq α] (x : α) (left corner : Nat) :
    (above : List Nat) → (target : List α) → List Nat
  | up :: above, y :: target =>
    let here := min (min (up + 1) (left + 1)) (corner + if x = y then 0 else 1)
    here :: fillRow x here up above target
  | _, _ => []

/-- The row of a start that is longer by one unit than that of the row before. -/
def nextRow {α : Type} [DecidableEq α] (target : List α) (row : List Nat) (x : α) : List Nat :=
  match row with
  | [] => []
  | corner :: above => (corner + 1) :: fillRow x (corner + 1) corner above target

/-- The least number of units to put in, take out or replace. -/
def distance {α : Type} [DecidableEq α] (source target : List α) : Nat :=
  ((source.foldl (nextRow target) (firstRow target)).getLast?).getD 0

@[simp] theorem length_fillRow {α : Type} [DecidableEq α] (x : α) (left corner : Nat)
    (above : List Nat) (target : List α) :
    (fillRow x left corner above target).length = min above.length target.length := by
  induction above generalizing left corner target with
  | nil => simp [fillRow]
  | cons up above ih =>
    cases target with
    | nil => simp [fillRow]
    | cons y target => simp [fillRow, ih]

/-- All rows are of one length. -/
theorem length_nextRow {α : Type} [DecidableEq α] {target : List α} {row : List Nat}
    (h : row.length = target.length + 1) (x : α) :
    (nextRow target row x).length = target.length + 1 := by
  cases row with
  | nil => simp at h
  | cons corner above =>
    have h : above.length = target.length := by simpa using h
    simp [nextRow, h]

/-- The bytes of a text. -/
def bytes (s : String) : List UInt8 := s.toUTF8.data.toList

/-- The distance of two texts, in bytes. -/
def byteDistance (s t : String) : Nat := distance (bytes s) (bytes t)

end Scaffold.Text
