/-!
# Lines

A text cut into lines, and the search for a text in them.

## Main definitions

* `lines` — the lines of a text.
* `contains` — one text stands within another.
* `lineOf?` — the number of the first line that holds a text.
-/

namespace Scaffold.Text

/-- The text cut at every line feed, which ends a line and belongs to none. -/
def cutLines : List Char → List (List Char)
  | [] => [[]]
  | c :: rest =>
    if c == '\n' then [] :: cutLines rest
    else match cutLines rest with
      | [] => [[c]]
      | line :: more => (c :: line) :: more

theorem cutLines_ne_nil (text : List Char) : cutLines text ≠ [] := by
  cases text with
  | nil => simp [cutLines]
  | cons c rest => simp only [cutLines]; split <;> (try split) <;> simp

/-- A line without the carriage return at its end. -/
def dropReturn (line : List Char) : List Char :=
  if line.getLast? == some '\r' then line.dropLast else line

/-- The lines of a text.  What follows the last line feed is a line unless it is
empty, and it keeps a carriage return at its end; the others lose theirs. -/
def lines (text : List Char) : List (List Char) :=
  let pieces := cutLines text
  let last := pieces.getLast?.getD []
  pieces.dropLast.map dropReturn ++ (if last.isEmpty then [] else [last])

/-- One text stands within another. -/
def contains (needle : List Char) : List Char → Bool
  | [] => needle.isEmpty
  | c :: rest => needle.isPrefixOf (c :: rest) || contains needle rest

theorem contains_iff {needle text : List Char} :
    contains needle text = true ↔ ∃ before after, text = before ++ needle ++ after := by
  induction text with
  | nil =>
    constructor
    · intro h
      exact ⟨[], [], by simpa [contains] using h⟩
    · rintro ⟨before, after, h⟩
      have h := (List.append_eq_nil_iff.1 (List.append_eq_nil_iff.1 h.symm).1).2
      simp [contains, h]
  | cons c rest ih =>
    simp only [contains, Bool.or_eq_true, List.isPrefixOf_iff_prefix, ih]
    constructor
    · rintro (⟨after, h⟩ | ⟨before, after, h⟩)
      · exact ⟨[], after, by simp [h]⟩
      · exact ⟨c :: before, after, by simp [h]⟩
    · rintro ⟨before, after, h⟩
      cases before with
      | nil => exact .inl ⟨after, by simpa using h.symm⟩
      | cons b before =>
        simp only [List.cons_append, List.cons.injEq] at h
        exact .inr ⟨before, after, h.2⟩

/-- The number of the first line that holds a text; lines are counted from one. -/
def lineOf? (needle text : String) : Option Nat :=
  ((lines text.toList).findIdx? (contains needle.toList)).map (· + 1)

end Scaffold.Text
