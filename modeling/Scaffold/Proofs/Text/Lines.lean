import Mathlib.Data.List.Infix
import Scaffold.Text.Lines

/-!
# Where a word stands in a text

A word without an end of line stands whole within one line of its text: the one with as many
line feeds in front of it as there are in front of the word.  The search for the word answers
the first line that holds it, and that may be an earlier one.

## Main definitions

* `StandsBehind`, `Mentions` — a word stands behind so many line feeds, or within a line.

## Main results

* `StandsBehind.mentions` — a word stands within the line that the line feeds in front of it tell.
* `lineOf?_eq_some_iff` — **the search answers the first line that mentions the word.**
-/

namespace Scaffold.Text

/-- The word stands in the text behind so many line feeds. -/
def StandsBehind (feeds : Nat) (word text : List Char) : Prop :=
  ∃ before after, text = before ++ (word ++ after) ∧ before.count '\n' = feeds

/-- More text in front of a word brings its line feeds. -/
theorem StandsBehind.append {feeds : Nat} {word text : List Char}
    (h : StandsBehind feeds word text) (front : List Char) :
    StandsBehind (front.count '\n' + feeds) word (front ++ text) := by
  obtain ⟨before, after, rfl, rfl⟩ := h
  exact ⟨front ++ before, after, (List.append_assoc _ _ _).symm, List.count_append⟩

/-- The word stands within that line of the text; lines are counted from one. -/
def Mentions (text : String) (n : Nat) (word : String) : Prop :=
  ∃ i line, n = i + 1 ∧ (lines text.toList)[i]? = some line ∧ word.toList <:+: line

/-! ### Cutting a text -/

/-- What is in front of the first line feed of the cut text begins the first piece. -/
private theorem exists_cutLines_append {word : List Char} (hword : '\n' ∉ word)
    (after : List Char) :
    ∃ line more, cutLines (word ++ after) = line :: more ∧ word <+: line := by
  induction word with
  | nil =>
    obtain ⟨line, more, h⟩ := List.exists_cons_of_ne_nil (cutLines_ne_nil after)
    exact ⟨line, more, h, List.nil_prefix⟩
  | cons c word ih =>
    have hc : c ≠ '\n' := (List.ne_of_not_mem_cons hword).symm
    obtain ⟨line, more, hcut, hstart⟩ := ih (List.not_mem_of_not_mem_cons hword)
    refine ⟨c :: line, more, ?_, List.cons_prefix_cons.mpr ⟨rfl, hstart⟩⟩
    rw [List.cons_append, cutLines, if_neg (by simpa using hc), hcut]

/-- By induction on what is in front of the word: a line feed is a piece of its own, any other
character joins the piece behind it. -/
private theorem exists_getElem?_cutLines {word : List Char} (hword : '\n' ∉ word)
    (after before : List Char) :
    ∃ line, (cutLines (before ++ (word ++ after)))[before.count '\n']? = some line ∧
      word <:+: line := by
  induction before with
  | nil =>
    obtain ⟨line, more, hcut, hstart⟩ := exists_cutLines_append hword after
    exact ⟨line, by rw [List.nil_append, hcut]; rfl, hstart.isInfix⟩
  | cons c before ih =>
    obtain ⟨line, hline, hwithin⟩ := ih
    by_cases hc : c = '\n'
    · subst hc
      refine ⟨line, ?_, hwithin⟩
      rw [List.cons_append, cutLines, if_pos (beq_self_eq_true _), List.count_cons_self,
        List.getElem?_cons_succ, hline]
    · obtain ⟨first, more, hcut⟩ :=
        List.exists_cons_of_ne_nil (cutLines_ne_nil (before ++ (word ++ after)))
      rw [List.cons_append, cutLines, if_neg (by simpa using hc), hcut,
        List.count_cons_of_ne hc]
      rw [hcut] at hline
      cases hcount : before.count '\n' with
      | zero =>
        rw [hcount, List.getElem?_cons_zero, Option.some.injEq] at hline
        subst hline
        exact ⟨c :: first, List.getElem?_cons_zero, List.infix_cons hwithin⟩
      | succ i =>
        rw [hcount] at hline
        exact ⟨line, hline, hwithin⟩

/-! ### From pieces to lines -/

/-- A word without a carriage return does not need the one that ends its line. -/
private theorem infix_dropReturn {word line : List Char} (hword : '\r' ∉ word)
    (h : word <:+: line) : word <:+: dropReturn line := by
  rw [dropReturn]
  split
  · next hlast =>
    obtain ⟨front, rfl⟩ := List.getLast?_eq_some_iff.mp (beq_iff_eq.mp hlast)
    rw [List.dropLast_concat]
    rcases List.infix_concat_iff.mp h with hsuffix | hwithin
    · rcases List.suffix_concat_iff.mp hsuffix with rfl | ⟨start, rfl, -⟩
      · exact List.nil_infix
      · exact absurd (List.mem_append_right _ List.mem_cons_self) hword
    · exact hwithin
  · exact h

/-- Of the pieces only an empty last one is no line. -/
private theorem exists_line_of_piece {word text piece : List Char} {i : Nat} (hne : word ≠ [])
    (hword : '\r' ∉ word) (hpiece : (cutLines text)[i]? = some piece) (h : word <:+: piece) :
    ∃ line, (lines text)[i]? = some line ∧ word <:+: line := by
  obtain ⟨front, last, hcut⟩ :=
    (List.eq_nil_or_concat' (cutLines text)).resolve_left (cutLines_ne_nil text)
  rw [lines, hcut]
  rw [hcut] at hpiece
  simp only [List.dropLast_concat, List.getLast?_concat, Option.getD_some]
  rcases Nat.lt_or_ge i front.length with hlt | hge
  · rw [List.getElem?_append_left hlt] at hpiece
    refine ⟨dropReturn piece, ?_, infix_dropReturn hword h⟩
    rw [List.getElem?_append_left (by rwa [List.length_map]), List.getElem?_map, hpiece]
    rfl
  · rw [List.getElem?_append_right hge, List.getElem?_singleton] at hpiece
    obtain ⟨hi, hpiece⟩ := Option.ite_none_right_eq_some.mp hpiece
    obtain rfl := Option.some.inj hpiece
    have hlast : last ≠ [] := fun hnil => hne (List.infix_nil.mp (hnil ▸ h))
    refine ⟨last, ?_, h⟩
    rw [List.getElem?_append_right (by rwa [List.length_map]), List.length_map, hi,
      if_neg (by simpa using hlast)]
    rfl

/-- **A word stands within the line** that the line feeds in front of it tell. -/
theorem StandsBehind.mentions {text word : String} {feeds : Nat}
    (h : StandsBehind feeds word.toList text.toList) (hne : word.toList ≠ [])
    (hfeed : '\n' ∉ word.toList) (hreturn : '\r' ∉ word.toList) :
    Mentions text (feeds + 1) word := by
  obtain ⟨before, after, htext, rfl⟩ := h
  obtain ⟨piece, hpiece, hwithin⟩ := exists_getElem?_cutLines hfeed after before
  rw [← htext] at hpiece
  obtain ⟨line, hline, hwithin⟩ := exists_line_of_piece hne hreturn hpiece hwithin
  exact ⟨_, line, rfl, hline, hwithin⟩

/-! ### The search -/

private theorem contains_eq_true_iff {word line : List Char} :
    contains word line = true ↔ word <:+: line := by
  rw [contains_iff]
  exact ⟨fun ⟨s, t, h⟩ => ⟨s, t, h.symm⟩, fun ⟨s, t, h⟩ => ⟨s, t, h.symm⟩⟩

/-- **The search answers the first line that mentions the word.** -/
theorem lineOf?_eq_some_iff {word text : String} {n : Nat} :
    lineOf? word text = some n ↔ Mentions text n word ∧ ∀ k < n, ¬ Mentions text k word := by
  rw [lineOf?, Option.map_eq_some_iff]
  constructor
  · rintro ⟨i, hi, rfl⟩
    obtain ⟨hlt, hfound, hfirst⟩ := List.findIdx?_eq_some_iff_getElem.mp hi
    refine ⟨⟨i, _, rfl, List.getElem?_eq_getElem hlt, contains_eq_true_iff.mp hfound⟩, ?_⟩
    rintro _ hk ⟨j, line, rfl, hj, hwithin⟩
    have hji : j < i := Nat.lt_of_succ_lt_succ hk
    obtain ⟨hjlt, rfl⟩ := List.getElem?_eq_some_iff.mp hj
    exact hfirst j hji (contains_eq_true_iff.mpr hwithin)
  · rintro ⟨⟨i, line, rfl, hi, hwithin⟩, hfirst⟩
    obtain ⟨hlt, rfl⟩ := List.getElem?_eq_some_iff.mp hi
    have hfound := contains_eq_true_iff.mpr hwithin
    refine ⟨i, List.findIdx?_eq_some_iff_getElem.mpr ⟨hlt, hfound, fun j hji hfound => ?_⟩, rfl⟩
    exact hfirst (j + 1) (Nat.succ_lt_succ hji)
      ⟨j, _, rfl, List.getElem?_eq_getElem (hji.trans hlt), contains_eq_true_iff.mp hfound⟩

/-- A word that a line mentions is found, there or before. -/
theorem exists_lineOf? {word text : String} {n : Nat} (h : Mentions text n word) :
    ∃ k ≤ n, lineOf? word text = some k := by
  obtain ⟨i, line, rfl, hi, hwithin⟩ := h
  have hmem := List.mem_of_getElem? hi
  cases hsearch : (lines text.toList).findIdx? (contains word.toList) with
  | none =>
    have hnot := List.findIdx?_eq_none_iff.mp hsearch line hmem
    rw [contains_eq_true_iff.mpr hwithin] at hnot
    cases hnot
  | some k =>
    have hk : lineOf? word text = some (k + 1) := by rw [lineOf?, hsearch]; rfl
    refine ⟨k + 1, Nat.le_of_not_lt fun hlt => ?_, hk⟩
    exact (lineOf?_eq_some_iff.mp hk).2 _ hlt ⟨i, line, rfl, hi, hwithin⟩

end Scaffold.Text
