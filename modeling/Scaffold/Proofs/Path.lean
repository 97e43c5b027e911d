import Scaffold.Path

/-!
# Paths below a path

Joining parts that are names of files or directories keeps a path below where it
starts: the parts stand behind it, with single slashes between them.  The place that a
path leads to is then told by its components, which are those of the parts one after
the other.

## Main definitions

* `Path.below` — a path with names behind it.
* `Path.Plain` — a name of a directory without dots.
* `Path.named` — the components that a text stands for behind another path.
* `Path.dotted` — the component of a name with a dot.

## Main results

* `Path.joinAll_eq_below` — joining names leads there.
* `Path.components_join`, `Path.components_joinAll` — the components of what is joined.
* `Path.append_dotted_inj` — where the names of directories end.
-/

namespace Scaffold.Path

/-- What stands between a path and a name behind it: nothing, if the path is empty or ends
with a slash. -/
def separator (p : Path) : String :=
  if p.text.isEmpty || p.text.toList.getLast? == some '/' then "" else "/"

/-- The path with names behind it, parted by slashes. -/
def below (p : Path) (parts : List String) : Path :=
  ⟨p.text ++ p.separator ++ "/".intercalate parts⟩

theorem head?_ne_slash {part : String} (h : '/' ∉ part.toList) :
    part.toList.head? ≠ some '/' :=
  fun hhead => h (List.mem_of_mem_head? hhead)

theorem join_of_not_absolute {part : String} (h : part.toList.head? ≠ some '/') (p : Path) :
    p.join part = ⟨p.text ++ p.separator ++ part⟩ := by
  unfold join separator
  rw [if_neg (by simpa using h)]
  split
  · rw [String.append_empty]
  · rfl

/-- Behind a name stands a slash. -/
private theorem separator_append {s part : String} (hne : part ≠ "") (h : '/' ∉ part.toList) :
    separator ⟨s ++ part⟩ = "/" := by
  have hlist : part.toList ≠ [] := fun hnil => hne (String.toList_inj.mp hnil)
  unfold separator
  rw [if_neg]
  simp only [Bool.or_eq_true, beq_iff_eq, not_or]
  refine ⟨?_, ?_⟩
  · intro hempty
    have hall : (s ++ part).toList = [] := by
      rw [String.isEmpty_iff.mp hempty]
      rfl
    rw [String.toList_append] at hall
    exact hlist (List.append_eq_nil_iff.mp hall).2
  · intro hlast
    rw [String.toList_append, List.getLast?_append, List.getLast?_eq_some_getLast hlist,
      Option.some_or, ← List.getLast?_eq_some_getLast hlist] at hlast
    exact h (List.mem_of_getLast? hlast)

/-- **Joining names leads below the path**; the last of them may be any that does not
start at the root. -/
theorem joinAll_eq_below {parts : List String} {last : String}
    (h : ∀ part ∈ parts, part ≠ "" ∧ '/' ∉ part.toList) (hlast : last.toList.head? ≠ some '/')
    (p : Path) : p.joinAll (parts ++ [last]) = p.below (parts ++ [last]) := by
  -- on the parts, with the path free, since every part leads further down
  induction parts generalizing p with
  | nil =>
    rw [List.nil_append, joinAll_cons, joinAll_nil, join_of_not_absolute hlast, below,
      String.intercalate_singleton]
  | cons part parts ih =>
    have ⟨hpart, hrest⟩ := List.forall_mem_cons.mp h
    rw [List.cons_append, joinAll_cons, ih hrest,
      join_of_not_absolute (head?_ne_slash hpart.2), below, below,
      separator_append hpart.1 hpart.2,
      String.intercalate_cons_of_ne_nil (List.append_ne_nil_of_right_ne_nil _ (by simp))]
    simp only [String.append_assoc]

/-! ### Parts between slashes -/

theorem splitSlashes_ne_nil (text : List Char) : splitSlashes text ≠ [] := by
  cases text with
  | nil => exact List.cons_ne_nil _ _
  | cons c rest =>
    unfold splitSlashes
    split
    · exact List.cons_ne_nil _ _
    · split
      · exact List.cons_ne_nil _ _
      · exact List.cons_ne_nil _ _

/-- A text without slashes goes in front of the first part. -/
theorem splitSlashes_append_of_not_mem {xs ys part : List Char} {parts : List (List Char)}
    (h : '/' ∉ xs) (hys : splitSlashes ys = part :: parts) :
    splitSlashes (xs ++ ys) = (xs ++ part) :: parts := by
  induction xs with
  | nil => exact hys
  | cons c xs ih =>
    rw [List.mem_cons, not_or] at h
    rw [List.cons_append, splitSlashes, if_neg (by simpa using Ne.symm h.1), ih h.2]
    rfl

/-- A text is cut at each of its slashes. -/
theorem splitSlashes_append (xs ys : List Char) :
    splitSlashes (xs ++ '/' :: ys) = splitSlashes xs ++ splitSlashes ys := by
  induction xs with
  | nil => rfl
  | cons c xs ih =>
    rw [List.cons_append, splitSlashes, splitSlashes, ih]
    split
    · rfl
    · cases hxs : splitSlashes xs with
      | nil => exact absurd hxs (splitSlashes_ne_nil xs)
      | cons part parts => rfl

/-! ### Components -/

/-- The parts that are components behind another path: all but empty ones and dots. -/
def kept (parts : List (List Char)) : List String :=
  (parts.filter fun part => part != [] && part != ['.']).map String.ofList

theorem kept_cons (part : List Char) (parts : List (List Char)) :
    kept (part :: parts)
      = if part = [] ∨ part = ['.'] then kept parts else String.ofList part :: kept parts := by
  unfold kept
  rw [List.filter_cons]
  by_cases h : part = [] ∨ part = ['.']
  · have hdropped : (part != [] && part != ['.']) = false := by
      rcases h with rfl | rfl
      · rfl
      · rfl
    rw [hdropped, if_neg Bool.false_ne_true, if_pos h]
  · have hkept : (part != [] && part != ['.']) = true := by simpa [not_or] using h
    rw [hkept, if_pos rfl, if_neg h, List.map_cons]

/-- The components that a text stands for behind another path. -/
def named (text : List Char) : List String := kept (splitSlashes text)

/-- What the components of a text start with: the root, or a dot. -/
def lead (text : List Char) : List String :=
  if text.head? = some '/' then ["/"]
  else if (splitSlashes text).head? = some ['.'] then ["."]
  else []

theorem components_eq (p : Path) :
    p.components = lead p.text.toList ++ named p.text.toList := by
  unfold components isAbsolute lead named kept
  simp only [beq_iff_eq]
  split
  · rfl
  · split
    · rfl
    · rfl

theorem components_empty : components ⟨""⟩ = [] := by decide

theorem named_append (xs ys : List Char) : named (xs ++ '/' :: ys) = named xs ++ named ys := by
  rw [named, splitSlashes_append, kept, List.filter_append, List.map_append]
  rfl

/-- What stands behind a slash does not change how a text starts. -/
theorem lead_append (xs ys : List Char) : lead (xs ++ '/' :: ys) = lead (xs ++ ['/']) := by
  cases xs with
  | nil => rfl
  | cons c xs =>
    unfold lead
    rw [splitSlashes_append, splitSlashes_append]
    cases hxs : splitSlashes (c :: xs) with
    | nil => exact absurd hxs (splitSlashes_ne_nil _)
    | cons part parts => rfl

theorem lead_append_of_ne_nil {xs : List Char} (h : xs ≠ []) (ys : List Char) :
    lead (xs ++ '/' :: ys) = lead xs := by
  obtain ⟨c, cs, rfl⟩ := List.exists_cons_of_ne_nil h
  unfold lead
  rw [splitSlashes_append]
  cases hxs : splitSlashes (c :: cs) with
  | nil => exact absurd hxs (splitSlashes_ne_nil _)
  | cons part parts => rfl

/-- **Joining adds the components of a part** that does not start at the root.  A dot in
front counts only where nothing stands before it. -/
theorem components_join {p : Path} {part : String} (h : part.toList.head? ≠ some '/')
    (hlead : p.components ≠ [] ∨ lead part.toList = []) :
    (p.join part).components = p.components ++ named part.toList := by
  rw [join_of_not_absolute h, components_eq, components_eq]
  unfold separator
  by_cases hempty : p.text = ""
  · have hp : p.components = [] := by
      rw [show p = ⟨""⟩ from congrArg Path.mk hempty]
      exact components_empty
    have hnone : lead part.toList = [] := hlead.resolve_left fun hne => hne hp
    rw [components_eq] at hp
    rw [hp, if_pos (by rw [hempty]; rfl), String.append_empty, hempty, String.empty_append, hnone]
  · have hne : p.text.toList ≠ [] := fun hnil => hempty (String.toList_inj.mp hnil)
    by_cases hslash : p.text.toList.getLast? = some '/'
    · -- the slash at the end of the path parts the two
      obtain ⟨xs, hxs⟩ := List.getLast?_eq_some_iff.mp hslash
      rw [if_pos (by simp [hslash]), String.append_empty, String.toList_append, hxs,
        List.append_assoc, List.singleton_append, lead_append, named_append, named_append,
        show named [] = [] from rfl, List.append_nil, List.append_assoc]
    · have hsep : (p.text.isEmpty || p.text.toList.getLast? == some '/') = false := by
        simpa [hempty] using hslash
      rw [hsep, if_neg Bool.false_ne_true, String.toList_append, String.toList_append,
        show "/".toList = ['/'] from rfl, List.append_assoc, List.singleton_append,
        lead_append_of_ne_nil hne, named_append, List.append_assoc]

/-- A name of a directory without dots. -/
structure Plain (part : String) : Prop where
  /-- It is a name. -/
  ne_empty : part ≠ ""
  /-- It leads into one directory only. -/
  slash_not_mem : '/' ∉ part.toList
  /-- It has no dots. -/
  dot_not_mem : '.' ∉ part.toList

namespace Plain

variable {part : String}

theorem splitSlashes_eq (h : Plain part) : splitSlashes part.toList = [part.toList] := by
  have hsplit : splitSlashes (part.toList ++ []) = [part.toList ++ []] :=
    splitSlashes_append_of_not_mem h.slash_not_mem rfl
  rwa [List.append_nil] at hsplit

theorem toList_ne_dot (h : Plain part) : part.toList ≠ ['.'] := by
  intro heq
  refine h.dot_not_mem ?_
  rw [heq]
  exact List.mem_singleton_self _

theorem lead_eq (h : Plain part) : lead part.toList = [] := by
  unfold lead
  rw [if_neg (head?_ne_slash h.slash_not_mem), h.splitSlashes_eq, if_neg]
  intro heq
  exact h.toList_ne_dot (Option.some.inj heq)

theorem named_eq (h : Plain part) : named part.toList = [part] := by
  have hne : part.toList ≠ [] := fun hnil => h.ne_empty (String.toList_inj.mp hnil)
  rw [named, h.splitSlashes_eq, kept_cons, if_neg (not_or.mpr ⟨hne, h.toList_ne_dot⟩),
    String.ofList_toList]
  rfl

end Plain

/-- **Joining names adds them as components.** -/
theorem components_joinAll {parts : List String} (h : ∀ part ∈ parts, Plain part) (p : Path) :
    (p.joinAll parts).components = p.components ++ parts := by
  induction parts generalizing p with
  | nil => exact (List.append_nil _).symm
  | cons part parts ih =>
    have ⟨hpart, hrest⟩ := List.forall_mem_cons.mp h
    rw [joinAll_cons, ih hrest,
      components_join (head?_ne_slash hpart.slash_not_mem) (.inr hpart.lead_eq), hpart.named_eq,
      List.append_assoc, List.singleton_append]

/-! ### Names with a dot behind them -/

/-- A name, a dot and what is left of the part: no component if there is only the dot. -/
def dotted (name part : List Char) : List String :=
  if name = [] ∧ part = [] then [] else [String.ofList (name ++ '.' :: part)]

theorem dotted_inj {name name' part : List Char} :
    dotted name part = dotted name' part ↔ name = name' := by
  constructor
  · intro h
    unfold dotted at h
    split at h
    · next hempty =>
      split at h
      · next hempty' => rw [hempty.1, hempty'.1]
      · cases h
    · split at h
      · cases h
      · exact List.append_cancel_right (String.ofList_injective (List.cons.inj h).1)
  · rintro rfl
    rfl

theorem dot_mem_of_mem_dotted {name part : List Char} {component : String}
    (h : component ∈ dotted name part) : '.' ∈ component.toList := by
  unfold dotted at h
  split at h
  · cases h
  · obtain rfl := List.mem_singleton.mp h
    rw [String.toList_ofList]
    exact List.mem_append_right _ List.mem_cons_self

/-- What stands behind the dot of a file name is in its component as far as a slash. -/
theorem named_append_dot {name rest part : List Char} {parts : List (List Char)}
    (h : '/' ∉ name) (hrest : splitSlashes rest = part :: parts) :
    named (name ++ '.' :: rest) = dotted name part ++ kept parts := by
  have hdot : splitSlashes ('.' :: rest) = ('.' :: part) :: parts := by
    rw [splitSlashes, if_neg (by decide), hrest]
  have honly : name ++ '.' :: part = [] ∨ name ++ '.' :: part = ['.'] ↔ name = [] ∧ part = [] := by
    cases name with
    | nil => simp
    | cons c cs => simp
  rw [named, splitSlashes_append_of_not_mem h hdot, kept_cons, dotted]
  simp only [honly]
  split
  · rfl
  · rfl

/-- **Names without dots end where the first with a dot stands.** -/
theorem append_dotted_inj {dirs dirs' : List String} {name name' part : List Char}
    (h : ∀ dir ∈ dirs, '.' ∉ dir.toList) (h' : ∀ dir ∈ dirs', '.' ∉ dir.toList) :
    dirs ++ dotted name part = dirs' ++ dotted name' part ↔ dirs = dirs' ∧ name = name' := by
  constructor
  · intro heq
    have hdirs {dirs : List String} (h : ∀ dir ∈ dirs, '.' ∉ dir.toList) :
        (dirs.filter fun dir => '.' ∈ dir.toList) = [] := by
      refine List.filter_eq_nil_iff.mpr fun dir hdir => ?_
      simpa using h dir hdir
    have hfile (name : List Char) :
        ((dotted name part).filter fun dir => '.' ∈ dir.toList) = dotted name part := by
      refine List.filter_eq_self.mpr fun component hmem => ?_
      simpa using dot_mem_of_mem_dotted hmem
    -- the names with a dot are those at the end
    have hlast := congrArg (List.filter fun dir => '.' ∈ dir.toList) heq
    rw [List.filter_append, List.filter_append, hdirs h, hdirs h', hfile, hfile] at hlast
    obtain rfl := dotted_inj.mp hlast
    exact ⟨List.append_cancel_right heq, rfl⟩
  · rintro ⟨rfl, rfl⟩
    rfl

end Scaffold.Path
