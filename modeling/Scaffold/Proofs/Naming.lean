import Scaffold.Naming

/-!
# Dots and slashes in names

Building the names of an artifact never makes a dot or a slash and never loses one:
changing case does not, cutting a name into words only drops what parts them, and what is
added to a name holds none.  So an artifact has a slash in the name of its file exactly
when it is called after a name with a slash, and what is called after a name with a dot is
told apart from everything else.

Changing case treats the underscore in the same way; but it parts words, so no name in camel
case holds one.

## Main definitions

* `IsMark` — a dot or a slash.
* `IsSign` — one of these or an underscore.

## Main results

* `Text.sign_mem_toUppercase_iff`, `Text.sign_mem_lowercaseWord_iff` — changing case.
* `Name.flatten_pieces`, `Name.mark_mem_camelCase_iff` — words and camel case.
* `Name.underscore_not_mem_words`, `Name.underscore_not_mem_lowerCamelCase` — what words and
  camel case drop.
* `mark_mem_className_iff`, `mark_mem_interfaceName_iff` — the two names of an artifact.
* `slash_mem_emittedName_iff` — the name of a file.
* `emittedName_resolve`, `interfaceName_inj`, `className_ne_interfaceName` — how the names
  of an artifact compare.
* `interfaceName_eq_cases`, `namespaceSegments_inj` — how those of two artifacts do.
* `Name.not_mem_of_isValid` — what valid names do not hold.
-/

namespace Scaffold

/-- A dot or a slash. -/
def IsMark (k : Char) : Prop := k = '.' ∨ k = '/'

theorem isMark_dot : IsMark '.' := .inl rfl

theorem isMark_slash : IsMark '/' := .inr rfl

/-- A dot, a slash or an underscore: a sign that no letter turns into. -/
def IsSign (k : Char) : Prop := k = '_' ∨ IsMark k

theorem isSign_underscore : IsSign '_' := .inl rfl

variable {k : Char}

theorem IsMark.isSign (hk : IsMark k) : IsSign k := .inr hk

/-- What is true of the dot and of the slash is true of a mark. -/
@[elab_as_elim]
theorem IsMark.of_both {P : Char → Prop} (hk : IsMark k) (dot : P '.') (slash : P '/') :
    P k := by
  rcases hk with rfl | rfl
  · exact dot
  · exact slash

@[elab_as_elim]
theorem IsSign.of_all {P : Char → Prop} (hk : IsSign k) (underscore : P '_') (dot : P '.')
    (slash : P '/') : P k := by
  rcases hk with rfl | hk
  · exact underscore
  · exact hk.of_both dot slash

theorem IsSign.toNat_cases (hk : IsSign k) : k.toNat = 46 ∨ k.toNat = 47 ∨ k.toNat = 95 :=
  hk.of_all (by decide) (by decide) (by decide)

/-! ### Changing case -/

namespace Text

/-- The codes of letters lie beyond those of the marks, and none is that of the underscore. -/
private theorem ofNat_ne_sign (hk : IsSign k) {n : Nat} (h : 47 < n) (hne : n ≠ 95) :
    Char.ofNat n ≠ k := by
  intro heq
  have hcode := hk.toNat_cases
  have hnat : (Char.ofNat n).toNat = k.toNat := congrArg Char.toNat heq
  by_cases hvalid : n.isValidChar
  · rw [Char.ofNat, dif_pos hvalid] at hnat
    have hn : n = k.toNat := hnat
    omega
  · rw [Char.ofNat, dif_neg hvalid] at hnat
    have hzero : 0 = k.toNat := hnat
    omega

private theorem ne_sign_of_not_ascii (hk : IsSign k) {c : Char} (h : ¬c.toNat < 128) : c ≠ k := by
  rintro rfl
  have hcode := hk.toNat_cases
  omega

/-- What holds of each ASCII character, told by its code, holds of all of them. -/
@[elab_as_elim]
theorem of_ascii {P : Char → Prop} {c : Char} (hc : c.toNat < 128)
    (h : ∀ n < 128, P (Char.ofNat n)) : P c := by
  have hcode := h c.toNat hc
  rwa [Char.ofNat_toNat] at hcode

private theorem toUpper_eq_sign_iff (hk : IsSign k) {c : Char} (h : c.toNat < 128) :
    c.toUpper = k ↔ c = k :=
  of_ascii h (hk.of_all (by decide) (by decide) (by decide))

private theorem toLower_eq_sign_iff (hk : IsSign k) {c : Char} (h : c.toNat < 128) :
    c.toLower = k ↔ c = k :=
  of_ascii h (hk.of_all (by decide) (by decide) (by decide))

/-- Rows whose targets lie beyond the marks, and all in front of the underscore or all behind
it, never lead to a sign. -/
private theorem image?_ne_sign (hk : IsSign k) {rows : Shifts}
    (h : ∀ row ∈ rows, 47 < row.2.2.2 ∧
      (95 < row.2.2.2 ∨ row.2.2.2 + (row.2.1 - row.1) < 95)) {c : Char} (hc : c ≠ k) :
    (rows.image? c).getD c ≠ k := by
  unfold Shifts.image?
  generalize hrow : List.find? _ rows = found
  cases found with
  | none => exact hc
  | some row =>
    obtain ⟨first, last, step, target⟩ := row
    have hbounds : 47 < target ∧ (95 < target ∨ target + (last - first) < 95) :=
      h _ (List.mem_of_find?_eq_some hrow)
    have hfound := List.find?_some hrow
    simp only [Bool.and_eq_true, decide_eq_true_eq] at hfound
    refine ofNat_ne_sign hk ?_ ?_
    · omega
    · omega

/-- **Capitals keep the signs**: none is made and none is lost. -/
theorem sign_mem_toUppercase_iff (hk : IsSign k) {c : Char} : k ∈ toUppercase c ↔ c = k := by
  have hexpansions : ∀ e ∈ uppercaseExpansions, ∀ n ∈ e.2, 47 < n ∧ n ≠ 95 := by decide +kernel
  have hshifts : ∀ row ∈ uppercaseShifts, 47 < row.2.2.2 ∧
      (95 < row.2.2.2 ∨ row.2.2.2 + (row.2.1 - row.1) < 95) := by decide +kernel
  unfold toUppercase
  by_cases h : c.toNat < 128
  · rw [if_pos h, List.mem_singleton, eq_comm, toUpper_eq_sign_iff hk h]
  · have hc := ne_sign_of_not_ascii hk h
    rw [if_neg h]
    refine iff_of_false ?_ hc
    split
    · -- a character that becomes several is listed, and no list holds a sign
      next codes hcodes =>
      intro hmem
      obtain ⟨n, hn, heq⟩ := List.mem_map.mp hmem
      obtain ⟨before, after, happ, -⟩ := List.lookup_eq_some_iff.mp hcodes
      have hentry : (c.toNat, codes) ∈ uppercaseExpansions := by
        rw [happ]
        exact List.mem_append_right before List.mem_cons_self
      obtain ⟨hn, hne⟩ := hexpansions _ hentry n hn
      exact ofNat_ne_sign hk hn hne heq
    · rw [List.mem_singleton]
      exact fun heq => image?_ne_sign hk hshifts hc heq.symm

theorem sign_mem_toLowercase_iff (hk : IsSign k) {c : Char} : k ∈ toLowercase c ↔ c = k := by
  have hshifts : ∀ row ∈ lowercaseShifts, 47 < row.2.2.2 ∧
      (95 < row.2.2.2 ∨ row.2.2.2 + (row.2.1 - row.1) < 95) := by decide +kernel
  unfold toLowercase
  by_cases h : c.toNat < 128
  · rw [if_pos h, List.mem_singleton, eq_comm, toLower_eq_sign_iff hk h]
  · have hc := ne_sign_of_not_ascii hk h
    rw [if_neg h]
    refine iff_of_false ?_ hc
    split
    · exact hk.of_all (by decide) (by decide) (by decide)
    · rw [List.mem_singleton]
      exact fun heq => image?_ne_sign hk hshifts hc heq.symm

private theorem sign_mem_lowercaseAfter_iff (hk : IsSign k) {before cs : List Char} :
    k ∈ lowercaseAfter before cs ↔ k ∈ cs := by
  induction cs generalizing before with
  | nil => exact Iff.rfl
  | cons c cs ih =>
    rw [lowercaseAfter, List.mem_append, ih, List.mem_cons, eq_comm (a := k)]
    refine or_congr_left ?_
    split
    · next hsigma =>
      -- a sigma becomes a sigma
      have hc : c ≠ k := by
        rintro rfl
        have hcode := hk.toNat_cases
        rw [beq_iff_eq] at hsigma
        omega
      refine iff_of_false ?_ hc
      split
      · exact hk.of_all (by decide) (by decide) (by decide)
      · exact hk.of_all (by decide) (by decide) (by decide)
    · exact sign_mem_toLowercase_iff hk

theorem sign_mem_lowercaseWord_iff (hk : IsSign k) {cs : List Char} :
    k ∈ lowercaseWord cs ↔ k ∈ cs := sign_mem_lowercaseAfter_iff hk

end Text

/-! ### Words -/

namespace Name

private theorem flatten_extendHead (c : Char) (ps : List (List Char)) :
    (extendHead c ps).flatten = c :: ps.flatten := by
  cases ps <;> rfl

/-- **The pieces of a name** are what the separators leave of it. -/
theorem flatten_pieces (name : List Char) :
    (pieces name).flatten = name.filter (!isSeparator ·) := by
  induction name with
  | nil => rfl
  | cons c rest ih =>
    rw [pieces]
    by_cases hc : isSeparator c = true
    · rw [if_pos hc, ih, List.filter_cons_of_neg (by simp [hc])]
    · rw [if_neg hc, List.filter_cons_of_pos (by simp [hc]), ← ih]
      split
      · exact flatten_extendHead c (pieces rest)
      · rfl

theorem sign_mem_settle_iff (hk : IsSign k) {piece : List Char} :
    k ∈ settle piece ↔ k ∈ piece := by
  unfold settle
  split
  · exact Iff.rfl
  · exact Text.sign_mem_lowercaseWord_iff hk

theorem sign_mem_capitalizeChars_iff (hk : IsSign k) {word : List Char} :
    k ∈ capitalizeChars word ↔ k ∈ word := by
  cases word with
  | nil => exact Iff.rfl
  | cons c rest =>
    rw [capitalizeChars, List.mem_append, List.mem_cons, Text.sign_mem_toUppercase_iff hk,
      eq_comm (a := k)]

theorem sign_mem_decapitalizeChars_iff (hk : IsSign k) {word : List Char} :
    k ∈ decapitalizeChars word ↔ k ∈ word := by
  cases word with
  | nil => exact Iff.rfl
  | cons c rest =>
    rw [decapitalizeChars, List.mem_append, List.mem_cons, Text.sign_mem_toLowercase_iff hk,
      eq_comm (a := k)]

theorem intercalate_nil_eq_flatten {α : Type} (ls : List (List α)) :
    ([] : List α).intercalate ls = ls.flatten := by
  induction ls with
  | nil => rfl
  | cons l ls ih =>
    cases ls with
    | nil => rw [List.intercalate_singleton, List.flatten_cons, List.flatten_nil, List.append_nil]
    | cons l' ls =>
      rw [List.intercalate_cons_cons, ih, List.append_nil]
      rfl

/-- A sign is in a name in camel case if it is in one of the pieces. -/
private theorem sign_mem_camelChars_iff (hk : IsSign k) {name : List Char} :
    k ∈ camelChars [] name ↔ k ∈ (pieces name).flatten := by
  rw [camelChars, intercalate_nil_eq_flatten, words, List.map_map, List.mem_flatten,
    List.mem_flatten]
  constructor
  · rintro ⟨_, hl, hmem⟩
    obtain ⟨piece, hpiece, rfl⟩ := List.mem_map.mp hl
    have hsettled := (sign_mem_capitalizeChars_iff hk).mp hmem
    exact ⟨piece, hpiece, (sign_mem_settle_iff hk).mp hsettled⟩
  · rintro ⟨piece, hpiece, hmem⟩
    exact ⟨_, List.mem_map.mpr ⟨piece, hpiece, rfl⟩,
      (sign_mem_capitalizeChars_iff hk).mpr ((sign_mem_settle_iff hk).mpr hmem)⟩

/-- **Camel case keeps dots and slashes.** -/
theorem mark_mem_camelCase_iff (hk : IsMark k) {name : String} :
    k ∈ (camelCase name).toList ↔ k ∈ name.toList := by
  rw [camelCase, String.toList_ofList, sign_mem_camelChars_iff hk.isSign, flatten_pieces,
    List.mem_filter]
  -- cutting drops the separators, and a mark is none
  exact and_iff_left (hk.of_both (by decide) (by decide))

/-- The underscore is a separator, which cutting drops. -/
private theorem underscore_not_mem_pieces (name : List Char) : '_' ∉ (pieces name).flatten := by
  rw [flatten_pieces]
  exact fun hmem => absurd (List.mem_filter.mp hmem).2 (by decide)

/-- Words hold no underscores. -/
theorem underscore_not_mem_words {name word : List Char} (h : word ∈ words name) : '_' ∉ word := by
  obtain ⟨piece, hp, rfl⟩ := List.mem_map.mp h
  rw [sign_mem_settle_iff isSign_underscore]
  exact fun hmem => underscore_not_mem_pieces name (List.mem_flatten.mpr ⟨piece, hp, hmem⟩)

/-- **Camel case drops underscores**, also with a small first letter. -/
theorem underscore_not_mem_lowerCamelCase (name : String) :
    '_' ∉ (lowerCamelCase name).toList := by
  rw [lowerCamelCase, String.toList_ofList, sign_mem_decapitalizeChars_iff isSign_underscore,
    sign_mem_camelChars_iff isSign_underscore]
  exact underscore_not_mem_pieces name.toList

/-- A valid name holds letters, numbers and two signs, and nothing else. -/
theorem not_mem_of_isValid {name : String} (h : isValid name = true)
    (hk : (Text.isAlphanumeric k || k == '_' || k == '-') = false) : k ∉ name.toList := by
  intro hmem
  rw [isValid, Bool.and_eq_true, List.all_eq_true] at h
  exact Bool.eq_false_iff.mp hk (h.2 k hmem)

theorem slash_not_mem_of_isValid {name : String} (h : isValid name = true) :
    '/' ∉ name.toList := not_mem_of_isValid h (by decide)

theorem dot_not_mem_of_isValid {name : String} (h : isValid name = true) :
    '.' ∉ name.toList := not_mem_of_isValid h (by decide)

end Name

/-! ### The names of an artifact -/

open Name

theorem mark_not_mem_tag (hk : IsMark k) (t : ArtifactType) : k ∉ t.tag.toList := by
  rcases hk with rfl | rfl
  · cases t <;> decide
  · cases t <;> decide

private theorem mark_not_mem_abstractedTag (hk : IsMark k) (t : ArtifactType) :
    k ∉ t.abstractedTag.toList := by
  rcases hk with rfl | rfl
  · cases t <;> decide
  · cases t <;> decide

private theorem mark_not_mem_suffixOfTag (hk : IsMark k) {tag : String} (h : k ∉ tag.toList) :
    k ∉ (suffixOfTag tag).toList := by
  have hfixed : k ∉ "".toList ∧ k ∉ "Handler".toList ∧ k ∉ "Method".toList :=
    hk.of_both (by decide) (by decide)
  unfold suffixOfTag
  split
  · exact hfixed.1
  · split
    · exact hfixed.2.1
    · split
      · exact hfixed.2.2
      · exact fun hmem => h ((mark_mem_camelCase_iff hk).mp hmem)

private theorem mark_not_mem_namingSuffix (hk : IsMark k) {tag : String} (h : k ∉ tag.toList) :
    k ∉ (namingSuffix tag).toList := by
  unfold namingSuffix
  split
  · exact mark_not_mem_suffixOfTag hk (hk.of_both (by decide) (by decide))
  · exact mark_not_mem_suffixOfTag hk h

private theorem mark_mem_pastTense_iff (hk : IsMark k) {word : String} :
    k ∈ (pastTense word).toList ↔ k ∈ word.toList := by
  have hfixed : k ∉ "d".toList ∧ k ∉ "ed".toList :=
    hk.of_both (by decide) (by decide)
  unfold pastTense
  split
  · rw [String.toList_append, List.mem_append]
    exact or_iff_left hfixed.1
  · rw [String.toList_append, List.mem_append]
    exact or_iff_left hfixed.2

theorem mark_mem_className_iff (hk : IsMark k) {t : ArtifactType} {name : String} :
    k ∈ (className t name).toList ↔ k ∈ name.toList := by
  unfold className
  rw [String.toList_append, List.mem_append,
    or_iff_left (mark_not_mem_namingSuffix hk (mark_not_mem_tag hk t))]
  split
  · rw [mark_mem_pastTense_iff hk, mark_mem_camelCase_iff hk]
  · exact mark_mem_camelCase_iff hk

theorem mark_mem_interfaceName_iff (hk : IsMark k) {t : ArtifactType} {name : String} :
    k ∈ (interfaceName t name).toList ↔ k ∈ name.toList := by
  have hfixed : k ∉ "Interface".toList :=
    hk.of_both (by decide) (by decide)
  unfold interfaceName
  rw [String.toList_append, List.mem_append, or_iff_left hfixed, String.toList_append,
    List.mem_append,
    or_iff_left (mark_not_mem_namingSuffix hk (mark_not_mem_abstractedTag hk t)),
    mark_mem_camelCase_iff hk]

theorem mark_mem_emittedName_iff (hk : IsMark k) {declared naming : ArtifactType}
    {name : String} :
    k ∈ (resolveAs declared naming name).emittedName.toList ↔ k ∈ name.toList := by
  unfold ResolvedNames.emittedName
  split
  · exact mark_mem_interfaceName_iff hk
  · exact mark_mem_className_iff hk

/-- **The name of a file holds a slash** exactly when the artifact is called after a name
with a slash. -/
theorem slash_mem_emittedName_iff {declared naming : ArtifactType} {name : String} :
    '/' ∈ (resolveAs declared naming name).emittedName.toList ↔ '/' ∈ name.toList :=
  mark_mem_emittedName_iff isMark_slash

/-! ### How names compare -/

private theorem namingSuffix_abstractedTag {t : ArtifactType} (h : t.isInterface = true) :
    namingSuffix t.abstractedTag ++ "Interface" = namingSuffix t.tag := by
  cases t with
  | entityInterface | repositoryInterface | dtoInterface | serviceInterface
  | factoryInterface => decide
  | _ => cases h

/-- **An artifact goes by its class name**, which for an interface is its interface name. -/
theorem emittedName_resolve (t : ArtifactType) (name : String) :
    (resolve t name).emittedName = className t name := by
  unfold ResolvedNames.emittedName
  split
  · next hinterface =>
    have h : t.isInterface = true := hinterface
    have hne : t ≠ .event := by
      rintro rfl
      cases h
    show interfaceName t name = className t name
    rw [interfaceName, className, if_neg hne, String.append_assoc, namingSuffix_abstractedTag h]
  · rfl

theorem className_of_isInterface {t : ArtifactType} (h : t.isInterface = true) (name : String) :
    className t name = interfaceName t name := by
  have hnames : (resolve t name).emittedName = interfaceName t name := if_pos h
  rw [← hnames, emittedName_resolve]

/-- Two artifacts of a type have one class name when their names read alike.  Events are
left out, since they are put into the past. -/
theorem className_inj {t : ArtifactType} (ht : t ≠ .event) {m n : String} :
    className t m = className t n ↔ camelCase m = camelCase n := by
  rw [className, className, if_neg ht, if_neg ht, String.append_left_inj]

/-- Two artifacts of a type have interfaces of one name when their names read alike. -/
theorem interfaceName_inj {t : ArtifactType} {m n : String} :
    interfaceName t m = interfaceName t n ↔ camelCase m = camelCase n := by
  rw [interfaceName, interfaceName, String.append_left_inj, String.append_left_inj]

private theorem length_pastTense_le (word : String) :
    (pastTense word).length ≤ word.length + 2 := by
  have hfixed : "d".length = 1 ∧ "ed".length = 2 := by decide
  unfold pastTense
  split
  · rw [String.length_append]
    omega
  · rw [String.length_append]
    omega

/-- The class of an artifact that is no interface is not called as its interface is. -/
theorem className_ne_interfaceName {t : ArtifactType} (ht : t.isInterface = false)
    (name : String) : className t name ≠ interfaceName t name := by
  have htag : t.abstractedTag = t.tag := by
    cases t with
    | entityInterface | repositoryInterface | dtoInterface | serviceInterface
    | factoryInterface => cases ht
    | _ => rfl
  have hfixed : "Interface".length = 9 := by decide
  have hstem : (if t = .event then pastTense (camelCase name) else camelCase name).length
      ≤ (camelCase name).length + 2 := by
    split
    · exact length_pastTense_le _
    · omega
  -- the interface name is the longer one
  intro heq
  have hlength := congrArg String.length heq
  rw [className, interfaceName, htag] at hlength
  rw [String.length_append, String.length_append, String.length_append, hfixed] at hlength
  omega

/-- What two kinds of repositories add to the names of their interfaces ends alike for
plain repositories and those of tasks only. -/
private theorem eq_or_task_of_suffix :
    ∀ t ∈ ArtifactType.repositories, ∀ u ∈ ArtifactType.repositories,
      (namingSuffix t.abstractedTag).toList <:+ (namingSuffix u.abstractedTag).toList →
        t = u ∨ t = .repository ∧ u = .repositoryTask := by
  decide +kernel

private theorem namingSuffix_task :
    namingSuffix ArtifactType.repositoryTask.abstractedTag
      = "Task" ++ namingSuffix ArtifactType.repository.abstractedTag := by
  decide +kernel

/-- Two interfaces of repositories have one name, and the first is called after the longer
entity. -/
private theorem interfaceName_cases_of_suffix {t u : ArtifactType}
    (ht : t ∈ ArtifactType.repositories) (hu : u ∈ ArtifactType.repositories) {m n : String}
    (h : camelCase m ++ namingSuffix t.abstractedTag = camelCase n ++ namingSuffix u.abstractedTag)
    (hsuffix : (namingSuffix t.abstractedTag).toList <:+ (namingSuffix u.abstractedTag).toList) :
    t = u ∧ camelCase m = camelCase n ∨
      t = .repository ∧ u = .repositoryTask ∧ camelCase m = camelCase n ++ "Task" := by
  rcases eq_or_task_of_suffix t ht u hu hsuffix with rfl | ⟨rfl, rfl⟩
  · exact .inl ⟨rfl, (String.append_left_inj _).mp h⟩
  · rw [namingSuffix_task, ← String.append_assoc] at h
    exact .inr ⟨rfl, rfl, (String.append_left_inj _).mp h⟩

/-- **Two interfaces of repositories have one name** when they are of one kind and their
names read alike, or when one is of tasks and the name of the other says so too. -/
theorem interfaceName_eq_cases {t u : ArtifactType} (ht : t ∈ ArtifactType.repositories)
    (hu : u ∈ ArtifactType.repositories) {m n : String}
    (h : interfaceName t m = interfaceName u n) :
    t = u ∧ camelCase m = camelCase n ∨
      (t = .repository ∧ u = .repositoryTask ∧ camelCase m = camelCase n ++ "Task" ∨
        u = .repository ∧ t = .repositoryTask ∧ camelCase n = camelCase m ++ "Task") := by
  rw [interfaceName, interfaceName, String.append_left_inj] at h
  have hlist := congrArg String.toList h
  rw [String.toList_append, String.toList_append] at hlist
  -- of two ends of one text, one is the end of the other
  rcases List.suffix_or_suffix_of_suffix ⟨_, hlist⟩ ⟨_, rfl⟩ with hsuffix | hsuffix
  · rcases interfaceName_cases_of_suffix ht hu h hsuffix with heq | htask
    · exact .inl heq
    · exact .inr (.inl htask)
  · rcases interfaceName_cases_of_suffix hu ht h.symm hsuffix with ⟨rfl, heq⟩ | htask
    · exact .inl ⟨rfl, heq.symm⟩
    · exact .inr (.inr htask)

/-- The parts of a namespace are names of directories. -/
theorem namespaceSegments_ne_and_slash_not_mem (t : ArtifactType) :
    ∀ part ∈ t.namespaceSegments, part ≠ "" ∧ '/' ∉ part.toList := by
  cases t <;> decide +kernel

theorem dot_not_mem_namespaceSegments (t : ArtifactType) :
    ∀ part ∈ t.namespaceSegments, '.' ∉ part.toList := by
  cases t <;> decide +kernel

/-- **Namespaces tell types apart.** -/
theorem namespaceSegments_inj {t u : ArtifactType} :
    t.namespaceSegments = u.namespaceSegments ↔ t = u := by
  have hall : ∀ t ∈ ArtifactType.all, ∀ u ∈ ArtifactType.all,
      t.namespaceSegments = u.namespaceSegments → t = u := by decide +kernel
  refine ⟨hall t (ArtifactType.mem_all t) u (ArtifactType.mem_all u), ?_⟩
  rintro rfl
  rfl

end Scaffold
