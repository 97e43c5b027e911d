import Mathlib.Data.List.Chain
import Scaffold.Proofs.Naming

/-!
# From small letters to camel case and back

A name of small words with `_` between them is written in camel case and cut into words
again.  Every word starts with a capital then, and nothing else is one, so the cuts can
only fall between two words of the name; but not each of these places is cut.  A word of
two characters or more ends in a small letter or a digit, which a capital always parts
from what follows.  A word of one letter has become a capital, and two capitals side by
side are parted only if a small letter comes next: the second character of the word behind,
if it has one and this is no digit.

## Main definitions

* `isSnakeWord` — small letters and digits, a letter first.
* `StaysApart` — what keeps two neighbours apart in camel case.

## Main results

* `pieces_cut`, `length_pieces_joined` — a stretch without capitals behind its first
  character, cut off or not.
* `underscored_camelCase_iff` — **which names come back.**
-/

namespace Scaffold.Name

open Text

/-! ### Small words -/

/-- A small letter or a digit. -/
def isSnakeChar (c : Char) : Bool := c.isLower || c.isDigit

/-- A word of small letters and digits that starts with a letter. -/
def isSnakeWord : List Char → Bool
  | [] => false
  | c :: rest => c.isLower && rest.all isSnakeChar

/-- Two words that follow each other are told apart in camel case: the first has two
characters or more, or the second character of the other is a letter. -/
def StaysApart (word next : List Char) : Prop :=
  2 ≤ word.length ∨ next[1]?.any Char.isAlpha = true

instance (word next : List Char) : Decidable (StaysApart word next) :=
  inferInstanceAs (Decidable (_ ∨ _))

/-- What small letters and digits are to the rules for words. -/
structure SnakeCharFacts (c : Char) : Prop where
  /-- It is one of the first characters of all. -/
  ascii : c.toNat < 128
  /-- It stands in a word. -/
  notSeparator : isSeparator c = false
  /-- No word starts with it. -/
  notUppercase : isUppercase c = false
  /-- It stays in small letters. -/
  lower : c.toLower = c
  /-- A capital behind it starts a word. -/
  parts : (isLowercase c || c.isDigit) = true
  /-- Of these, the letters are the small ones. -/
  alpha : c.isAlpha = isLowercase c

/-- What the capital of a small letter is to the rules for words. -/
structure CapitalFacts (c : Char) : Prop where
  /-- The capital is one character. -/
  upper : toUppercase c = [c.toUpper]
  /-- It is one of the first characters of all. -/
  ascii : c.toUpper.toNat < 128
  /-- It stands in a word. -/
  notSeparator : isSeparator c.toUpper = false
  /-- It may start a word. -/
  uppercase : isUppercase c.toUpper = true
  /-- A capital behind it starts no word by that alone. -/
  notLowercase : isLowercase c.toUpper = false
  /-- Nor is it a digit. -/
  notDigit : c.toUpper.isDigit = false
  /-- The small letter comes back. -/
  back : c.toUpper.toLower = c

private theorem toNat_lt_of_isSnakeChar {c : Char} (h : isSnakeChar c = true) : c.toNat < 128 := by
  have hlower : c.isLower = (decide (97 ≤ c.val) && decide (c.val ≤ 122)) := rfl
  simp only [isSnakeChar, hlower, Char.isDigit, Bool.or_eq_true, Bool.and_eq_true,
    decide_eq_true_eq, UInt32.le_iff_toNat_le] at h
  have hupper : c.val.toNat ≤ 122 := by
    rcases h with h | h
    · exact h.2
    · exact h.2.trans (by decide)
  exact Nat.lt_of_le_of_lt hupper (by decide)

theorem snakeCharFacts {c : Char} (h : isSnakeChar c = true) : SnakeCharFacts c := by
  have hc := toNat_lt_of_isSnakeChar h
  have hfacts : isSnakeChar c = true → isSeparator c = false ∧ isUppercase c = false ∧
      c.toLower = c ∧ (isLowercase c || c.isDigit) = true ∧ c.isAlpha = isLowercase c :=
    of_ascii hc (by decide +kernel)
  obtain ⟨h1, h2, h3, h4, h5⟩ := hfacts h
  exact ⟨hc, h1, h2, h3, h4, h5⟩

theorem capitalFacts {c : Char} (h : c.isLower = true) : CapitalFacts c := by
  have hc := toNat_lt_of_isSnakeChar (c := c) (by rw [isSnakeChar, h, Bool.true_or])
  have hfacts : c.isLower = true → c.toUpper.toNat < 128 ∧ isSeparator c.toUpper = false ∧
      isUppercase c.toUpper = true ∧ isLowercase c.toUpper = false ∧
      c.toUpper.isDigit = false ∧ c.toUpper.toLower = c := of_ascii hc (by decide +kernel)
  obtain ⟨h1, h2, h3, h4, h5, h6⟩ := hfacts h
  exact ⟨toUppercase_of_ascii hc, h1, h2, h3, h4, h5, h6⟩

/-! ### Stretches without capitals -/

private theorem joins_small {d : Char} (hd : isSnakeChar d = true) (p : Char) (rest : List Char) :
    joins p (d :: rest) = true := by
  have hfacts := snakeCharFacts hd
  simp [joins, startsWord, hfacts.notSeparator, hfacts.notUppercase]

private theorem exists_pieces_eq_cons {c : Char} (hc : isSeparator c = false) (rest : List Char) :
    ∃ piece ps, pieces (c :: rest) = piece :: ps := by
  cases h : joins c rest with
  | false => exact ⟨_, _, pieces_of_not_joins hc h⟩
  | true =>
    rw [pieces_of_joins hc h]
    cases pieces rest with
    | nil => exact ⟨_, _, rfl⟩
    | cons piece ps => exact ⟨_, _, rfl⟩

/-- A character that is joined to what follows makes no piece of its own. -/
private theorem length_pieces_of_joins {c : Char} {rest : List Char} (hc : isSeparator c = false)
    (h : joins c rest = true) : (pieces (c :: rest)).length = (pieces rest).length := by
  rw [pieces_of_joins hc h]
  cases rest with
  | nil => cases h
  | cons d rest =>
    have hd : isSeparator d = false := by
      rw [joins, Bool.and_eq_true, Bool.not_eq_true'] at h
      exact h.1
    obtain ⟨piece, ps, hps⟩ := exists_pieces_eq_cons hd rest
    rw [hps]
    rfl

section Stretch

variable {c : Char} {w rest : List Char}

/-- **A stretch without capitals behind its first character** is a piece of its own if a cut
falls behind it. -/
theorem pieces_cut (hc : isSeparator c = false) (hw : w.all isSnakeChar = true)
    (hcut : joins (w.getLastD c) rest = false) :
    pieces (c :: (w ++ rest)) = (c :: w) :: pieces rest := by
  induction w generalizing c with
  | nil => exact pieces_of_not_joins hc hcut
  | cons d w ih =>
    rw [List.all_cons, Bool.and_eq_true] at hw
    rw [List.getLastD_cons] at hcut
    rw [List.cons_append, pieces_of_joins hc (joins_small hw.1 c _),
      ih (snakeCharFacts hw.1).notSeparator hw.2 hcut]
    rfl

/-- If no cut falls behind it, it makes no piece of its own. -/
theorem length_pieces_joined (hc : isSeparator c = false) (hw : w.all isSnakeChar = true)
    (hjoins : joins (w.getLastD c) rest = true) :
    (pieces (c :: (w ++ rest))).length = (pieces rest).length := by
  induction w generalizing c with
  | nil => exact length_pieces_of_joins hc hjoins
  | cons d w ih =>
    rw [List.all_cons, Bool.and_eq_true] at hw
    rw [List.getLastD_cons] at hjoins
    rw [List.cons_append, length_pieces_of_joins hc (joins_small hw.1 c _)]
    exact ih (snakeCharFacts hw.1).notSeparator hw.2 hjoins

end Stretch

/-! ### The name in small letters -/

theorem isSnakeChar_of_isLower {c : Char} (h : c.isLower = true) : isSnakeChar c = true := by
  rw [isSnakeChar, h, Bool.true_or]

/-- A small word is what it is taken for: a letter and a stretch behind it. -/
theorem exists_of_isSnakeWord {word : List Char} (h : isSnakeWord word = true) :
    ∃ c rest, word = c :: rest ∧ c.isLower = true ∧ rest.all isSnakeChar = true := by
  cases word with
  | nil => cases h
  | cons c rest =>
    rw [isSnakeWord, Bool.and_eq_true] at h
    exact ⟨c, rest, rfl, h.1, h.2⟩

theorem isSnakeChar_of_mem {word : List Char} (h : isSnakeWord word = true) :
    ∀ d ∈ word, isSnakeChar d = true := by
  obtain ⟨c, rest, rfl, hc, hrest⟩ := exists_of_isSnakeWord h
  exact List.forall_mem_cons.mpr ⟨isSnakeChar_of_isLower hc, List.all_eq_true.mp hrest⟩

/-- A small word is in small letters already. -/
private theorem map_toLower_of_isSnakeChar {cs : List Char} (h : ∀ d ∈ cs, isSnakeChar d = true) :
    cs.map Char.toLower = cs :=
  (List.map_congr_left fun d hd => (snakeCharFacts (h d hd)).lower).trans (List.map_id cs)

theorem pieces_intercalate {ws : List (List Char)} (hws : ∀ w ∈ ws, isSnakeWord w = true) :
    pieces (['_'].intercalate ws) = ws := by
  induction ws with
  | nil => rfl
  | cons w ws ih =>
    obtain ⟨hw, htail⟩ := List.forall_mem_cons.mp hws
    obtain ⟨c, rest, rfl, hc, hrest⟩ := exists_of_isSnakeWord hw
    have hsep := (snakeCharFacts (isSnakeChar_of_isLower hc)).notSeparator
    cases ws with
    | nil =>
      have hlast : pieces (c :: (rest ++ [])) = [c :: rest] := pieces_cut hsep hrest rfl
      rw [List.append_nil] at hlast
      rwa [List.intercalate_singleton]
    | cons w' ws =>
      rw [List.intercalate_cons_cons, List.append_assoc, List.cons_append,
        pieces_cut hsep hrest rfl, List.singleton_append, pieces_cons_separator rfl, ih htail]

private theorem settle_of_isSnakeWord {word : List Char} (h : isSnakeWord word = true) :
    settle word = word := by
  obtain ⟨c, rest, rfl, hc, -⟩ := exists_of_isSnakeWord h
  have hlower : isLowercase c = true := by
    have halpha : c.isAlpha = (c.isUpper || c.isLower) := rfl
    rw [← (snakeCharFacts (isSnakeChar_of_isLower hc)).alpha, halpha, hc, Bool.or_true]
  rw [settle, List.any_cons, hlower, Bool.true_or, if_pos rfl]

/-- **The words of the name** are those it is made of. -/
theorem words_intercalate {ws : List (List Char)} (hws : ∀ w ∈ ws, isSnakeWord w = true) :
    words (['_'].intercalate ws) = ws := by
  rw [words, pieces_intercalate hws]
  exact (List.map_congr_left fun w hw => settle_of_isSnakeWord (hws w hw)).trans (List.map_id ws)

/-! ### The name in camel case -/

/-- The words with capital first letters, one after the other. -/
def camelWords (ws : List (List Char)) : List Char := (ws.map capitalizeChars).flatten

private theorem capitalizeChars_cons {c : Char} (hc : c.isLower = true) (rest : List Char) :
    capitalizeChars (c :: rest) = c.toUpper :: rest := by
  rw [capitalizeChars, (capitalFacts hc).upper, List.singleton_append]

private theorem camelWords_cons {c : Char} (hc : c.isLower = true) (rest : List Char)
    (ws : List (List Char)) :
    camelWords ((c :: rest) :: ws) = c.toUpper :: (rest ++ camelWords ws) := by
  rw [camelWords, List.map_cons, List.flatten_cons, capitalizeChars_cons hc, List.cons_append]
  rfl

/-- What follows a word in camel case does not start with a small letter. -/
private theorem head?_camelWords {ws : List (List Char)} (hws : ∀ w ∈ ws, isSnakeWord w = true) :
    (camelWords ws).head?.any isLowercase = false := by
  cases ws with
  | nil => rfl
  | cons w ws =>
    obtain ⟨c, rest, rfl, hc, -⟩ := exists_of_isSnakeWord (hws w List.mem_cons_self)
    rw [camelWords_cons hc, List.head?_cons, Option.any_some, (capitalFacts hc).notLowercase]

/-- **Two words are cut apart in camel case** exactly if they stay apart. -/
theorem joins_camelWords_iff {c : Char} {w v : List Char} {ws : List (List Char)}
    (hword : isSnakeWord (c :: w) = true) (hws : ∀ u ∈ v :: ws, isSnakeWord u = true) :
    joins (w.getLastD c.toUpper) (camelWords (v :: ws)) = false ↔ StaysApart (c :: w) v := by
  rw [isSnakeWord, Bool.and_eq_true] at hword
  obtain ⟨hc, hw⟩ := hword
  obtain ⟨hnext, hafter⟩ := List.forall_mem_cons.mp hws
  obtain ⟨d, v, rfl, hd, hv⟩ := exists_of_isSnakeWord hnext
  have hD := capitalFacts hd
  have hcut : joins (w.getLastD c.toUpper) (camelWords ((d :: v) :: ws)) = false
      ↔ startsWord (w.getLastD c.toUpper) d.toUpper (v ++ camelWords ws).head? = true := by
    rw [camelWords_cons hd, joins, hD.notSeparator]
    simp
  rw [hcut, startsWord, hD.uppercase, Bool.true_and]
  cases w with
  | nil =>
    have hC := capitalFacts hc
    rw [List.getLastD_nil, hC.notLowercase, hC.notDigit, hC.uppercase, Bool.false_or,
      Bool.false_or, Bool.true_and]
    cases v with
    | nil =>
      rw [List.nil_append, head?_camelWords hafter]
      simp [StaysApart]
    | cons e v =>
      rw [List.all_cons, Bool.and_eq_true] at hv
      simp [StaysApart, (snakeCharFacts hv.1).alpha]
  | cons x w =>
    -- the first word ends in a small letter or a digit
    have hlast : isSnakeChar ((x :: w).getLastD c.toUpper) = true := by
      rw [List.getLastD_cons]
      exact List.all_eq_true.mp hw _ List.getLastD_mem_cons
    rw [(snakeCharFacts hlast).parts, Bool.true_or]
    exact iff_of_true rfl (.inl (by simp))

theorem pieces_camelWords_of_isChain {ws : List (List Char)}
    (hws : ∀ w ∈ ws, isSnakeWord w = true) (hchain : ws.IsChain StaysApart) :
    pieces (camelWords ws) = ws.map capitalizeChars := by
  induction ws with
  | nil => rfl
  | cons w ws ih =>
    obtain ⟨hw, htail⟩ := List.forall_mem_cons.mp hws
    obtain ⟨c, rest, rfl, hc, hrest⟩ := exists_of_isSnakeWord hw
    have hcut : joins (rest.getLastD c.toUpper) (camelWords ws) = false := by
      cases ws with
      | nil => rfl
      | cons v ws =>
        exact (joins_camelWords_iff hw htail).mpr (List.isChain_cons_cons.mp hchain).1
    rw [camelWords_cons hc, pieces_cut (capitalFacts hc).notSeparator hrest hcut,
      ih htail hchain.tail, List.map_cons, capitalizeChars_cons hc]

/-- No more pieces than words, and as many only if all words stay apart. -/
theorem length_pieces_camelWords {ws : List (List Char)} (hws : ∀ w ∈ ws, isSnakeWord w = true) :
    (pieces (camelWords ws)).length ≤ ws.length ∧
      ((pieces (camelWords ws)).length = ws.length → ws.IsChain StaysApart) := by
  induction ws with
  | nil => exact ⟨Nat.le_refl 0, fun _ => .nil⟩
  | cons w ws ih =>
    obtain ⟨hw, htail⟩ := List.forall_mem_cons.mp hws
    obtain ⟨hle, hchain⟩ := ih htail
    obtain ⟨c, rest, rfl, hc, hrest⟩ := exists_of_isSnakeWord hw
    have hsep := (capitalFacts hc).notSeparator
    rw [camelWords_cons hc, List.length_cons]
    cases hjoins : joins (rest.getLastD c.toUpper) (camelWords ws) with
    | true =>
      -- one piece less
      rw [length_pieces_joined hsep hrest hjoins]
      omega
    | false =>
      rw [pieces_cut hsep hrest hjoins, List.length_cons]
      refine ⟨by omega, fun hlength => ?_⟩
      have hchain := hchain (by omega)
      cases ws with
      | nil => exact .singleton _
      | cons v ws => exact .cons_cons ((joins_camelWords_iff hw htail).mp hjoins) hchain

/-! ### Back again -/

/-- Small letters of ASCII characters, one by one. -/
theorem lowercaseWord_of_ascii {cs : List Char} (h : ∀ c ∈ cs, c.toNat < 128) :
    lowercaseWord cs = cs.map Char.toLower := by
  have hafter (before : List Char) : lowercaseAfter before cs = cs.map Char.toLower := by
    induction cs generalizing before with
    | nil => rfl
    | cons c cs ih =>
      obtain ⟨hc, hcs⟩ := List.forall_mem_cons.mp h
      have hsigma : ¬(c.toNat == 0x3A3) = true := by
        rw [beq_iff_eq]
        omega
      rw [lowercaseAfter, if_neg hsigma, toLowercase_of_ascii hc, ih hcs, List.map_cons,
        List.singleton_append]
  exact hafter []

/-- A word comes back from its form with a capital. -/
theorem lowercaseWord_settle_capitalizeChars {word : List Char} (h : isSnakeWord word = true) :
    lowercaseWord (settle (capitalizeChars word)) = word := by
  obtain ⟨c, rest, rfl, hc, hrest⟩ := exists_of_isSnakeWord h
  have hC := capitalFacts hc
  have hsnake := isSnakeChar_of_mem h
  have htail := (List.forall_mem_cons.mp hsnake).2
  have hascii : ∀ d ∈ c.toUpper :: rest, d.toNat < 128 :=
    List.forall_mem_cons.mpr ⟨hC.ascii, fun d hd => toNat_lt_of_isSnakeChar (htail d hd)⟩
  have hback : lowercaseWord (c.toUpper :: rest) = c :: rest := by
    rw [lowercaseWord_of_ascii hascii, List.map_cons, hC.back, map_toLower_of_isSnakeChar htail]
  rw [capitalizeChars_cons hc, settle]
  split
  · exact hback
  · rw [hback, lowercaseWord_of_ascii fun d hd => toNat_lt_of_isSnakeChar (hsnake d hd),
      map_toLower_of_isSnakeChar hsnake]

/-- The words of the name in camel case, in small letters again. -/
private theorem lowered_words_iff {ws : List (List Char)} (hws : ∀ w ∈ ws, isSnakeWord w = true) :
    (words (camelWords ws)).map lowercaseWord = ws ↔ ws.IsChain StaysApart := by
  constructor
  · intro h
    refine (length_pieces_camelWords hws).2 ?_
    have hlength := congrArg List.length h
    rwa [List.length_map, words, List.length_map] at hlength
  · intro hchain
    rw [words, pieces_camelWords_of_isChain hws hchain, List.map_map, List.map_map]
    exact (List.map_congr_left fun w hw =>
      lowercaseWord_settle_capitalizeChars (hws w hw)).trans (List.map_id ws)

/-- **A name of small words comes back from camel case** exactly if every two words that
follow each other stay apart. -/
theorem underscored_camelCase_iff {ws : List String}
    (hws : ∀ w ∈ ws, isSnakeWord w.toList = true) :
    underscored (camelCaseWith "" ("_".intercalate ws)) = "_".intercalate ws
      ↔ ws.IsChain fun word next => StaysApart word.toList next.toList := by
  have hchars : ∀ w ∈ ws.map String.toList, isSnakeWord w = true := List.forall_mem_map.mpr hws
  have hcamel : camelChars [] (['_'].intercalate (ws.map String.toList))
      = camelWords (ws.map String.toList) := by
    rw [camelChars, words_intercalate hchars, intercalate_nil_eq_flatten, camelWords]
  have hjoined : underscored (camelCaseWith "" ("_".intercalate ws)) = "_".intercalate ws
      ↔ ['_'].intercalate ((words (camelWords (ws.map String.toList))).map lowercaseWord)
        = ['_'].intercalate (ws.map String.toList) := by
    rw [← String.toList_inj, underscored, camelCaseWith, String.toList_ofList,
      String.toList_ofList, String.toList_intercalate]
    show joinedChars ['_'] (camelChars [] (['_'].intercalate _)) = ['_'].intercalate _ ↔ _
    rw [hcamel, joinedChars]
  rw [hjoined, ← List.isChain_map, ← lowered_words_iff hchars]
  generalize ws.map String.toList = cs at hchars
  refine ⟨fun h => ?_, fun h => by rw [h]⟩
  cases cs with
  | nil => rfl
  | cons w cs =>
    -- no word holds the mark, so the words can be read off the joined text
    have hwords : ∀ word ∈ w :: cs, '_' ∉ word := by
      intro word hword hmem
      have hfacts := snakeCharFacts (isSnakeChar_of_mem (hchars word hword) _ hmem)
      exact absurd hfacts.notSeparator (by decide)
    have hlowered : ∀ word ∈ (words (camelWords (w :: cs))).map lowercaseWord, '_' ∉ word := by
      rintro _ hmem
      obtain ⟨word, hword, rfl⟩ := List.mem_map.mp hmem
      rw [sign_mem_lowercaseWord_iff isSign_underscore]
      exact underscore_not_mem_words hword
    have hne : (words (camelWords (w :: cs))).map lowercaseWord ≠ [] := by
      obtain ⟨c, rest, rfl, hc, -⟩ := exists_of_isSnakeWord (hchars w List.mem_cons_self)
      obtain ⟨piece, ps, hps⟩ := exists_pieces_eq_cons (capitalFacts hc).notSeparator
        (rest ++ camelWords cs)
      rw [words, camelWords_cons hc, hps]
      exact List.cons_ne_nil _ _
    have hsplit := congrArg (List.splitOn '_') h
    rwa [List.splitOn_intercalate _ hlowered hne,
      List.splitOn_intercalate _ hwords (List.cons_ne_nil _ _)] at hsplit

/-- A single letter stays apart from a word that goes on with a letter, but not from
another single letter. -/
theorem underscored_camelCase_zIndex_xyAxis :
    (∀ w ∈ ["z", "index", "b2"], isSnakeWord w.toList = true) ∧
      underscored (camelCaseWith "" ("_".intercalate ["z", "index", "b2"])) = "z_index_b2" ∧
      (∀ w ∈ ["x", "y", "axis"], isSnakeWord w.toList = true) ∧
      underscored (camelCaseWith "" ("_".intercalate ["x", "y", "axis"])) ≠ "x_y_axis" := by
  have hindex : ∀ w ∈ ["z", "index", "b2"], isSnakeWord w.toList = true := by decide +kernel
  have haxis : ∀ w ∈ ["x", "y", "axis"], isSnakeWord w.toList = true := by decide +kernel
  refine ⟨hindex, (underscored_camelCase_iff hindex).mpr (by decide +kernel), haxis, fun h => ?_⟩
  exact absurd ((underscored_camelCase_iff haxis).mp h) (by decide +kernel)

end Scaffold.Name
