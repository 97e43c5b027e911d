import Scaffold.Generation
import Scaffold.Proofs.Expansion.Interfaces
import Scaffold.Proofs.Name.RoundTrip

/-!
# Valid names and the names of classes

A valid name becomes the name of a class and of its file: it is cut into words, these are
put together in camel case, and the type adds its suffix.  What is valid is decided on the
characters of the name, and a class name is what the cutting leaves of them: nothing but
the characters that part words is lost, and changing case never leaves nothing of a
character.  So a class has a name unless its type adds none to what is left of a name made
of underscores and hyphens only.  Such names are valid, and value objects and commands of
the shell add nothing.

## Main definitions

* `ArtifactType.IsBare` — the type adds nothing to a name.
* `Name.IsHollow` — the name holds nothing but underscores and hyphens.

## Main results

* `Name.camelCase_eq_empty_iff` — what camel case leaves nothing of.
* `className_eq_empty_iff` — which classes have no name.
* `isAlphanum_of_mem_className` — the characters of a class name.
* `emittedName_of_isValid` — **which valid names make a class name.**
-/

namespace Scaffold

/-- The type adds nothing to a name. -/
def ArtifactType.IsBare (t : ArtifactType) : Prop := t = .valueObject ∨ t = .cli

instance (t : ArtifactType) : Decidable t.IsBare := inferInstanceAs (Decidable (_ ∨ _))

/-- The name holds nothing but underscores and hyphens. -/
def Name.IsHollow (name : String) : Prop := ∀ c ∈ name.toList, c = '_' ∨ c = '-'

instance (name : String) : Decidable (Name.IsHollow name) :=
  decidable_of_iff (name.toList.all (fun c => c == '_' || c == '-') = true)
    (by simp [Name.IsHollow])

/-! ### Changing case leaves something -/

namespace Text

theorem toUppercase_ne_nil (c : Char) : toUppercase c ≠ [] := by
  have hexpansions : ∀ e ∈ uppercaseExpansions, e.2 ≠ [] := by decide +kernel
  unfold toUppercase
  split
  · exact List.cons_ne_nil _ _
  · split
    · next codes hcodes =>
      obtain ⟨before, after, happ, -⟩ := List.lookup_eq_some_iff.mp hcodes
      have hentry : (c.toNat, codes) ∈ uppercaseExpansions := by
        rw [happ]
        exact List.mem_append_right before List.mem_cons_self
      exact mt List.map_eq_nil_iff.mp (hexpansions _ hentry)
    · exact List.cons_ne_nil _ _

/-! ### Blanks are no letters -/

private def blankCodes : List Nat :=
  [9, 10, 11, 12, 13, 0x20, 0x85, 0xA0, 0x1680, 0x2000, 0x2001, 0x2002, 0x2003, 0x2004, 0x2005,
    0x2006, 0x2007, 0x2008, 0x2009, 0x200A, 0x2028, 0x2029, 0x202F, 0x205F, 0x3000]

theorem isBlank_eq_false_of_isAlphanumeric {c : Char} (h : isAlphanumeric c = true) :
    isBlank c = false := by
  have hall : ∀ n ∈ blankCodes, isAlphanumeric (.ofNat n) = false := by decide +kernel
  by_contra hblank
  rw [Bool.not_eq_false] at hblank
  have hcode : c.toNat ∈ blankCodes := by
    simp only [isBlank, Bool.or_eq_true, Bool.and_eq_true, decide_eq_true_eq, beq_iff_eq]
      at hblank
    simp only [blankCodes, List.mem_cons, List.not_mem_nil, or_false]
    omega
  have hnot := hall _ hcode
  rw [Char.ofNat_toNat, h] at hnot
  cases hnot

end Text

/-! ### Camel case -/

namespace Name

open Text

private theorem capitalizeChars_eq_nil_iff {word : List Char} :
    capitalizeChars word = [] ↔ word = [] := by
  cases word with
  | nil => exact iff_of_true rfl rfl
  | cons c rest =>
    refine iff_of_false ?_ (List.cons_ne_nil _ _)
    exact List.append_ne_nil_of_left_ne_nil (toUppercase_ne_nil c) _

/-- **Camel case leaves nothing** exactly of what holds separators only. -/
theorem camelCase_eq_empty_iff {name : String} :
    camelCase name = "" ↔ ∀ c ∈ name.toList, isSeparator c = true := by
  have hflat : (pieces name.toList).flatten = [] ↔ ∀ c ∈ name.toList, isSeparator c = true := by
    simp [flatten_pieces, List.filter_eq_nil_iff]
  rw [← hflat, camelCase, ← String.toList_inj, String.toList_ofList, camelChars,
    intercalate_nil_eq_flatten, words, List.map_map]
  have hempty : "".toList = [] := rfl
  simp only [hempty, List.flatten_eq_nil_iff, List.forall_mem_map, Function.comp_apply,
    capitalizeChars_eq_nil_iff, settle_eq_nil_iff]

/-- Of valid names, the separators are underscores and hyphens. -/
theorem forall_isSeparator_iff {name : String} (h : isValid name = true) :
    (∀ c ∈ name.toList, isSeparator c = true) ↔ IsHollow name := by
  rw [isValid, Bool.and_eq_true, List.all_eq_true] at h
  refine forall₂_congr fun c hc => ?_
  have hchar := h.2 c hc
  simp only [Bool.or_eq_true, beq_iff_eq, or_assoc] at hchar
  simp only [isSeparator, Bool.or_eq_true, beq_iff_eq]
  rcases hchar with hletter | hsign
  · rw [isBlank_eq_false_of_isAlphanumeric hletter]
    simp
  · tauto

/-! ### Names in ASCII -/

private theorem toNat_lt_of_isAlphanum {c : Char} (h : c.isAlphanum = true) : c.toNat < 128 := by
  have hranges : (decide ('A'.val ≤ c.val ∧ c.val ≤ 'Z'.val) ||
      ('a'.val ≤ c.val && c.val ≤ 'z'.val) || ('0'.val ≤ c.val && c.val ≤ '9'.val)) = true := h
  simp only [Bool.or_eq_true, Bool.and_eq_true, decide_eq_true_eq,
    UInt32.le_iff_toNat_le] at hranges
  have hcode : c.toNat = c.val.toNat := rfl
  have hends : 'Z'.val.toNat = 90 ∧ 'z'.val.toNat = 122 ∧ '9'.val.toNat = 57 := ⟨rfl, rfl, rfl⟩
  omega

/-- The other case of an ASCII letter is one, and digits stay. -/
private theorem isAlphanum_case {c : Char} (h : c.isAlphanum = true) :
    c.toUpper.isAlphanum = true ∧ c.toLower.isAlphanum = true := by
  have hcase : c.isAlphanum = true →
      c.toUpper.isAlphanum = true ∧ c.toLower.isAlphanum = true :=
    of_ascii (toNat_lt_of_isAlphanum h) (by decide +kernel)
  exact hcase h

private theorem isAlphanum_of_mem_settle {piece : List Char}
    (h : ∀ c ∈ piece, c.isAlphanum = true) : ∀ c ∈ settle piece, c.isAlphanum = true := by
  unfold settle
  split
  · exact h
  · rw [lowercaseWord_of_ascii fun c hc => toNat_lt_of_isAlphanum (h c hc), List.forall_mem_map]
    exact fun c hc => (isAlphanum_case (h c hc)).2

private theorem isAlphanum_of_mem_capitalizeChars {word : List Char}
    (h : ∀ c ∈ word, c.isAlphanum = true) :
    ∀ c ∈ capitalizeChars word, c.isAlphanum = true := by
  cases word with
  | nil => exact h
  | cons c rest =>
    obtain ⟨hc, hrest⟩ := List.forall_mem_cons.mp h
    rw [capitalizeChars, toUppercase_of_ascii (toNat_lt_of_isAlphanum hc), List.singleton_append]
    exact List.forall_mem_cons.mpr ⟨(isAlphanum_case hc).1, hrest⟩

/-- **Camel case of a valid name in ASCII** is letters and digits. -/
theorem isAlphanum_of_mem_camelCase {name : String} (h : isValid name = true)
    (hascii : ∀ c ∈ name.toList, c.toNat < 128) :
    ∀ c ∈ (camelCase name).toList, c.isAlphanum = true := by
  -- what the separators leave of the name
  have hpieces : ∀ piece ∈ pieces name.toList, ∀ c ∈ piece, c.isAlphanum = true := by
    intro piece hpiece c hc
    have hflat : c ∈ (pieces name.toList).flatten := List.mem_flatten.mpr ⟨piece, hpiece, hc⟩
    rw [flatten_pieces, List.mem_filter] at hflat
    obtain ⟨hmem, hword⟩ := hflat
    rw [isValid, Bool.and_eq_true, List.all_eq_true] at h
    have hchar := h.2 c hmem
    rw [isAlphanumeric_of_ascii (hascii c hmem)] at hchar
    simp only [isSeparator, Bool.not_or, Bool.and_eq_true, Bool.not_eq_true', beq_eq_false_iff_ne]
      at hword
    simpa [hword.1.1, hword.1.2] using hchar
  rw [camelCase, String.toList_ofList, camelChars, intercalate_nil_eq_flatten, words, List.map_map]
  intro c hc
  obtain ⟨_, hword, hmem⟩ := List.mem_flatten.mp hc
  obtain ⟨piece, hpiece, rfl⟩ := List.mem_map.mp hword
  exact isAlphanum_of_mem_capitalizeChars (isAlphanum_of_mem_settle (hpieces piece hpiece)) c hmem

end Name

/-! ### Class names -/

open Name

private theorem namingSuffix_eq_empty_iff {t : ArtifactType} :
    namingSuffix t.tag = "" ↔ t.IsBare := by
  have hall : ∀ t ∈ ArtifactType.all, (namingSuffix t.tag = "" ↔ t.IsBare) := by decide +kernel
  exact hall t (ArtifactType.mem_all t)

private theorem isAlphanum_of_mem_suffixOfTag {tag : String} (h : isValid tag = true)
    (hascii : ∀ c ∈ tag.toList, c.toNat < 128) :
    ∀ c ∈ (suffixOfTag tag).toList, c.isAlphanum = true := by
  unfold suffixOfTag
  split
  · exact List.all_eq_true.mp (by decide)
  · split
    · exact List.all_eq_true.mp (by decide)
    · split
      · exact List.all_eq_true.mp (by decide)
      · exact isAlphanum_of_mem_camelCase h hascii

/-- What a type adds to a name is letters, since tags are valid names themselves. -/
private theorem isAlphanum_of_mem_namingSuffix (t : ArtifactType) :
    ∀ c ∈ (namingSuffix t.tag).toList, c.isAlphanum = true := by
  have htags : ∀ tag ∈ "taskRepository" :: ArtifactType.all.map (·.tag),
      isValid tag = true ∧ tag.toList.all (fun c => decide (c.toNat < 128)) = true := by
    decide +kernel
  have hsuffix {tag : String} (hmem : tag ∈ "taskRepository" :: ArtifactType.all.map (·.tag)) :
      ∀ c ∈ (suffixOfTag tag).toList, c.isAlphanum = true := by
    obtain ⟨hvalid, hascii⟩ := htags tag hmem
    exact isAlphanum_of_mem_suffixOfTag hvalid fun c hc =>
      of_decide_eq_true (List.all_eq_true.mp hascii c hc)
  unfold namingSuffix
  split
  · exact hsuffix List.mem_cons_self
  · exact hsuffix (List.mem_cons_of_mem _ (List.mem_map.mpr ⟨t, ArtifactType.mem_all t, rfl⟩))

private theorem isAlphanum_of_mem_pastTense {word : String}
    (h : ∀ c ∈ word.toList, c.isAlphanum = true) :
    ∀ c ∈ (pastTense word).toList, c.isAlphanum = true := by
  unfold pastTense
  split
  · rw [String.toList_append]
    exact List.forall_mem_append.mpr ⟨h, List.all_eq_true.mp (by decide)⟩
  · rw [String.toList_append]
    exact List.forall_mem_append.mpr ⟨h, List.all_eq_true.mp (by decide)⟩

/-- **A class has no name** exactly if its type adds nothing to a name that holds separators
only. -/
theorem className_eq_empty_iff {t : ArtifactType} {name : String} :
    className t name = "" ↔ t.IsBare ∧ ∀ c ∈ name.toList, isSeparator c = true := by
  rw [className, String.append_eq_empty_iff, namingSuffix_eq_empty_iff, and_comm]
  refine and_congr_right fun hbare => ?_
  -- events are not bare
  have ht : t ≠ .event := by
    rintro rfl
    rcases hbare with h | h <;> cases h
  rw [if_neg ht, camelCase_eq_empty_iff]

/-- **The class name of a valid name in ASCII** is letters and digits. -/
theorem isAlphanum_of_mem_className {t : ArtifactType} {name : String} (h : isValid name = true)
    (hascii : ∀ c ∈ name.toList, c.toNat < 128) :
    ∀ c ∈ (className t name).toList, c.isAlphanum = true := by
  have hstem := isAlphanum_of_mem_camelCase h hascii
  unfold className
  rw [String.toList_append]
  refine List.forall_mem_append.mpr ⟨?_, isAlphanum_of_mem_namingSuffix t⟩
  split
  · exact isAlphanum_of_mem_pastTense hstem
  · exact hstem

/-! ### The classes of a domain -/

/-- The names of all artifacts of a blueprint are valid, apart from the keys of the interfaces
of repositories. -/
theorem Domain.isValid_of_mem_leaves {dom : Domain} {b : Blueprint} (h : dom.expand = .ok b)
    {l : Leaf} (hl : l ∈ b.leaves) (ht : l.type ≠ .repositoryInterface) :
    Name.isValid l.name = true := by
  obtain ⟨-, d, hd, s, hs, rfl⟩ := Domain.expand_eq_ok_iff.mp h
  have hread : ∀ t name spec, d.sections.find? t name = some spec →
      Name.isValid name = true ∧ spec.EventsValid :=
    fun _ _ _ hspec => Declaration.isValid_of_ofDomain hd hspec
  have hsound : d.Sound :=
    (Declaration.merges_iff_sound (Declaration.derived_of_ofDomain hd)).mp ⟨s, hs⟩
  obtain ⟨-, -, -, rfl⟩ := Declaration.merge_eq_ok_iff.mp hs
  obtain ⟨-, hfind⟩ := Blueprint.mem_leaves_ofSections_iff.mp hl
  have hmem : l.name ∈ d.names l.type := by
    rw [← hsound.commandsBound.has_merged_iff, Sections.has, hfind, Option.isSome_some]
  exact Declaration.isValid_of_mem_names hread hsound ht hmem

/-- What is generated for a leaf has no name exactly if it is the class of a bare type under a
hollow name. -/
private theorem Domain.emittedName_eq_empty_iff {dom : Domain} {b : Blueprint}
    (h : dom.expand = .ok b) {l : Leaf} (hl : l ∈ b.leaves) :
    l.names.emittedName = "" ↔ l.type.IsBare ∧ IsHollow l.name := by
  by_cases ht : l.type = .repositoryInterface
  · refine iff_of_false ?_ ?_
    · rw [Leaf.emittedName_of_repositoryInterface ht, interfaceName, String.append_eq_empty_iff]
      exact fun hempty => absurd hempty.2 (by decide)
    · rintro ⟨hvalue | hcli, -⟩
      · rw [ht] at hvalue
        cases hvalue
      · rw [ht] at hcli
        cases hcli
  · rw [Leaf.names_of_ne ht, emittedName_resolve, className_eq_empty_iff,
      forall_isSeparator_iff (isValid_of_mem_leaves h hl ht)]

/-- **Which valid names make a class name**: under a valid name, an artifact is generated
without a name exactly if its type adds nothing and the name holds nothing but underscores and
hyphens; in ASCII, what is generated goes by letters and digits.  These are the artifacts of
an expanded domain without a name, too. -/
theorem emittedName_of_isValid (t : ArtifactType) {name : String}
    (h : Name.isValid name = true) :
    ((resolve t name).emittedName = "" ↔ t.IsBare ∧ Name.IsHollow name) ∧
      ((∀ c ∈ name.toList, c.toNat < 128) →
        ∀ c ∈ (resolve t name).emittedName.toList, c.isAlphanum = true) ∧
      ∀ (dom : Domain) (b : Blueprint), dom.expand = .ok b → ∀ l ∈ b.leaves,
        (l.names.emittedName = "" ↔ l.type.IsBare ∧ Name.IsHollow l.name) := by
  rw [emittedName_resolve]
  refine ⟨?_, isAlphanum_of_mem_className h, fun dom b hb l hl =>
    Domain.emittedName_eq_empty_iff hb hl⟩
  rw [className_eq_empty_iff, forall_isSeparator_iff h]

theorem emittedName_of_isValid_orderDomain :
    (resolve .cli "place-order").emittedName ≠ "" ∧
      (∀ c ∈ (resolve .event "place-order").emittedName.toList, c.isAlphanum = true) ∧
      ∃ b, orderDomain.expand = .ok b ∧ ∀ l ∈ b.leaves, l.names.emittedName ≠ "" := by
  have hvalid : Name.isValid "place-order" = true := by decide +kernel
  obtain ⟨hcli, -, hdomain⟩ := emittedName_of_isValid .cli hvalid
  obtain ⟨-, hevent, -⟩ := emittedName_of_isValid .event hvalid
  have hascii : "place-order".toList.all (fun c => decide (c.toNat < 128)) = true := by decide
  have hfacts : orderDomain.anyBlueprint (fun b =>
      b.leaves.all fun l => !decide (l.type.IsBare ∧ Name.IsHollow l.name)) = true := by
    decide +kernel
  obtain ⟨b, hb, hpass⟩ := Domain.exists_of_anyBlueprint hfacts
  refine ⟨?_, hevent fun c hc => of_decide_eq_true (List.all_eq_true.mp hascii c hc), b, hb,
    fun l hl => ?_⟩
  · rw [Ne, hcli]
    decide
  · rw [Ne, hdomain orderDomain b hb l hl]
    have hnot := List.all_eq_true.mp hpass l hl
    rwa [Bool.not_eq_true', decide_eq_false_iff_not] at hnot

/-- A domain with a value object that goes by an underscore. -/
def underscoreDomain : Domain where
  name := "User"
  sections := .ofList
    [("entity", .map [("user", .list [])]), ("value_object", .map [("_", .null)]),
      ("command", .null)]

/-- Its class has no name, and its file nothing but an extension. -/
theorem exists_leaf_without_name :
    Name.isValid "_" = true ∧ (resolve .valueObject "_").emittedName = "" ∧
      ∃ b l, underscoreDomain.expand = .ok b ∧ l ∈ b.leaves ∧ l.names.emittedName = "" ∧
        targetPath {} b.domain l.names = ⟨"generated/User/Domain/ValueObject/.php"⟩ := by
  have hname : Name.isValid "_" = true ∧ (resolve .valueObject "_").emittedName = "" := by
    decide +kernel
  have hleaf : underscoreDomain.anyLeaf (fun b l => l.names.emittedName == "" &&
      targetPath {} b.domain l.names = ⟨"generated/User/Domain/ValueObject/.php"⟩) = true := by
    decide +kernel
  obtain ⟨b, l, hb, hl, hp⟩ := Domain.exists_leaf_of_anyLeaf hleaf
  rw [Bool.and_eq_true, beq_iff_eq, decide_eq_true_eq] at hp
  exact ⟨hname.1, hname.2, b, l, hb, hl, hp.1, hp.2⟩

end Scaffold
