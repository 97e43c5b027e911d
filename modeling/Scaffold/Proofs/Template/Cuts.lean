import Mathlib.Logic.ExistsUnique
import Scaffold.Proofs.Template

/-!
# Sources cut at their placeholders

Every source is a stretch of text, a placeholder with a value, another stretch, and so on,
in one way only, and rendering puts the values in place of the placeholders at once.  The
stretches may hold any braces as long as they spell no such placeholder themselves.

The renderer does not look for placeholders: it pairs every opening brace with the next
closing one, which may stand far behind, past the end of the stretch and inside a
placeholder.  What saves the placeholder is that no name of a variable holds a brace.  A
pair that leaves its stretch has the opening brace of the next placeholder between its
ends, so it is no placeholder itself and only its first brace is passed over.

## Main definitions

* `Variables.Braceless` — names of variables without braces.
* `IsLiteral` — a text that spells no placeholder with a value.
* `TemplateCut`, `TemplateCut.source`, `TemplateCut.filled` — stretches of text and
  placeholders in turn, as they are written and with the values.
* `TemplateCut.Complete` — a cut at the placeholders of variables, and at all of them.

## Main results

* `placeholder?_append_eq_none` — a brace of a stretch opens nothing.
* `IsLiteral.eq_of_append_eq` — two cuts of one source have the same first stretch.
* `TemplateCut.render_source`, `TemplateCut.eq_of_source_eq`, `TemplateCut.exists_complete` —
  cuts are rendered stretch by stretch, and a source has one and no more.
* `Template.render_of_cut` — **rendering is substitution at the one cut of the source.**
-/

namespace Scaffold

/-! ### Stretches of text -/

/-- No name of a variable holds a brace. -/
def Variables.Braceless (vars : Variables) : Prop :=
  ∀ key, vars.contains key = true → '\x7b' ∉ key.toList ∧ '\x7d' ∉ key.toList

/-- The placeholder of a name, as it is written. -/
def slotChars (key : String) : List Char := '\x7b' :: (key.toList ++ ['\x7d'])

/-- No placeholder of a variable is spelled out in the text. -/
def IsLiteral (vars : Variables) (cs : List Char) : Prop :=
  ∀ key, vars.contains key = true → ¬slotChars key <:+: cs

/-- What may stand behind a stretch: a placeholder of a variable, or nothing. -/
def StartsWithSlot (vars : Variables) (cs : List Char) : Prop :=
  cs = [] ∨ ∃ key rest, vars.contains key = true ∧ cs = slotChars key ++ rest

section Stretches

variable {vars : Variables}

theorem IsLiteral.nil : IsLiteral vars [] := by
  intro key _ hstretch
  exact absurd (List.infix_nil.mp hstretch) (List.cons_ne_nil _ _)

theorem IsLiteral.of_infix {cs ds : List Char} (h : IsLiteral vars ds) (hstretch : cs <:+: ds) :
    IsLiteral vars cs :=
  fun key hkey hslot => h key hkey (hslot.trans hstretch)

/-- A placeholder that is spelled out behind a new character starts with it. -/
theorem IsLiteral.cons {c : Char} {cs : List Char} (h : IsLiteral vars cs)
    (hstart : ∀ key, vars.contains key = true → ¬slotChars key <+: c :: cs) :
    IsLiteral vars (c :: cs) := by
  intro key hkey hstretch
  rcases List.infix_cons_iff.mp hstretch with hprefix | hstretch
  · exact hstart key hkey hprefix
  · exact h key hkey hstretch

/-- Behind a stretch stands an opening brace or nothing. -/
theorem StartsWithSlot.eq_brace {c : Char} {cs : List Char} (h : StartsWithSlot vars (c :: cs)) :
    c = '\x7b' := by
  rcases h with h | ⟨key, rest, -, h⟩
  · cases h
  · exact (List.cons.inj h).1

/-- **A brace of a stretch opens nothing**, wherever the closing brace behind it stands. -/
theorem placeholder?_append_eq_none (hvars : vars.Braceless) {cs rest : List Char}
    (hcs : IsLiteral vars ('\x7b' :: cs)) (hrest : StartsWithSlot vars rest) :
    placeholder? vars (cs ++ rest) = none := by
  rw [Option.eq_none_iff_forall_ne_some]
  rintro ⟨value, after⟩ hsome
  obtain ⟨key, hget, -, hsplit⟩ := placeholder?_eq_some_iff.mp hsome
  have hkey : vars.contains key = true := Option.isSome_iff_exists.mpr ⟨value, hget⟩
  rcases List.append_eq_append_iff.mp hsplit with ⟨ds, hname, rfl⟩ | ⟨ds, rfl, hds⟩
  · cases ds with
    | nil => exact absurd hrest.eq_brace (by decide)
    | cons d ds =>
      -- the name leaves the stretch, so it holds the brace behind it
      obtain rfl := hrest.eq_brace
      refine (hvars key hkey).1 ?_
      rw [hname]
      exact List.mem_append_right cs List.mem_cons_self
  · cases ds with
    | nil =>
      obtain rfl := hds
      exact absurd hrest.eq_brace (by decide)
    | cons d ds =>
      -- the placeholder lies in the stretch
      obtain ⟨rfl, -⟩ := List.cons.inj hds
      exact hcs key hkey ⟨[], ds, by simp [slotChars]⟩

/-- **A stretch is rendered as it stands.** -/
theorem renderChars_append_of_isLiteral (hvars : vars.Braceless) {cs rest : List Char}
    (hcs : IsLiteral vars cs) (hrest : StartsWithSlot vars rest) :
    renderChars vars (cs ++ rest) = cs ++ renderChars vars rest :=
  renderChars_append fun _ hds =>
    placeholder?_append_eq_none hvars (hcs.of_infix hds.isInfix) hrest

/-- A stretch cannot end where another one that starts at the same place goes on. -/
private theorem eq_nil_of_isLiteral_append (hvars : vars.Braceless) {cs ds rest rest' : List Char}
    (hlit : IsLiteral vars (cs ++ ds)) (hrest : StartsWithSlot vars rest)
    (hrest' : StartsWithSlot vars rest') (heq : rest = ds ++ rest') : ds = [] := by
  cases ds with
  | nil => rfl
  | cons d ds =>
    exfalso
    rcases hrest with rfl | ⟨key, after, hkey, rfl⟩
    · cases heq
    have hnot : ¬slotChars key <:+: d :: ds := fun hslot =>
      hlit key hkey (hslot.trans (List.suffix_append cs _).isInfix)
    rcases List.append_eq_append_iff.mp heq with ⟨es, hds, -⟩ | ⟨es, hslot, rfl⟩
    · -- the whole placeholder would lie in the longer stretch
      exact hnot ⟨[], es, by rw [List.nil_append, hds]⟩
    · cases es with
      | nil =>
        rw [List.append_nil] at hslot
        exact hnot (hslot ▸ List.infix_rfl)
      | cons e es =>
        -- the longer stretch would end inside the placeholder, at a brace
        obtain rfl := hrest'.eq_brace
        obtain ⟨-, htail⟩ := List.cons.inj hslot
        have hmem : '\x7b' ∈ key.toList ++ ['\x7d'] := by
          rw [htail]
          exact List.mem_append_right ds List.mem_cons_self
        rcases List.mem_append.mp hmem with hmem | hmem
        · exact (hvars key hkey).1 hmem
        · exact absurd (List.mem_singleton.mp hmem) (by decide)

/-- **Two cuts of one source have the same first stretch.** -/
theorem IsLiteral.eq_of_append_eq (hvars : vars.Braceless) {cs cs' rest rest' : List Char}
    (hcs : IsLiteral vars cs) (hcs' : IsLiteral vars cs') (hrest : StartsWithSlot vars rest)
    (hrest' : StartsWithSlot vars rest') (heq : cs ++ rest = cs' ++ rest') :
    cs = cs' ∧ rest = rest' := by
  rcases List.append_eq_append_iff.mp heq with ⟨ds, rfl, hds⟩ | ⟨ds, rfl, hds⟩
  · obtain rfl := eq_nil_of_isLiteral_append hvars hcs' hrest hrest' hds
    exact ⟨(List.append_nil cs).symm, hds⟩
  · obtain rfl := eq_nil_of_isLiteral_append hvars hcs hrest' hrest hds
    exact ⟨List.append_nil cs', hds.symm⟩

/-- Two placeholders of variables that start alike are one. -/
theorem eq_of_slotChars_append_eq (hvars : vars.Braceless) {key key' : String}
    (hkey : vars.contains key = true) (hkey' : vars.contains key' = true) {rest rest' : List Char}
    (heq : slotChars key ++ rest = slotChars key' ++ rest') : key = key' ∧ rest = rest' := by
  have htail : key.toList ++ '\x7d' :: rest = key'.toList ++ '\x7d' :: rest' := by
    simpa [slotChars] using heq
  obtain ⟨htake, hdrop⟩ := takeWhile_closing (hvars key hkey).2 rest
  obtain ⟨htake', hdrop'⟩ := takeWhile_closing (hvars key' hkey').2 rest'
  rw [htail, htake'] at htake
  rw [htail, hdrop'] at hdrop
  exact ⟨String.toList_inj.mp htake.symm, (List.cons.inj hdrop).2.symm⟩

end Stretches

/-! ### Cuts -/

/-- A source in pieces. -/
structure TemplateCut where
  /-- Stretches of text, each with the name of the placeholder behind it. -/
  stretches : List (String × String)
  /-- The stretch that ends the source. -/
  last : String
  deriving DecidableEq, Repr

namespace TemplateCut

variable {vars : Variables}

/-- The parts of the source, one after the other. -/
def parts (cut : TemplateCut) : List TemplatePart :=
  cut.stretches.flatMap (fun s => [.text s.1, .slot s.2]) ++ [.text cut.last]

/-- The source of a cut. -/
def source (cut : TemplateCut) : String := sourceOfParts cut.parts

/-- The source with the values in place of the placeholders. -/
def filled (cut : TemplateCut) (vars : Variables) : String :=
  String.join (cut.parts.map (·.fill vars))

/-- **The placeholders of a cut are those of variables**, and all that its source has. -/
structure Complete (cut : TemplateCut) (vars : Variables) : Prop where
  /-- Every placeholder has a value. -/
  keys : ∀ s ∈ cut.stretches, vars.contains s.2 = true
  /-- No stretch spells a placeholder that has a value. -/
  literals : ∀ s ∈ cut.stretches, IsLiteral vars s.1.toList
  /-- Neither does the last one. -/
  last : IsLiteral vars cut.last.toList

section Pieces

variable {s : String × String} {stretches : List (String × String)} {last : String}

theorem source_nil : (source ⟨[], last⟩).toList = last.toList := by
  simp [source, parts, sourceOfParts, TemplatePart.source]

theorem source_cons :
    (source ⟨s :: stretches, last⟩).toList
      = s.1.toList ++ (slotChars s.2 ++ (source ⟨stretches, last⟩).toList) := by
  have hparts : parts ⟨s :: stretches, last⟩
      = .text s.1 :: .slot s.2 :: parts ⟨stretches, last⟩ := rfl
  rw [source, hparts, sourceOfParts_cons, sourceOfParts_cons]
  simp [TemplatePart.source, slotChars, source, String.toList_append]

theorem filled_nil : filled ⟨[], last⟩ vars = last := by
  simp [filled, parts, TemplatePart.fill]

theorem filled_cons :
    filled ⟨s :: stretches, last⟩ vars
      = s.1 ++ ((vars.get? s.2).getD "" ++ filled ⟨stretches, last⟩ vars) := by
  have hparts : parts ⟨s :: stretches, last⟩
      = .text s.1 :: .slot s.2 :: parts ⟨stretches, last⟩ := rfl
  rw [filled, hparts, List.map_cons, List.map_cons, String.join_cons, String.join_cons, filled]
  rfl

theorem complete_nil_iff : Complete ⟨[], last⟩ vars ↔ IsLiteral vars last.toList :=
  ⟨Complete.last, fun h => ⟨List.forall_mem_nil _, List.forall_mem_nil _, h⟩⟩

theorem complete_cons_iff :
    Complete ⟨s :: stretches, last⟩ vars
      ↔ vars.contains s.2 = true ∧ IsLiteral vars s.1.toList ∧ Complete ⟨stretches, last⟩ vars := by
  constructor
  · rintro ⟨hkeys, hliterals, hlast⟩
    have ⟨hkey, hkeys⟩ := List.forall_mem_cons.mp hkeys
    have ⟨hliteral, hliterals⟩ := List.forall_mem_cons.mp hliterals
    exact ⟨hkey, hliteral, hkeys, hliterals, hlast⟩
  · rintro ⟨hkey, hliteral, hkeys, hliterals, hlast⟩
    exact ⟨List.forall_mem_cons.mpr ⟨hkey, hkeys⟩, List.forall_mem_cons.mpr ⟨hliteral, hliterals⟩,
      hlast⟩

end Pieces

/-- **A cut is rendered stretch by stretch.** -/
theorem render_source (hvars : vars.Braceless) {cut : TemplateCut} (h : cut.Complete vars) :
    Template.render ⟨cut.source⟩ vars = cut.filled vars := by
  obtain ⟨stretches, last⟩ := cut
  rw [Template.render]
  refine String.toList_inj.mp ?_
  rw [String.toList_ofList]
  induction stretches with
  | nil =>
    have hlast := renderChars_append_of_isLiteral hvars (complete_nil_iff.mp h) (.inl rfl)
    rw [renderChars.eq_1, List.append_nil] at hlast
    rw [source_nil, filled_nil, hlast]
  | cons s stretches ih =>
    obtain ⟨hkey, hliteral, hrest⟩ := complete_cons_iff.mp h
    obtain ⟨value, hget⟩ := Option.isSome_iff_exists.mp hkey
    have hslot := renderChars_slot (hvars s.2 hkey).2 hget (source ⟨stretches, last⟩).toList
    rw [source_cons, renderChars_append_of_isLiteral hvars hliteral (.inr ⟨_, _, hkey, rfl⟩),
      slotChars, List.cons_append, List.append_assoc, List.singleton_append, hslot, ih hrest,
      filled_cons, hget, Option.getD_some, String.toList_append, String.toList_append]

/-- **Cuts of one source are equal.** -/
theorem eq_of_source_eq (hvars : vars.Braceless) {cut cut' : TemplateCut}
    (h : cut.Complete vars) (h' : cut'.Complete vars) (heq : cut.source = cut'.source) :
    cut = cut' := by
  obtain ⟨stretches, last⟩ := cut
  obtain ⟨stretches', last'⟩ := cut'
  have hchars := congrArg String.toList heq
  clear heq
  induction stretches generalizing stretches' with
  | nil =>
    cases stretches' with
    | nil =>
      rw [source_nil, source_nil] at hchars
      rw [String.toList_inj.mp hchars]
    | cons s' stretches' =>
      -- the other cut has a placeholder where this one is at its end
      obtain ⟨hkey', hliteral', -⟩ := complete_cons_iff.mp h'
      rw [source_nil, source_cons, ← List.append_nil last.toList] at hchars
      have htail := (h.last.eq_of_append_eq hvars hliteral' (.inl rfl)
        (.inr ⟨_, _, hkey', rfl⟩) hchars).2
      cases htail
  | cons s stretches ih =>
    obtain ⟨hkey, hliteral, hrest⟩ := complete_cons_iff.mp h
    cases stretches' with
    | nil =>
      rw [source_nil, source_cons, ← List.append_nil last'.toList] at hchars
      have htail := (hliteral.eq_of_append_eq hvars h'.last (.inr ⟨_, _, hkey, rfl⟩)
        (.inl rfl) hchars).2
      cases htail
    | cons s' stretches' =>
      obtain ⟨hkey', hliteral', hrest'⟩ := complete_cons_iff.mp h'
      rw [source_cons, source_cons] at hchars
      obtain ⟨htext, htail⟩ := hliteral.eq_of_append_eq hvars hliteral'
        (.inr ⟨_, _, hkey, rfl⟩) (.inr ⟨_, _, hkey', rfl⟩) hchars
      obtain ⟨hname, htail⟩ := eq_of_slotChars_append_eq hvars hkey hkey' htail
      have hs : s = s' := Prod.ext (String.toList_inj.mp htext) hname
      obtain ⟨rfl, rfl⟩ := TemplateCut.mk.inj (ih hrest stretches' hrest' htail)
      rw [hs]

/-! ### Finding the cut -/

/-- A character in front of the source. -/
def prepend (c : Char) : TemplateCut → TemplateCut
  | ⟨[], last⟩ => ⟨[], .ofList (c :: last.toList)⟩
  | ⟨s :: stretches, last⟩ => ⟨(.ofList (c :: s.1.toList), s.2) :: stretches, last⟩

theorem source_prepend (c : Char) (cut : TemplateCut) :
    (cut.prepend c).source.toList = c :: cut.source.toList := by
  obtain ⟨_ | ⟨s, stretches⟩, last⟩ := cut
  · rw [prepend, source_nil, source_nil, String.toList_ofList]
  · rw [prepend, source_cons, source_cons, String.toList_ofList, List.cons_append]

/-- The first stretch goes on to the left up to a placeholder. -/
theorem Complete.prepend {c : Char} {cut : TemplateCut} (h : cut.Complete vars)
    (hstart : ∀ key, vars.contains key = true → ¬slotChars key <+: c :: cut.source.toList) :
    (cut.prepend c).Complete vars := by
  obtain ⟨_ | ⟨s, stretches⟩, last⟩ := cut
  · rw [TemplateCut.prepend, complete_nil_iff, String.toList_ofList]
    refine h.last.cons fun key hkey => ?_
    rw [source_nil] at hstart
    exact hstart key hkey
  · obtain ⟨hkey, hliteral, hrest⟩ := complete_cons_iff.mp h
    rw [TemplateCut.prepend, complete_cons_iff, String.toList_ofList]
    refine ⟨hkey, hliteral.cons fun key hkey hslot => hstart key hkey ?_, hrest⟩
    rw [source_cons, ← List.cons_append]
    exact hslot.trans (List.prefix_append _ _)

/-- **Every source has a cut**, found the way the renderer goes. -/
theorem exists_complete (hvars : vars.Braceless) (cs : List Char) :
    ∃ cut : TemplateCut, cut.Complete vars ∧ cut.source.toList = cs := by
  induction cs using renderChars.induct vars with
  | case1 => exact ⟨⟨[], ""⟩, complete_nil_iff.mpr .nil, source_nil⟩
  | case2 c rest hc value after hslot ih =>
    obtain rfl := beq_iff_eq.mp hc
    obtain ⟨key, hget, -, rfl⟩ := placeholder?_eq_some_iff.mp hslot
    obtain ⟨⟨stretches, last⟩, hcut, rfl⟩ := ih
    have hkey : vars.contains key = true := Option.isSome_iff_exists.mpr ⟨value, hget⟩
    refine ⟨⟨("", key) :: stretches, last⟩, complete_cons_iff.mpr ⟨hkey, .nil, hcut⟩, ?_⟩
    rw [source_cons]
    simp [slotChars]
  | case3 c rest hc hnone ih =>
    obtain rfl := beq_iff_eq.mp hc
    obtain ⟨cut, hcut, rfl⟩ := ih
    refine ⟨cut.prepend _, hcut.prepend fun key hkey hslot => ?_, source_prepend _ cut⟩
    -- a placeholder here is one that the renderer would have found
    obtain ⟨after, hafter⟩ := hslot
    obtain ⟨value, hget⟩ := Option.isSome_iff_exists.mp hkey
    have hsome : placeholder? vars cut.source.toList = some (value, after) := by
      refine placeholder?_eq_some_iff.mpr ⟨key, hget, (hvars key hkey).2, ?_⟩
      simpa [slotChars] using hafter.symm
    rw [hnone] at hsome
    cases hsome
  | case4 c rest hc ih =>
    obtain ⟨cut, hcut, rfl⟩ := ih
    refine ⟨cut.prepend c, hcut.prepend fun key hkey hslot => ?_, source_prepend c cut⟩
    obtain ⟨after, hafter⟩ := hslot
    exact hc (beq_iff_eq.mpr (List.cons.inj hafter).1.symm)

end TemplateCut

/-- **Rendering puts values in place of placeholders at once.**  Every source has one cut
whose placeholders are those of variables and whose stretches spell none; the stretches
stay as they are and the values, whatever they hold, come in between. -/
theorem Template.render_of_cut {vars : Variables} (hvars : vars.Braceless) (t : Template) :
    (∃! cut : TemplateCut, cut.Complete vars ∧ cut.source = t.source) ∧
      ∀ cut : TemplateCut, cut.Complete vars → cut.source = t.source →
        t.render vars = cut.filled vars := by
  constructor
  · obtain ⟨cut, hcut, hsource⟩ := TemplateCut.exists_complete hvars t.source.toList
    have hsource : cut.source = t.source := String.toList_inj.mp hsource
    refine ⟨cut, ⟨hcut, hsource⟩, fun cut' h' => ?_⟩
    exact TemplateCut.eq_of_source_eq hvars h'.1 hcut (h'.2.trans hsource.symm)
  · rintro cut hcut hsource
    obtain ⟨source⟩ := t
    obtain rfl := hsource
    exact TemplateCut.render_source hvars hcut

/-- A body whose value looks like its own placeholder. -/
def bodyVariables : Variables := .ofList [("body", "return \x7bbody\x7d;")]

/-- Braces around the placeholder, and one that is never closed. -/
def bodyCut : TemplateCut := ⟨[("fn() \x7b ", "body")], " \x7d\x7b"⟩

theorem render_of_cut_bodyCut :
    bodyVariables.Braceless ∧ bodyCut.Complete bodyVariables ∧
      (∃! cut : TemplateCut, cut.Complete bodyVariables ∧
        cut.source = "fn() \x7b \x7bbody\x7d \x7d\x7b") ∧
      Template.render ⟨"fn() \x7b \x7bbody\x7d \x7d\x7b"⟩ bodyVariables
        = "fn() \x7b return \x7bbody\x7d; \x7d\x7b" := by
  have hbody (key : String) (hkey : bodyVariables.contains key = true) : key = "body" :=
    List.mem_singleton.mp (Dict.contains_ofList.mp hkey)
  have hvars : bodyVariables.Braceless := by
    intro key hkey
    rw [hbody key hkey]
    decide +kernel
  have hcut : bodyCut.Complete bodyVariables := by
    refine ⟨by decide +kernel, ?_, ?_⟩
    · intro s hs key hkey
      rw [hbody key hkey, List.mem_singleton.mp hs]
      decide +kernel
    · intro key hkey
      rw [hbody key hkey]
      decide +kernel
  have h := Template.render_of_cut hvars ⟨"fn() \x7b \x7bbody\x7d \x7d\x7b"⟩
  exact ⟨hvars, hcut, h.1, (h.2 bodyCut hcut (by decide +kernel)).trans (by decide +kernel)⟩

end Scaffold
