import Scaffold.Proofs.Toml.Layout
import Scaffold.Proofs.Toml.PlainText
import Scaffold.Settings.Text

/-!
# The line of a warning

A warning about an unknown key carries the number of a line.  The text is searched for the key,
so it is the first line that mentions it, be it in a comment, in a value, or in a longer key.
For texts that are laid out in lines this is set against the lines that have the key in their
header or on the left of their assignment.

The key of a warning is mostly such a key.  But it may also stand within the value of a section
that is given by an assignment, as an inline table or a date.

## Main definitions

* `sectionNames`, `SettingsText.StandsIn` — the keys of the sections, and those of a table and its
  sections.
* `Toml.Value.HasKey` — a key that a section has when it is written as this value.

## Main results

* `SettingsText.of_mem_unknown` — where an unknown key comes from.
* `warnings_of_laid` — **the line of a warning has the key on its left, or in its header, exactly
  if no line in front mentions the key.**
-/

namespace Scaffold

open Toml (Declares Laid dropByteOrderMark)
open Text (Mentions)

/-- The keys of the sections. -/
def sectionNames : List String := ["output", "naming", "templates"]

/-- The key stands in a section that is written as this value.  A date has one key. -/
def Toml.Value.HasKey (key : String) : Value → Prop
  | .table entries => ∃ v, (key, v) ∈ entries
  | .moment _ => key = momentKey
  | _ => False

/-! ### Where unknown keys come from -/

/-- An unknown key of a section stands in it. -/
theorem SectionForm.hasKey_of_read {σ : Type} {form : SectionForm σ} {v : Toml.Value} {s : σ}
    {unknown : List String} (h : form.read v = some (s, unknown)) :
    ∀ key ∈ unknown, v.HasKey key := by
  cases v with
  | table entries =>
    refine Option.foldlM_invariant (P := fun state => ∀ key ∈ state.2, ∃ v, (key, v) ∈ entries)
      h (List.forall_mem_nil _) fun entry hentry state state' hstate hstep => ?_
    rw [readEntry] at hstep
    split at hstep
    · obtain ⟨s', -, rfl⟩ := Option.map_eq_some_iff.mp hstep
      exact hstate
    · obtain rfl := Option.some.inj hstep
      exact List.forall_mem_append.mpr ⟨hstate, List.forall_mem_singleton.mpr ⟨entry.2, hentry⟩⟩
  | array items =>
    obtain ⟨s', -, h⟩ := Option.map_eq_some_iff.mp h
    obtain ⟨-, rfl⟩ := Prod.mk.inj h
    exact List.forall_mem_nil _
  | moment text =>
    obtain ⟨-, rfl⟩ := Prod.mk.inj (Option.some.inj h)
    exact List.forall_mem_singleton.mpr rfl
  | _ => cases h

namespace SettingsText

/-- The key stands at the top of the table, or in one of its sections. -/
def StandsIn (table : Toml.Table) (key : String) : Prop :=
  (∃ v, (key, v) ∈ table) ∨ ∃ name ∈ sectionNames, ∃ v, (name, v) ∈ table ∧ v.HasKey key

/-- **An unknown key stands at the top or in a section**, by the entries of the table. -/
theorem of_mem_unknown {table : Toml.Table} {t : SettingsText} (h : ofTable table = some t) :
    ∀ key ∈ t.unknown, StandsIn table key := by
  obtain ⟨⟨settings, unknown⟩, hfold, h⟩ := Option.bind_eq_some_iff.mp h
  obtain rfl := Option.some.inj h
  refine Option.foldlM_invariant (P := fun state => ∀ key ∈ state.2, StandsIn table key)
    hfold (List.forall_mem_nil _) fun entry hentry state state' hstate hstep => ?_
  have hsection {σ : Type} {form : SectionForm σ} {name : String} {v : Toml.Value}
      (hname : name ∈ sectionNames) (hentry : (name, v) ∈ table) {s : σ} {more : List String}
      (hread : form.read v = some (s, more)) : ∀ key ∈ state.2 ++ more, StandsIn table key :=
    List.forall_mem_append.mpr ⟨hstate, fun key hkey =>
      .inr ⟨name, hname, v, hentry, SectionForm.hasKey_of_read hread key hkey⟩⟩
  obtain ⟨settings, unknown⟩ := state
  unfold readEntry at hstep
  dsimp only at hstep
  split at hstep
  · obtain ⟨⟨s, more⟩, hread, hstep⟩ := Option.bind_eq_some_iff.mp hstep
    obtain rfl := Option.some.inj hstep
    exact hsection (by decide) hentry hread
  · obtain ⟨⟨s, more⟩, hread, hstep⟩ := Option.bind_eq_some_iff.mp hstep
    obtain rfl := Option.some.inj hstep
    exact hsection (by decide) hentry hread
  · obtain ⟨⟨s, more⟩, hread, hstep⟩ := Option.bind_eq_some_iff.mp hstep
    obtain rfl := Option.some.inj hstep
    exact hsection (by decide) hentry hread
  · obtain rfl := Option.some.inj hstep
    exact List.forall_mem_append.mpr ⟨hstate, List.forall_mem_singleton.mpr (.inl ⟨_, hentry⟩)⟩

end SettingsText

/-! ### Keys of plain texts -/

/-- A bare key is all that follows its last dot, for it has none. -/
theorem SettingsText.lastPart_of_isBare {key : String} (h : Toml.IsBare key) :
    lastPart key = key := by
  have hdot : '.' ∉ key.toList := h.not_mem (by decide)
  have hall : key.toList.reverse.takeWhile (· != '.') = key.toList.reverse :=
    List.takeWhile_eq_self_iff.mpr fun c hc =>
      bne_iff_ne.mpr (ne_of_mem_of_not_mem (List.mem_reverse.mp hc) hdot)
  rw [lastPart, hall, List.reverse_reverse, String.ofList_toList]

theorem Toml.Laid.isPlain {n : Nat} {text : List Char} {said : List (Nat × Toml.Statement)}
    (h : Laid n text said) : ∀ line ∈ said, line.2.IsPlain := by
  induction h with
  | nil => exact List.forall_mem_nil _
  | remark hend hrest ih => exact ih
  | header hspace hleft hkey hright hend hrest ih => exact List.forall_mem_cons.mpr ⟨rfl, ih⟩
  | assign hspace hkey hright hvalue hend hrest ih => exact List.forall_mem_cons.mpr ⟨rfl, ih⟩

section Laid

variable {text : String} {said : List (Nat × Toml.Statement)}
  (hlaid : Laid 1 (dropByteOrderMark text.toList) said)
include hlaid

/-- **An unknown key of a text in lines** is the key of a line, or stands in the value of a
section that one line gives. -/
theorem Toml.Laid.of_mem_unknown {t : SettingsText} (h : SettingsText.read text = some t)
    {key : String} (hkey : key ∈ t.unknown) :
    (∃ n, Declares said n key) ∨ ∃ n, ∃ name ∈ sectionNames, ∃ v,
      (n, .assign ⟨[], name⟩ v) ∈ said ∧ v.HasKey key := by
  obtain ⟨table, htable, hsettings⟩ := Option.bind_eq_some_iff.mp h
  obtain ⟨statements, hread, hstatements⟩ := Option.bind_eq_some_iff.mp htable
  have hsaid := hlaid.said_of_readStatements hread
  have hplain : ∀ s ∈ statements, s.IsPlain := by
    intro s hs
    rcases hsaid s hs with rfl | ⟨n, hn⟩
    · exact trivial
    · exact hlaid.isPlain _ hn
  have hassign {key : String} {v : Toml.Value} (h : .assign ⟨[], key⟩ v ∈ statements) :
      ∃ n, (n, .assign ⟨[], key⟩ v) ∈ said := (hsaid _ h).resolve_left nofun
  have hheader {key : String} (h : .table ⟨[], key⟩ ∈ statements) :
      ∃ n, (n, .table ⟨[], key⟩) ∈ said := (hsaid _ h).resolve_left nofun
  rcases SettingsText.of_mem_unknown hsettings key hkey with
    ⟨v, hv⟩ | ⟨name, hname, v, hv, hkey⟩
  · -- a key of the text itself
    rcases Toml.of_mem_ofStatements hplain hstatements hv with h | ⟨h, -⟩
    · obtain ⟨n, hn⟩ := hassign h
      exact .inl ⟨n, .inr ⟨v, hn⟩⟩
    · obtain ⟨n, hn⟩ := hheader h
      exact .inl ⟨n, .inl hn⟩
  · -- a key of a section, which is one value or has a line for each key
    rcases Toml.of_mem_ofStatements hplain hstatements hv with h | ⟨-, entries, rfl, hall⟩
    · obtain ⟨n, hn⟩ := hassign h
      exact .inr ⟨n, name, hname, v, hn, hkey⟩
    · obtain ⟨u, hu⟩ := hkey
      obtain ⟨n, hn⟩ := hassign (hall _ hu)
      exact .inl ⟨n, .inr ⟨u, hn⟩⟩

end Laid

/-! ### The lines of warnings -/

/-- **The line of a warning.**  The key of a warning about a text in lines is that of a header or
an assignment, or it follows the last dot of a key in the value of a section; the line of the
warning is the first one that mentions it, and every line that has it on its left, or in its
header, does so.  The line of the warning is such a line exactly if there is one that no line in
front of it mentions the key. -/
theorem warnings_of_laid {text : String} {said : List (Nat × Toml.Statement)} {t : SettingsText}
    (hlaid : Laid 1 (dropByteOrderMark text.toList) said)
    (hread : SettingsText.read text = some t) (file : Path) :
    ∀ w ∈ t.warnings file text,
      ((∃ n, Declares said n w.key) ∨ ∃ n, ∃ name ∈ sectionNames, ∃ v key,
        (n, .assign ⟨[], name⟩ v) ∈ said ∧ v.HasKey key ∧
          w.key = SettingsText.lastPart key) ∧
      (∀ n, w.line? = some n ↔ Mentions text n w.key ∧ ∀ k < n, ¬ Mentions text k w.key) ∧
      (∀ n, Declares said n w.key → Mentions text n w.key ∧ ∃ k ≤ n, w.line? = some k) ∧
      ((∃ n, w.line? = some n ∧ Declares said n w.key) ↔
        ∃ n, Declares said n w.key ∧ ∀ k < n, ¬ Mentions text k w.key) := by
  intro w hw
  obtain ⟨key, hkey, rfl⟩ := List.mem_map.mp hw
  change (_ ∨ _) ∧ (∀ n, Text.lineOf? (SettingsText.lastPart key) text = some n ↔ _) ∧ _
  refine ⟨?_, fun n => Text.lineOf?_eq_some_iff, fun n hn => ?_, ?_⟩
  · rcases hlaid.of_mem_unknown hread hkey with ⟨n, hn⟩ | ⟨n, name, hname, v, hv, hhas⟩
    · have hbare := (hlaid.standsBehind hn).1
      refine .inl ⟨n, ?_⟩
      change Declares said n (SettingsText.lastPart key)
      rwa [SettingsText.lastPart_of_isBare hbare]
    · exact .inr ⟨n, name, hname, v, key, hv, hhas, rfl⟩
  · exact ⟨hlaid.mentions hn, Text.exists_lineOf? (hlaid.mentions hn)⟩
  · constructor
    · rintro ⟨n, hline, hn⟩
      exact ⟨n, hn, (Text.lineOf?_eq_some_iff.mp hline).2⟩
    · rintro ⟨n, hn, hfirst⟩
      exact ⟨n, Text.lineOf?_eq_some_iff.mpr ⟨hlaid.mentions hn, hfirst⟩, hn⟩

/-! ### Two texts -/

private theorem endsLine_feed (rest : List Char) : Toml.EndsLine ('\n' :: rest) rest :=
  @Toml.EndsLine.feed [] rest (.blank .nil)

private theorem laid_header {n : Nat} {rest : List Char} {said : List (Nat × Toml.Statement)}
    {key : String} (hkey : Toml.IsBare key) (hrest : Laid (n + 1) rest said) :
    Laid n ('[' :: (key.toList ++ ']' :: '\n' :: rest)) ((n, .table ⟨[], key⟩) :: said) :=
  @Laid.header n [] [] [] ('\n' :: rest) rest key said .nil .nil hkey .nil (endsLine_feed rest)
    hrest

private theorem laid_assign {n : Nat} {value rest : List Char} {v : Toml.Value}
    {said : List (Nat × Toml.Statement)} {key : String} (hkey : Toml.IsBare key)
    (hvalue : Toml.valueAt (value ++ '\n' :: rest) = some (v, '\n' :: rest))
    (hrest : Laid (n + value.count '\n' + 1) rest said) :
    Laid n (key.toList ++ (' ' :: '=' :: (value ++ '\n' :: rest)))
      ((n, .assign ⟨[], key⟩ v) :: said) :=
  @Laid.assign n [] [' '] value ('\n' :: rest) rest key v said .nil hkey (by decide) hvalue
    (endsLine_feed rest) hrest

/-- A slip of the pen in a section, and a section that means nothing. -/
def colorsText : String := "[output]\ndirectry = \"out\"\n\n[colors]\nenabled = true\n"

private theorem laid_colorsText : Laid 1 (dropByteOrderMark colorsText.toList)
    [(1, .table ⟨[], "output"⟩), (2, .assign ⟨[], "directry"⟩ (.string "out")),
      (4, .table ⟨[], "colors"⟩), (5, .assign ⟨[], "enabled"⟩ (.boolean true))] := by
  have htext : dropByteOrderMark colorsText.toList =
      '[' :: ("output".toList ++ ']' :: '\n' ::
        ("directry".toList ++ ' ' :: '=' :: (" \"out\"".toList ++ '\n' ::
          '\n' :: '[' :: ("colors".toList ++ ']' :: '\n' ::
            ("enabled".toList ++ ' ' :: '=' :: (" true".toList ++ ['\n'])))))) := by
    decide +kernel
  rw [htext]
  refine laid_header (by decide) (laid_assign (by decide) rfl ?_)
  refine .remark (endsLine_feed _) (laid_header (by decide) (laid_assign (by decide) rfl ?_))
  exact .nil

theorem warnings_of_laid_colorsText :
    ∃ said t, Laid 1 (dropByteOrderMark colorsText.toList) said ∧
      SettingsText.read colorsText = some t ∧ t.unknown = ["directry", "colors"] ∧
      ∀ w ∈ t.warnings ⟨"layergen.toml"⟩ colorsText,
        ∃ n, w.line? = some n ∧ Declares said n w.key := by
  have hread : (SettingsText.read colorsText).map (·.unknown) = some ["directry", "colors"] := by
    decide +kernel
  obtain ⟨t, hread, hunknown⟩ := Option.map_eq_some_iff.mp hread
  refine ⟨_, t, laid_colorsText, hread, hunknown, fun w hw => ?_⟩
  refine (warnings_of_laid laid_colorsText hread ⟨"layergen.toml"⟩ w hw).2.2.2.mpr ?_
  obtain ⟨key, hkey, rfl⟩ := List.mem_map.mp hw
  rw [hunknown, List.mem_cons, List.mem_singleton] at hkey
  rcases hkey with rfl | rfl
  · have hlast : SettingsText.lastPart "directry" = "directry" := by decide +kernel
    have hline : Text.lineOf? "directry" colorsText = some 2 := by decide +kernel
    rw [UnknownKey.ofText, hlast]
    exact ⟨2, .inr ⟨_, .tail _ (.head _)⟩, (Text.lineOf?_eq_some_iff.mp hline).2⟩
  · have hlast : SettingsText.lastPart "colors" = "colors" := by decide +kernel
    have hline : Text.lineOf? "colors" colorsText = some 4 := by decide +kernel
    rw [UnknownKey.ofText, hlast]
    exact ⟨4, .inl (.tail _ (.tail _ (.head _))), (Text.lineOf?_eq_some_iff.mp hline).2⟩

/-- An unknown key below a comment that mentions it. -/
def commentText : String := "# colour scheme\n[output]\ncolour = \"red\"\n"

private theorem laid_commentText : Laid 1 (dropByteOrderMark commentText.toList)
    [(2, .table ⟨[], "output"⟩), (3, .assign ⟨[], "colour"⟩ (.string "red"))] := by
  have htext : dropByteOrderMark commentText.toList =
      [] ++ '#' :: " colour scheme".toList ++ '\n' :: '[' :: ("output".toList ++ ']' :: '\n' ::
        ("colour".toList ++ ' ' :: '=' :: (" \"red\"".toList ++ ['\n']))) := by
    decide +kernel
  rw [htext]
  refine .remark (.feed (.comment .nil (by decide +kernel))) (laid_header (by decide) ?_)
  exact laid_assign (by decide) rfl .nil

/-- The comment takes the warning away from the line of the key. -/
theorem exists_warning_elsewhere :
    ∃ said t, Laid 1 (dropByteOrderMark commentText.toList) said ∧
      SettingsText.read commentText = some t ∧
      ∃ w ∈ t.warnings ⟨"layergen.toml"⟩ commentText,
        w.line? = some 1 ∧ ∀ n, Declares said n w.key ↔ n = 3 := by
  have hread : (SettingsText.read commentText).map (·.unknown) = some ["colour"] := by
    decide +kernel
  obtain ⟨t, hread, hunknown⟩ := Option.map_eq_some_iff.mp hread
  have hlast : SettingsText.lastPart "colour" = "colour" := by decide +kernel
  have hline : Text.lineOf? "colour" commentText = some 1 := by decide +kernel
  refine ⟨_, t, laid_commentText, hread,
    .ofText ⟨"layergen.toml"⟩ commentText "colour", ?_, hline, fun n => ?_⟩
  · exact List.mem_map.mpr ⟨"colour", hunknown ▸ List.mem_cons_self, by rw [hlast]⟩
  · simp [Declares, UnknownKey.ofText]

end Scaffold
