import Scaffold.Proofs.Toml.Keys
import Scaffold.Settings.Text

/-!
# What a settings text gives a setting

A settings text is read entry by entry, and every entry may change the settings so far.  What a
setting is in the end can be told by looking it up: the section under its name, and in it the
entry under the name of the setting, or the item at its place where the section is an array.
A setting that is not found has its default.

Reading obeys the last entry of a key and looking up finds the first one; the two agree because
no key stands twice in a table of a text.

## Main definitions

* `SettingKey`, `SettingsText.given?` — a setting, and the text that is given for it.
* `SectionForm.Holds`, `SettingsText.Part` — a field among those of its section, and a section
  among those of the settings.

## Main results

* `SectionForm.Holds.get_read` — a field of a section that has been read.
* `SettingsText.Part.given` — **a setting of a text is what is given for it, or its default.**
-/

namespace Scaffold

/-! ### Looking settings up -/

namespace Toml.Value

/-- The text of a string. -/
def text? : Value → Option String
  | .string text => some text
  | _ => none

/-- The text that a section gives a field: under its name in a table, at its place in an
array. -/
def field? (name : String) (place : Nat) : Value → Option String
  | .table entries => (entries.lookup name).bind text?
  | .array items => items[place]?.bind text?
  | _ => none

end Toml.Value

/-- A setting. -/
structure SettingKey where
  /-- The name of its section. -/
  group : String
  /-- Its own name. -/
  name : String
  /-- Its place in a section that is written as an array. -/
  place : Nat
  deriving DecidableEq, Repr

namespace SettingKey

/-- The directory of all domains. -/
def outputDirectory : SettingKey := ⟨"output", "directory", 0⟩

/-- The extension of the files. -/
def extension : SettingKey := ⟨"output", "extension", 1⟩

/-- The namespace above all domains. -/
def rootNamespace : SettingKey := ⟨"naming", "root_namespace", 0⟩

/-- The directory of the templates. -/
def templateDirectory : SettingKey := ⟨"templates", "directory", 0⟩

end SettingKey

/-- The text that is given for a setting. -/
def SettingsText.given? (t : SettingsText) (key : SettingKey) : Option String :=
  (t.table.lookup key.group).bind (·.field? key.name key.place)

/-! ### One section -/

namespace SectionForm

variable {σ α : Type}

/-- A field: its own entry sets what `get` looks at, and no other entry touches that. -/
structure Holds (form : SectionForm σ) (name : String) (place : Nat) (get : σ → α)
    (ofText : String → α) : Prop where
  /-- The field is at its place and is set from its text. -/
  sets : ∃ put, form.fields[place]? = some (name, put) ∧ ∀ text s, get (put text s) = ofText text
  /-- The other fields have other names and leave it alone. -/
  keeps : ∀ i field, form.fields[i]? = some field → i ≠ place →
    field.1 ≠ name ∧ ∀ text s, get (field.2 text s) = get s

variable {form : SectionForm σ} {name : String} {place : Nat} {get : σ → α} {ofText : String → α}

theorem exists_of_give {put : String → σ → σ} {s s' : σ} {v : Toml.Value}
    (h : give put s v = some s') : ∃ text, v = .string text ∧ s' = put text s := by
  cases v with
  | string text => exact ⟨text, rfl, (Option.some.inj h).symm⟩
  | _ => cases h

/-- One entry of a section: that of the field gives it its text, any other leaves it alone. -/
theorem Holds.of_readEntry (hfield : form.Holds name place get ofText)
    {state state' : σ × List String} {key : String} {v : Toml.Value}
    (h : form.readEntry state (key, v) = some state') :
    (key = name ∧ ∃ text, v = .string text ∧ get state'.1 = ofText text) ∨
      (key ≠ name ∧ get state'.1 = get state.1) := by
  obtain ⟨own, hown, hset⟩ := hfield.sets
  rw [readEntry] at h
  split at h
  · next put hlookup =>
    obtain ⟨s', hgive, rfl⟩ := Option.map_eq_some_iff.mp h
    obtain ⟨text, rfl, rfl⟩ := exists_of_give hgive
    obtain ⟨before, after, hfields, -⟩ := List.lookup_eq_some_iff.mp hlookup
    have hmem : (key, put) ∈ form.fields := hfields ▸ List.mem_append_right _ List.mem_cons_self
    obtain ⟨i, hi⟩ := List.mem_iff_getElem?.mp hmem
    by_cases hplace : i = place
    · rw [hplace, hown] at hi
      obtain ⟨rfl, rfl⟩ := Prod.mk.inj (Option.some.inj hi)
      exact .inl ⟨rfl, text, rfl, hset text state.1⟩
    · obtain ⟨hname, hkeep⟩ := hfield.keeps i _ hi hplace
      exact .inr ⟨hname, hkeep text state.1⟩
  · next hlookup =>
    obtain rfl := Option.some.inj h
    refine .inr ⟨?_, rfl⟩
    rintro rfl
    have hne := List.lookup_eq_none_iff.mp hlookup _ (List.mem_of_getElem? hown)
    exact absurd rfl (bne_iff_ne.mp hne)

/-- The entries of a table one after the other, by induction on them. -/
theorem Holds.of_foldlM (hfield : form.Holds name place get ofText) {entries : Toml.Table}
    (hkeys : (entries.map (·.1)).Nodup) {state state' : σ × List String}
    (h : entries.foldlM form.readEntry state = some state') :
    get state'.1 =
      (((entries.lookup name).bind Toml.Value.text?).map ofText).getD (get state.1) := by
  induction entries generalizing state with
  | nil =>
    obtain rfl := Option.some.inj h
    rfl
  | cons entry rest ih =>
    obtain ⟨key, v⟩ := entry
    obtain ⟨hkey, hrest⟩ := List.nodup_cons.mp hkeys
    rw [List.foldlM_cons] at h
    obtain ⟨next, hentry, h⟩ := Option.bind_eq_some_iff.mp h
    rw [ih hrest h]
    rcases hfield.of_readEntry hentry with ⟨rfl, text, rfl, hget⟩ | ⟨hne, hget⟩
    · have hnone : rest.lookup key = none := by
        refine List.lookup_eq_none_iff.mpr fun e he => ?_
        exact bne_iff_ne.mpr fun heq => hkey (List.mem_map.mpr ⟨e, he, heq.symm⟩)
      rw [hnone, List.lookup_cons_self, hget]
      rfl
    · rw [hget, List.lookup_cons, beq_false_of_ne (Ne.symm hne)]

theorem get_of_readItems_of_keeps {puts : List (String → σ → σ)}
    (hkeeps : ∀ put ∈ puts, ∀ text s, get (put text s) = get s) {items : List Toml.Value} {s s' : σ}
    (h : readItems s puts items = some s') : get s' = get s := by
  induction puts generalizing items s with
  | nil =>
    obtain rfl := Option.some.inj h
    rfl
  | cons put puts ih =>
    obtain ⟨hput, hputs⟩ := List.forall_mem_cons.mp hkeeps
    cases items with
    | nil =>
      obtain rfl := Option.some.inj h
      rfl
    | cons v rest =>
      obtain ⟨next, hgive, h⟩ := Option.bind_eq_some_iff.mp h
      obtain ⟨text, -, rfl⟩ := exists_of_give hgive
      rw [ih hputs h, hput]

/-- The items of an array one after the other, by induction on the fields. -/
theorem get_of_readItems {puts : List (String → σ → σ)} {own : String → σ → σ}
    (hown : puts[place]? = some own) (hset : ∀ text s, get (own text s) = ofText text)
    (hkeeps : ∀ i put, puts[i]? = some put → i ≠ place → ∀ text s, get (put text s) = get s)
    {items : List Toml.Value} {s s' : σ} (h : readItems s puts items = some s') :
    get s' = ((items[place]?.bind Toml.Value.text?).map ofText).getD (get s) := by
  induction puts generalizing place items s with
  | nil => cases hown
  | cons put puts ih =>
    cases items with
    | nil =>
      obtain rfl := Option.some.inj h
      rfl
    | cons v rest =>
      obtain ⟨next, hgive, h⟩ := Option.bind_eq_some_iff.mp h
      obtain ⟨text, rfl, rfl⟩ := exists_of_give hgive
      cases place with
      | zero =>
        obtain rfl := Option.some.inj hown
        have hrest : ∀ put ∈ puts, ∀ text s, get (put text s) = get s := by
          intro other hmem
          obtain ⟨i, hi⟩ := List.mem_iff_getElem?.mp hmem
          exact hkeeps (i + 1) other hi (Nat.succ_ne_zero i)
        rw [get_of_readItems_of_keeps hrest h, hset]
        rfl
      | succ place =>
        have hrest : ∀ i put, puts[i]? = some put → i ≠ place →
            ∀ text s, get (put text s) = get s :=
          fun i other hi hne => hkeeps (i + 1) other hi fun heq => hne (Nat.succ.inj heq)
        rw [ih hown hrest h, hkeeps 0 put rfl (Nat.succ_ne_zero place).symm]
        rfl

/-- **A field of a section is what the section gives it**, or what it is without any field. -/
theorem Holds.get_read (hfield : form.Holds name place get ofText) {v : Toml.Value}
    (hv : v.Distinct) {s : σ} {unknown : List String} (h : form.read v = some (s, unknown)) :
    get s = ((v.field? name place).map ofText).getD (get form.plain) := by
  cases v with
  | table entries =>
    cases hv with
    | table keys all => exact hfield.of_foldlM keys h
  | array items =>
    obtain ⟨s', hitems, h⟩ := Option.map_eq_some_iff.mp h
    obtain ⟨rfl, -⟩ := Prod.mk.inj h
    obtain ⟨own, hown, hset⟩ := hfield.sets
    have hput : (form.fields.map (·.2))[place]? = some own := by
      rw [List.getElem?_map, hown]
      rfl
    refine get_of_readItems hput hset (fun i put hi hne => ?_) hitems
    rw [List.getElem?_map] at hi
    obtain ⟨other, hother, rfl⟩ := Option.map_eq_some_iff.mp hi
    exact (hfield.keeps i other hother hne).2
  | moment text =>
    obtain ⟨rfl, -⟩ := Prod.mk.inj (Option.some.inj h)
    rfl
  | _ => cases h

end SectionForm

/-! ### All sections -/

namespace SettingsText

variable {σ α : Type}

/-- A section: its own entry is read into what `get` looks at, no other entry touches that, and
it is laid over others as a whole. -/
structure Part (group : String) (form : SectionForm σ) (get : Settings → σ) : Prop where
  /-- Without an entry the section is the one without any field. -/
  plain : get {} = form.plain
  /-- What an entry does to the section. -/
  reads : ∀ {state state' : Settings × List String} {key : String} {v : Toml.Value},
    readEntry state (key, v) = some state' →
      (key = group ∧ ∃ unknown, form.read v = some (get state'.1, unknown)) ∨
        (key ≠ group ∧ get state'.1 = get state.1)
  /-- A text that sets the section replaces the one below. -/
  lies : ∀ (t : SettingsText) (base : Settings),
    get (t.layOver base) = if t.sets group then get t.settings else get base

variable {group : String} {form : SectionForm σ} {part : Settings → σ}

/-- The entries of a text one after the other, by induction on them. -/
theorem Part.of_foldlM (hpart : Part group form part) {entries : Toml.Table}
    (hkeys : (entries.map (·.1)).Nodup) {state state' : Settings × List String}
    (h : entries.foldlM readEntry state = some state') :
    (∃ v unknown, entries.lookup group = some v ∧ form.read v = some (part state'.1, unknown)) ∨
      (entries.lookup group = none ∧ part state'.1 = part state.1) := by
  induction entries generalizing state with
  | nil =>
    obtain rfl := Option.some.inj h
    exact .inr ⟨rfl, rfl⟩
  | cons entry rest ih =>
    obtain ⟨key, v⟩ := entry
    obtain ⟨hkey, hrest⟩ := List.nodup_cons.mp hkeys
    rw [List.foldlM_cons] at h
    obtain ⟨next, hentry, h⟩ := Option.bind_eq_some_iff.mp h
    rcases hpart.reads hentry with ⟨rfl, unknown, hread⟩ | ⟨hne, hget⟩
    · rcases ih hrest h with ⟨w, _, hw, -⟩ | ⟨-, hsame⟩
      · obtain ⟨before, after, rfl, -⟩ := List.lookup_eq_some_iff.mp hw
        exact absurd (List.mem_map.mpr ⟨_, List.mem_append_right _ List.mem_cons_self, rfl⟩) hkey
      · exact .inl ⟨v, unknown, List.lookup_cons_self, hsame ▸ hread⟩
    · rw [List.lookup_cons, beq_false_of_ne (Ne.symm hne), ← hget]
      exact ih hrest h

/-- **A setting of a text is what is given for it, or its default.** -/
theorem Part.given (hpart : Part group form part) {name : String} {place : Nat} {get : σ → α}
    {ofText : String → α} (hfield : form.Holds name place get ofText) {text : String}
    {t : SettingsText} (h : read text = some t) :
    get (part t.settings) =
      ((t.given? ⟨group, name, place⟩).map ofText).getD (get form.plain) := by
  obtain ⟨table, hread, h⟩ := Option.bind_eq_some_iff.mp h
  obtain ⟨⟨settings, unknown⟩, hfold, h⟩ := Option.bind_eq_some_iff.mp h
  obtain rfl := Option.some.inj h
  cases Toml.distinct_of_read hread with
  | table keys all =>
    rw [given?]
    dsimp only
    rcases hpart.of_foldlM keys hfold with ⟨v, _, hv, hsection⟩ | ⟨hnone, hsame⟩
    · obtain ⟨before, after, rfl, -⟩ := List.lookup_eq_some_iff.mp hv
      have hdistinct := all (group, v) (List.mem_append_right _ List.mem_cons_self)
      rw [hv, Option.bind_some, hfield.get_read hdistinct hsection]
    · rw [hnone, hsame, hpart.plain]
      rfl

/-! ### The settings there are -/

/-- What an entry of a text does: it is read as its section, or it is only noted. -/
theorem readEntry_cases {state state' : Settings × List String} {key : String} {v : Toml.Value}
    (h : readEntry state (key, v) = some state') :
    (key = "output" ∧ ∃ output unknown, OutputSettings.form.read v = some (output, unknown) ∧
      state'.1 = { state.1 with output }) ∨
    (key = "naming" ∧ ∃ naming unknown, NamingSettings.form.read v = some (naming, unknown) ∧
      state'.1 = { state.1 with naming }) ∨
    (key = "templates" ∧ ∃ templates unknown,
      TemplateSettings.form.read v = some (templates, unknown) ∧
      state'.1 = { state.1 with templates }) ∨
    ((key ≠ "output" ∧ key ≠ "naming" ∧ key ≠ "templates") ∧ state'.1 = state.1) := by
  unfold readEntry at h
  dsimp only at h
  split at h
  · next heq =>
    obtain ⟨rfl, rfl⟩ := Prod.mk.inj heq
    obtain ⟨⟨output, unknown⟩, hread, h⟩ := Option.bind_eq_some_iff.mp h
    obtain rfl := Option.some.inj h
    exact .inl ⟨rfl, output, unknown, hread, rfl⟩
  · next heq =>
    obtain ⟨rfl, rfl⟩ := Prod.mk.inj heq
    obtain ⟨⟨naming, unknown⟩, hread, h⟩ := Option.bind_eq_some_iff.mp h
    obtain rfl := Option.some.inj h
    exact .inr (.inl ⟨rfl, naming, unknown, hread, rfl⟩)
  · next heq =>
    obtain ⟨rfl, rfl⟩ := Prod.mk.inj heq
    obtain ⟨⟨templates, unknown⟩, hread, h⟩ := Option.bind_eq_some_iff.mp h
    obtain rfl := Option.some.inj h
    exact .inr (.inr (.inl ⟨rfl, templates, unknown, hread, rfl⟩))
  · next houtput hnaming htemplates heq =>
    obtain ⟨rfl, rfl⟩ := Prod.mk.inj heq
    obtain rfl := Option.some.inj h
    exact .inr (.inr (.inr ⟨⟨houtput, hnaming, htemplates⟩, rfl⟩))

theorem part_output : Part "output" OutputSettings.form (·.output) where
  plain := rfl
  lies t base := rfl
  reads h := by
    rcases readEntry_cases h with ⟨rfl, output, unknown, hread, hstate⟩ |
      ⟨rfl, _, _, -, hstate⟩ | ⟨rfl, _, _, -, hstate⟩ | ⟨hkey, hstate⟩
    · exact .inl ⟨rfl, unknown, hstate ▸ hread⟩
    · exact .inr ⟨by decide, hstate ▸ rfl⟩
    · exact .inr ⟨by decide, hstate ▸ rfl⟩
    · exact .inr ⟨hkey.1, hstate ▸ rfl⟩

theorem part_naming : Part "naming" NamingSettings.form (·.naming) where
  plain := rfl
  lies t base := rfl
  reads h := by
    rcases readEntry_cases h with ⟨rfl, _, _, -, hstate⟩ | ⟨rfl, naming, unknown, hread, hstate⟩ |
      ⟨rfl, _, _, -, hstate⟩ | ⟨hkey, hstate⟩
    · exact .inr ⟨by decide, hstate ▸ rfl⟩
    · exact .inl ⟨rfl, unknown, hstate ▸ hread⟩
    · exact .inr ⟨by decide, hstate ▸ rfl⟩
    · exact .inr ⟨hkey.2.1, hstate ▸ rfl⟩

theorem part_templates : Part "templates" TemplateSettings.form (·.templates) where
  plain := rfl
  lies t base := rfl
  reads h := by
    rcases readEntry_cases h with ⟨rfl, _, _, -, hstate⟩ | ⟨rfl, _, _, -, hstate⟩ |
      ⟨rfl, templates, unknown, hread, hstate⟩ | ⟨hkey, hstate⟩
    · exact .inr ⟨by decide, hstate ▸ rfl⟩
    · exact .inr ⟨by decide, hstate ▸ rfl⟩
    · exact .inl ⟨rfl, unknown, hstate ▸ hread⟩
    · exact .inr ⟨hkey.2.2, hstate ▸ rfl⟩

end SettingsText

theorem OutputSettings.holds_directory :
    OutputSettings.form.Holds "directory" 0 (·.directory) Path.mk where
  sets := ⟨_, rfl, fun _ _ => rfl⟩
  keeps
    | 0, _, _, hne => absurd rfl hne
    | 1, _, rfl, _ => ⟨by decide, fun _ _ => rfl⟩

theorem OutputSettings.holds_extension :
    OutputSettings.form.Holds "extension" 1 (·.extension) id where
  sets := ⟨_, rfl, fun _ _ => rfl⟩
  keeps
    | 0, _, rfl, _ => ⟨by decide, fun _ _ => rfl⟩
    | 1, _, _, hne => absurd rfl hne

theorem NamingSettings.holds_rootNamespace :
    NamingSettings.form.Holds "root_namespace" 0 (·.rootNamespace) id where
  sets := ⟨_, rfl, fun _ _ => rfl⟩
  keeps
    | 0, _, _, hne => absurd rfl hne

theorem TemplateSettings.holds_directory :
    TemplateSettings.form.Holds "directory" 0 (·.directory) (fun text => some ⟨text⟩) where
  sets := ⟨_, rfl, fun _ _ => rfl⟩
  keeps
    | 0, _, _, hne => absurd rfl hne

end Scaffold
