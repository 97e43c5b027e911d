import Scaffold.Generation
import Scaffold.Settings.Unknown
import Scaffold.Toml.Document

/-!
# Settings

What stays the same from run to run: where sources go and what their files are
called, the namespace above all domains, and the directory of templates.

Settings are written in TOML, a table for each section.  A section may also be
written as an array of its fields in order, as many of them as are wanted.  Every
field is a string.

## Main definitions

* `Settings`, `Settings.runOptions` — the settings, and the options of a run they stand for.
* `SectionForm`, `SectionForm.read` — the fields of a section, and how it is read.
* `SettingsText`, `SettingsText.read` — what a settings text says.
-/

namespace Scaffold

/-! ### The settings -/

/-- Where and how files are written. -/
structure OutputSettings where
  /-- The directory of all domains. -/
  directory : Path := ⟨"generated"⟩
  /-- The extension of the files, without a dot. -/
  extension : String := "php"
  deriving DecidableEq, Repr, Inhabited

/-- How things are named. -/
structure NamingSettings where
  /-- The namespace above all domains. -/
  rootNamespace : String := "App"
  deriving DecidableEq, Repr, Inhabited

/-- Where templates come from. -/
structure TemplateSettings where
  /-- The directory of the templates; without one, the built-in ones are used. -/
  directory : Option Path := none
  deriving DecidableEq, Repr, Inhabited

/-- The settings. -/
structure Settings where
  /-- Where and how files are written. -/
  output : OutputSettings := {}
  /-- How things are named. -/
  naming : NamingSettings := {}
  /-- Where templates come from. -/
  templates : TemplateSettings := {}
  deriving DecidableEq, Repr, Inhabited

namespace Settings

/-- The options of a run under these settings. -/
def runOptions (s : Settings) : RunOptions where
  outputDir := s.output.directory
  extension := s.output.extension
  rootNamespace := s.naming.rootNamespace

end Settings

/-! ### Forms of sections -/

/-- The shape of a section: its fields in order, each with what its value changes. -/
structure SectionForm (σ : Type) where
  /-- The section without any field. -/
  plain : σ
  /-- The fields. -/
  fields : List (String × (String → σ → σ))

namespace SectionForm

variable {σ : Type} (form : SectionForm σ)

/-- Give a field its value, which has to be a string. -/
def give (put : String → σ → σ) (s : σ) : Toml.Value → Option σ
  | .string text => some (put text s)
  | _ => none

/-- Take an entry of a section: the value of a field, or a key to be noted. -/
def readEntry (state : σ × List String) (entry : String × Toml.Value) :
    Option (σ × List String) :=
  match form.fields.lookup entry.1 with
  | some put => (give put state.1 entry.2).map (·, state.2)
  | none => some (state.1, state.2 ++ [entry.1])

/-- Take the values of fields by their places; those left over say nothing. -/
def readItems (s : σ) : (puts : List (String → σ → σ)) → List Toml.Value → Option σ
  | put :: puts, v :: rest => do readItems (← give put s v) puts rest
  | _, _ => some s

/-- A section, and the keys of it that mean nothing.  A date is read as the table
that stands for it in a node tree, whose one key means nothing here. -/
def read : Toml.Value → Option (σ × List String)
  | .table entries => entries.foldlM form.readEntry (form.plain, [])
  | .array items => (readItems form.plain (form.fields.map (·.2)) items).map (·, [])
  | .moment _ => some (form.plain, [Toml.momentKey])
  | _ => none

end SectionForm

/-! ### The sections -/

/-- Where and how files are written. -/
def OutputSettings.form : SectionForm OutputSettings where
  plain := {}
  fields :=
    [("directory", fun text s => { s with directory := ⟨text⟩ }),
      ("extension", fun text s => { s with extension := text })]

/-- How things are named. -/
def NamingSettings.form : SectionForm NamingSettings where
  plain := {}
  fields := [("root_namespace", fun text s => { s with rootNamespace := text })]

/-- Where templates come from. -/
def TemplateSettings.form : SectionForm TemplateSettings where
  plain := {}
  fields := [("directory", fun text s => { s with directory := some ⟨text⟩ })]

/-! ### The whole text -/

/-- What a settings text says. -/
structure SettingsText where
  /-- The table of the text. -/
  table : Toml.Table
  /-- The settings, with defaults for what the text leaves out. -/
  settings : Settings
  /-- The keys that mean nothing, in the order of the text. -/
  unknown : List String
  deriving Repr

namespace SettingsText

/-- Take an entry at the top: a section, or a key to be noted. -/
def readEntry (state : Settings × List String) (entry : String × Toml.Value) :
    Option (Settings × List String) :=
  let (s, unknown) := state
  match entry with
  | ("output", v) => do
    let (output, more) ← OutputSettings.form.read v
    return ({ s with output }, unknown ++ more)
  | ("naming", v) => do
    let (naming, more) ← NamingSettings.form.read v
    return ({ s with naming }, unknown ++ more)
  | ("templates", v) => do
    let (templates, more) ← TemplateSettings.form.read v
    return ({ s with templates }, unknown ++ more)
  | (key, _) => some (s, unknown ++ [key])

/-- The settings of a table. -/
def ofTable (table : Toml.Table) : Option SettingsText := do
  let (settings, unknown) ← table.foldlM readEntry ({}, [])
  return { table, settings, unknown }

/-- The settings of a text. -/
def read (text : String) : Option SettingsText := do ofTable (← Toml.read text)

/-- A section is set: it is there, and no empty table. -/
def sets (t : SettingsText) (name : String) : Bool :=
  match t.table.lookup name with
  | some (.table entries) => !entries.isEmpty
  | some _ => true
  | none => false

/-- What follows the last dot of a key. -/
def lastPart (key : String) : String :=
  .ofList ((key.toList.reverse.takeWhile (· != '.')).reverse)

/-- The warnings about a text that stands in a file. -/
def warnings (t : SettingsText) (file : Path) (text : String) : List UnknownKey :=
  t.unknown.map fun key => .ofText file text (lastPart key)

/-- Lay the sections that are set over settings, each as a whole. -/
def layOver (t : SettingsText) (base : Settings) : Settings where
  output := if t.sets "output" then t.settings.output else base.output
  naming := if t.sets "naming" then t.settings.naming else base.naming
  templates := if t.sets "templates" then t.settings.templates else base.templates

end SettingsText

end Scaffold
