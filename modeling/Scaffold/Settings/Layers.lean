import Scaffold.Files
import Scaffold.Settings.Text
import Scaffold.Toml.Moment

/-!
# Layers of settings

Settings come from files that lie over each other: that of the user below that of
the project, or else a single file that was asked for.  A section that a file sets
replaces the whole section below.  Variables of the environment lie over all files.

A file that was asked for has to be there; the others may be missing.  No file may
be broken, not even in a part that means nothing.

## Main definitions

* `SettingsFault` — what is wrong with a file.
* `SettingsFile`, `loadSettings`, `loadLayer` — one file.
* `SettingsSources`, `resolveSettings` — all layers.
* `Environment`, `Settings.overriddenBy` — the variables.
-/

namespace Scaffold

/-! ### Variables -/

/-- The variables of the environment. -/
abbrev Environment := Dict String String

/-- A variable that has a value other than the empty one. -/
def Environment.nonempty? (env : Environment) (name : String) : Option String :=
  (env.get? name).filter (!·.isEmpty)

/-- The variable of the output directory. -/
def outputVariable : String := "LAYERGEN_OUTPUT_DIR"

/-- The variable of the namespace above all domains. -/
def namespaceVariable : String := "LAYERGEN_ROOT_NAMESPACE"

/-- The variable of the directory of templates. -/
def templatesVariable : String := "LAYERGEN_TEMPLATES_DIR"

/-- The variable of the extension. -/
def extensionVariable : String := "LAYERGEN_EXTENSION"

/-- An extension without the dots it may be written with. -/
def dropDots (extension : String) : String :=
  .ofList (extension.toList.dropWhile (· == '.'))

/-- The settings with the variables over them.  An empty variable sets nothing,
except that the namespace may well be empty. -/
def Settings.overriddenBy (s : Settings) (env : Environment) : Settings where
  output :=
    { directory := ((env.nonempty? outputVariable).map Path.mk).getD s.output.directory
      extension := ((env.nonempty? extensionVariable).map dropDots).getD s.output.extension }
  naming := { rootNamespace := (env.get? namespaceVariable).getD s.naming.rootNamespace }
  templates :=
    { directory := ((env.nonempty? templatesVariable).map Path.mk).or s.templates.directory }

/-! ### One file -/

/-- A settings file cannot be used. -/
structure SettingsFault where
  /-- The file. -/
  path : Path
  /-- What is wrong with it. -/
  reason : String
  deriving DecidableEq, Repr

/-- The text of the fault. -/
def SettingsFault.message (f : SettingsFault) : String :=
  s!"invalid config {f.path.text}: {f.reason}"

/-- A settings file that has been read. -/
structure SettingsFile where
  /-- What it says. -/
  text : SettingsText
  /-- What is to be said about it. -/
  warnings : List UnknownKey
  deriving Repr

/-- The file of a path with this text. -/
def SettingsFile.ofText (path : Path) (text : String) : Except SettingsFault SettingsFile :=
  match SettingsText.read text with
  | none => .error ⟨path, "these are no settings"⟩
  | some t => .ok ⟨t, t.warnings path text⟩

section Load

variable {m : Type → Type} [Monad m] (fs : FileSystem m)

/-- Read a settings file. -/
def loadSettings (path : Path) : m (Except SettingsFault SettingsFile) := do
  match ← fs.readText path with
  | .error fault => return .error ⟨path, fault.message⟩
  | .ok text => return SettingsFile.ofText path text

/-- Read a settings file that is to lie over others. -/
def loadLayer (path : Path) : m (Except SettingsFault SettingsFile) := do
  match ← loadSettings fs path with
  | .error fault => return .error fault
  | .ok file =>
    if file.text.table.isSound then return .ok file
    else return .error ⟨path, "a table is taken for a date that is none"⟩

/-! ### All layers -/

/-- The settings so far, and what is to be said about the files so far. -/
structure SettingsStack where
  /-- The settings. -/
  settings : Settings := {}
  /-- The warnings. -/
  warnings : List UnknownKey := []
  deriving DecidableEq, Repr

/-- Lay a file over the settings so far. -/
def SettingsStack.push (stack : SettingsStack) (file : SettingsFile) : SettingsStack where
  settings := file.text.layOver stack.settings
  warnings := stack.warnings ++ file.warnings

/-- Lay files over the settings so far, until one is broken. -/
def stackFiles (stack : SettingsStack) : List Path → m (Except SettingsFault SettingsStack)
  | [] => return .ok stack
  | path :: rest => do
    match ← loadLayer fs path with
    | .error fault => return .error fault
    | .ok file => stackFiles (stack.push file) rest

/-- Where settings come from. -/
structure SettingsSources where
  /-- The file that was asked for; then no other counts. -/
  explicit : Option Path := none
  /-- The file of the user. -/
  user : Option Path := none
  /-- The directory of the project. -/
  project : Path

/-- The file of the project. -/
def SettingsSources.projectFile (s : SettingsSources) : Path := s.project.join "layergen.toml"

/-- The paths at which something is. -/
def takenPaths : List Path → m (List Path)
  | [] => return []
  | path :: rest => do
    let here ← fs.taken path
    let others ← takenPaths rest
    return if here then path :: others else others

/-- The files that count, the lowest first. -/
def SettingsSources.layers (s : SettingsSources) : m (List Path) :=
  match s.explicit with
  | some path => return [path]
  | none => takenPaths fs (s.user.toList ++ [s.projectFile])

/-- The settings of all layers under the variables, and what is to be said. -/
def resolveSettings (s : SettingsSources) (env : Environment) :
    m (Except SettingsFault SettingsStack) := do
  match ← stackFiles fs {} (← s.layers fs) with
  | .error fault => return .error fault
  | .ok stack => return .ok { stack with settings := stack.settings.overriddenBy env }

end Load

end Scaffold
