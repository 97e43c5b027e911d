import Scaffold.CommandLine
import Scaffold.Report
import Scaffold.SchemaText
import Scaffold.Settings.Layers
import Scaffold.Template
import Scaffold.WarningFilter

/-!
# The program

A run of the program reads its command line, does what the command asks for, and
comes to an outcome: an exit code, a text to print, warnings, and perhaps a
failure with what is behind it.

## Main definitions

* `Failure`, `Outcome` — how the program ends.
* `Surroundings` — where it runs.
* `GenerateCommand.runOptions` — the command over the settings.
* `Program.run` — the program.
-/

namespace Scaffold

/-! ### Failures -/

/-- Why the program failed. -/
structure Failure where
  /-- What went wrong. -/
  message : String
  /-- What is behind it, the nearest first. -/
  causes : List String := []
  deriving DecidableEq, Repr

/-- What is behind the fault. -/
def TemplateFault.causes : TemplateFault → List String
  | notFound .. => []
  | unreadable _ reason => [reason]

/-- What is behind the fault. -/
def SourceFault.causes : SourceFault → List String
  | template fault => fault.causes
  | _ => []

/-- What is behind the fault. -/
def RunFault.causes : RunFault → List String
  | expand _ => []
  | generate _ fault => fault.message :: fault.causes
  | write _ fault => fault.message :: fault.causes

namespace Failure

/-- The failure of a run. -/
def ofRun (f : RunFault) : Failure := ⟨f.message, f.causes⟩

/-- The failure to get a schema. -/
def ofSchema (f : SchemaFault) : Failure := ⟨f.message, f.causes⟩

/-- The failure to get templates. -/
def ofTemplates (f : TemplateFault) : Failure :=
  ⟨"failed to load templates", f.message :: f.causes⟩

/-- The failure to find the type of an artifact. -/
def ofWord (name : String) (w : UnknownWord) : Failure :=
  ⟨s!"cannot resolve '{name}'", [w.message]⟩

/-- The text with every line moved in: the first after its label, the others as far
as `margin`. -/
def indent (label margin text : String) : String :=
  label ++ text.replace "\n" ("\n" ++ margin)

/-- A number in a column of five. -/
def numberColumn (n : Nat) : String :=
  let digits := toString n
  "".pushn ' ' (5 - digits.length) ++ digits

/-- The causes in lines of their own; several are numbered. -/
def renderCauses : List String → List String
  | [cause] => [indent "    " "    " cause]
  | causes => causes.zipIdx.map fun (cause, n) =>
      indent (numberColumn n ++ ": ") "       " cause

/-- The failure as it is reported. -/
def render (f : Failure) : String :=
  if f.causes.isEmpty then f.message
  else f.message ++ "\n\nCaused by:" ++
    String.join ((renderCauses f.causes).map fun line => "\n" ++ line)

end Failure

/-- How the program ends. -/
structure Outcome where
  /-- The exit code. -/
  exitCode : Nat := 0
  /-- What is printed. -/
  output : String := ""
  /-- What went wrong. -/
  failure? : Option Failure := none
  /-- What is wrong with the command line. -/
  usage? : Option UsageFault := none
  /-- What is said about the settings. -/
  warnings : List UnknownKey := []
  deriving DecidableEq, Repr

namespace Outcome

/-- The command line is refused, or answered. -/
def ofUsage (f : UsageFault) : Outcome where
  exitCode := f.exitCode
  output := f.output
  usage? := some f

/-- Something was done, or went wrong. -/
def ofResult (warnings : List UnknownKey) : Except Failure String → Outcome
  | .ok output => { output, warnings }
  | .error f => { exitCode := 1, failure? := some f, warnings }

/-- The warnings as they are shown. -/
def shownWarnings (o : Outcome) : List String := o.warnings.map fun w => escapeControls w.message

end Outcome

/-! ### Surroundings -/

/-- Where the program runs. -/
structure Surroundings where
  /-- The variables of the environment. -/
  environment : Environment
  /-- The current directory. -/
  directory : Path

namespace Surroundings

/-- The directory of the user's settings: the one that is set if it is absolute, and
else the usual place in the home directory. -/
def settingsDirectory? (s : Surroundings) : Option Path :=
  match (s.environment.get? "XDG_CONFIG_HOME").filter fun d => (Path.mk d).isAbsolute with
  | some d => some ⟨d⟩
  | none => (s.environment.nonempty? "HOME").map fun home => (Path.mk home).join ".config"

/-- Where settings come from. -/
def sources (s : Surroundings) (explicit : Option Path) : SettingsSources where
  explicit := explicit
  user := s.settingsDirectory?.map fun d => (d.join "layergen").join "config.toml"
  project := s.directory

/-- Warnings are shown. -/
def showsWarnings (s : Surroundings) : Bool :=
  Scaffold.showsWarnings (s.environment.get? "RUST_LOG")

end Surroundings

/-! ### Commands -/

/-- The options of a run: what the command says, and else what the settings say. -/
def GenerateCommand.runOptions (c : GenerateCommand) (s : Settings) : RunOptions where
  outputDir := c.output.getD s.output.directory
  extension := s.output.extension
  rootNamespace := c.rootNamespace.getD s.naming.rootNamespace
  domain := c.domain
  dryRun := c.dryRun

/-- The directory of templates: what the command says, and else what the settings
say. -/
def GenerateCommand.templateDirectory (c : GenerateCommand) (s : Settings) : Option Path :=
  c.templates.or s.templates.directory

namespace Program

/-- What is printed: texts for other programs end with a line feed too. -/
def printed (json : Bool) (text : String) : String := if json then text ++ "\n" else text

/-- The names of an artifact. -/
def resolveNames (json : Bool) (artifactType name : String) : Except Failure String :=
  match ArtifactType.ofTag artifactType with
  | .error w => .error (.ofWord name w)
  | .ok t => .ok (printed json ((resolve t name).render json))

section Run

variable {m : Type → Type} [Monad m] (fs : FileSystem m)

/-- A step that may fail. -/
def attempt {ε α : Type} (view : ε → Failure) (step : m (Except ε α)) : ExceptT Failure m α :=
  ExceptT.mk do
    match ← step with
    | .ok a => return .ok a
    | .error e => return .error (view e)

/-- What a schema expands to. -/
def showExpansion (json : Bool) (schema : Path) (domain : Option String) :
    ExceptT Failure m String := do
  let s ← attempt .ofSchema (loadSchema fs schema)
  let blueprints ← attempt (fun f => Failure.ofRun (.expand f)) (pure (s.expand domain))
  return printed json (renderBlueprints blueprints json)

/-- The templates of a directory, or the built-in ones. -/
def templatesFrom (directory : Option Path) : m (Except TemplateFault TemplateSet) :=
  match directory with
  | some d => loadTemplates fs d
  | none => return .ok builtinTemplates

/-- Write the files of a schema. -/
def writeFiles (line : CommandLine) (c : GenerateCommand) (settings : Settings) :
    ExceptT Failure m String := do
  let s ← attempt .ofSchema (loadSchema fs c.schema)
  let templates ← attempt .ofTemplates (templatesFrom fs (c.templateDirectory settings))
  let report ← attempt .ofRun (execute fs templates (c.runOptions settings) s)
  return printed line.json (report.render line.json line.verbosity)

/-- Write the files of a schema under the settings of the surroundings. -/
def runGenerate (around : Surroundings) (line : CommandLine) (c : GenerateCommand) : m Outcome := do
  match ← resolveSettings fs (around.sources line.config) around.environment with
  | .error fault => return .ofResult [] (.error ⟨fault.message, []⟩)
  | .ok stack =>
    let warnings := if around.showsWarnings then stack.warnings else []
    return .ofResult warnings (← (writeFiles fs line c stack.settings).run)

/-- Do what a command line says. -/
def runLine (around : Surroundings) (line : CommandLine) : m Outcome :=
  match line.command with
  | .generate c => runGenerate fs around line c
  | .expand schema domain => do
    return .ofResult [] (← (showExpansion fs line.json schema domain).run)
  | .resolve artifactType name => return .ofResult [] (resolveNames line.json artifactType name)

/-- The program. -/
def run (around : Surroundings) (args : List String) : m Outcome :=
  match CommandLine.read args with
  | .error fault => return .ofUsage fault
  | .ok line => runLine fs around line

end Run

end Program

end Scaffold
