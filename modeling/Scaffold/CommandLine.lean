import Scaffold.CommandLine.Arguments
import Scaffold.Path

/-!
# Command lines

A command line is a command with its options and arguments.  Some options may
also stand before the command; those behind it win.

## Main definitions

* `Command`, `CommandLine` — what is to be done.
* `CommandLine.read` — the command line of some arguments.
-/

namespace Scaffold

/-! ### Commands -/

/-- What a schema is to be turned into files with; what is left out comes from the
settings. -/
structure GenerateCommand where
  /-- The file of the schema. -/
  schema : Path
  /-- The directory of all domains. -/
  output : Option Path := none
  /-- The namespace above all domains. -/
  rootNamespace : Option String := none
  /-- The directory of the templates. -/
  templates : Option Path := none
  /-- The domain to which the run is restricted. -/
  domain : Option String := none
  /-- Nothing is written. -/
  dryRun : Bool := false
  deriving DecidableEq, Repr

/-- What is to be done. -/
inductive Command where
  /-- Write the files of a schema. -/
  | generate (options : GenerateCommand)
  /-- Show what a schema expands to. -/
  | expand (schema : Path) (domain : Option String)
  /-- Show the names of an artifact. -/
  | resolve (artifactType name : String)
  deriving DecidableEq, Repr

/-- A command, and how to go about it. -/
structure CommandLine where
  /-- The outcome is for other programs. -/
  json : Bool := false
  /-- How much is to be told. -/
  verbosity : Nat := 0
  /-- The settings file to be used. -/
  config : Option Path := none
  /-- The command. -/
  command : Command
  deriving DecidableEq, Repr

/-! ### Reading -/

namespace Arguments

/-- The path that follows an option. -/
def path? (a : Arguments) (o : CommandOption) : Option Path := (a.value? o).map Path.mk

end Arguments

/-- The command of a word with the arguments behind it. -/
def Command.ofArguments (word : CommandName) (a : Arguments) : Except UsageFault Command :=
  match word with
  | .generate =>
    match a.path? .schema with
    | none => .error .argumentMissing
    | some schema => .ok <| .generate
        { schema
          output := a.path? .output
          rootNamespace := a.value? .rootNamespace
          templates := a.path? .templates
          domain := a.value? .domain
          dryRun := a.has .dryRun }
  | .expand =>
    match a.path? .schema with
    | none => .error .argumentMissing
    | some schema => .ok (.expand schema (a.value? .domain))
  | .resolve =>
    match a.places with
    | [artifactType, name] => .ok (.resolve artifactType name)
    | _ => .error .argumentMissing

namespace CommandLine

/-- The highest verbosity; more makes no difference. -/
def greatestVerbosity : Nat := 255

/-- How much is to be told: what stands behind the command wins. -/
def verbosityOf (before behind : Arguments) : Nat :=
  min greatestVerbosity
    (if behind.has .verbose then behind.count .verbose else before.count .verbose)

/-- The command line of the arguments before and behind the command. -/
def ofArguments (before behind : Arguments) (command : Command) : CommandLine where
  json := before.has .json || behind.has .json
  verbosity := verbosityOf before behind
  config := (behind.path? .config).or (before.path? .config)
  command := command

/-- The words behind the one that asks for help name a command, or the word itself. -/
def askHelp : List String → UsageFault
  | [] => .helpWanted
  | [w] => if (CommandName.ofWord? w).isSome || w == helpWord then .helpWanted
      else .commandUnknown
  | _ => .commandUnknown

/-- There is no command. -/
def withoutCommand (before : Arguments) : UsageFault :=
  match before.finish with
  | .error fault => fault
  | .ok a => if a.found.isEmpty then .nothingGiven else .commandMissing

/-- The argument before the command that is no option is no command either. -/
def noCommand (before : Arguments) (text : String) : UsageFault :=
  if before.literal && ((CommandName.ofWord? text).isSome || text == helpWord) then
    .argumentUnknown
  else .commandUnknown

/-- The command line of a command word and what stands on both sides of it.  What is
wrong behind the command is reported first. -/
def ofCommand (before : Arguments) (word : CommandName) (rest : List String) :
    Except UsageFault CommandLine := do
  let behind ← Arguments.read word.grammar rest
  let command ← Command.ofArguments word behind
  return ofArguments (← before.finish) behind command

/-- The text is a dash with something behind it. -/
def isDashed (text : String) : Bool :=
  match text.toList with
  | '-' :: _ :: _ => true
  | _ => false

/-- Take arguments up to the command, and then the command. -/
def readFrom (before : Arguments) : List String → Except UsageFault CommandLine
  | [] => .error (withoutCommand before)
  | text :: rest =>
    if before.literal then .error (noCommand before text)
    else if isDashed text || before.awaitsValue then do
      readFrom (← before.step topGrammar text) rest
    else if text == helpWord then .error (askHelp rest)
    else match CommandName.ofWord? text with
      | some word => ofCommand before word rest
      | none => .error (noCommand before text)

/-- The command line of some arguments. -/
def read (args : List String) : Except UsageFault CommandLine := readFrom {} args

end CommandLine

end Scaffold
