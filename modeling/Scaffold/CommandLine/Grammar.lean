/-!
# Options and commands

What may stand on a command line: the commands, the options each of them takes,
and the options that may stand before the command as well as after it; and what the
program says about itself and about a command line that it refuses.

## Main definitions

* `OptionValue`, `CommandOption` — options, and what they want.
* `CommandName` — the commands.
* `Grammar`, `topGrammar`, `CommandName.grammar` — what may stand where.
* `helpText`, `versionText` — what the program is, for whoever asks.
* `UsageFault`, `UsageFault.message` — why a command line is refused.
-/

namespace Scaffold

/-! ### Options -/

/-- What follows an option. -/
inductive OptionValue where
  /-- Nothing; the option stands once. -/
  | none
  /-- Nothing; the option counts how often it stands. -/
  | counted
  /-- A text. -/
  | text
  /-- The text of a path, which is not empty. -/
  | path
  deriving DecidableEq, Repr

/-- The options. -/
inductive CommandOption where
  | json
  | verbose
  | config
  | schema
  | output
  | rootNamespace
  | templates
  | domain
  | dryRun
  | help
  | version
  deriving DecidableEq, Repr

namespace CommandOption

/-- The name of an option, without the dashes before it. -/
def long : CommandOption → String
  | json => "json"
  | verbose => "verbose"
  | config => "config"
  | schema => "schema"
  | output => "output"
  | rootNamespace => "root-namespace"
  | templates => "templates"
  | domain => "domain"
  | dryRun => "dry-run"
  | help => "help"
  | version => "version"

/-- The letter that stands for an option. -/
def letter? : CommandOption → Option Char
  | verbose => some 'v'
  | schema => some 's'
  | output => some 'o'
  | domain => some 'd'
  | help => some 'h'
  | version => some 'V'
  | _ => none

/-- What follows an option. -/
def value : CommandOption → OptionValue
  | verbose => .counted
  | config | schema | output | templates => .path
  | rootNamespace | domain => .text
  | json | dryRun | help | version => .none

/-- Something follows the option. -/
def takesValue (o : CommandOption) : Bool := o.value == .text || o.value == .path

/-- The options that may stand on both sides of the command. -/
def everywhere : List CommandOption := [json, verbose, config]

end CommandOption

/-! ### Commands -/

/-- The commands. -/
inductive CommandName where
  | generate
  | expand
  | resolve
  deriving DecidableEq, Repr

namespace CommandName

/-- All commands. -/
def all : List CommandName := [generate, expand, resolve]

/-- The word for a command. -/
def word : CommandName → String
  | generate => "generate"
  | expand => "expand"
  | resolve => "resolve"

/-- The command of a word. -/
def ofWord? (w : String) : Option CommandName := all.find? (·.word == w)

end CommandName

/-- The word that asks for help about commands. -/
def helpWord : String := "help"

/-! ### What may stand where -/

/-- The options that may stand in a place, and how many arguments besides. -/
structure Grammar where
  /-- The options. -/
  options : List CommandOption
  /-- The number of arguments that are no options. -/
  places : Nat := 0
  deriving Repr

namespace Grammar

/-- The option of a name. -/
def byName? (g : Grammar) (name : List Char) : Option CommandOption :=
  g.options.find? (·.long.toList == name)

/-- The option of a letter. -/
def byLetter? (g : Grammar) (c : Char) : Option CommandOption :=
  g.options.find? (·.letter? == some c)

end Grammar

/-- What may stand before the command. -/
def topGrammar : Grammar where
  options := CommandOption.everywhere ++ [.help, .version]

/-- What may stand after the command. -/
def CommandName.grammar : CommandName → Grammar
  | generate =>
    { options := [.schema, .output, .rootNamespace, .templates, .domain, .dryRun] ++
        CommandOption.everywhere ++ [.help] }
  | expand => { options := [.schema, .domain] ++ CommandOption.everywhere ++ [.help] }
  | resolve => { options := CommandOption.everywhere ++ [.help], places := 2 }

/-! ### About the program -/

/-- What the program is called. -/
def programName : String := "layergen"

/-- The version of the program. -/
def versionText : String := programName ++ " 0.4.1\n"

/-- What the program can do. -/
def helpText : String :=
  String.join
    ["Usage: ", programName, " [OPTIONS] <COMMAND>\n",
      "\nCommands:\n",
      "  generate  Expand a schema and write every artifact that does not exist yet\n",
      "  expand    Print the expanded layer map of a schema\n",
      "  resolve   Show the names an artifact resolves to\n",
      "\nOptions:\n",
      "      --json           Output format for CI\n",
      "  -v, --verbose...     Verbosity level\n",
      "      --config <PATH>  Configuration file\n",
      "  -h, --help           Print help\n",
      "  -V, --version        Print version\n"]

/-! ### Faults -/

/-- Why a command line is refused, or answered by itself. -/
inductive UsageFault where
  /-- Help is asked for. -/
  | helpWanted
  /-- The version is asked for. -/
  | versionWanted
  /-- There is nothing on the command line. -/
  | nothingGiven
  /-- There are options, but no command. -/
  | commandMissing
  /-- The command is none. -/
  | commandUnknown
  /-- An option or argument means nothing, or is one too many. -/
  | argumentUnknown
  /-- A necessary option or argument is not there. -/
  | argumentMissing
  /-- An option stands twice. -/
  | repeated
  /-- An option has no value, or one that cannot be. -/
  | badValue
  /-- An option has a value that takes none. -/
  | valueUnwanted
  deriving DecidableEq, Repr

/-- The exit code: to answer a question is no failure. -/
def UsageFault.exitCode : UsageFault → Nat
  | helpWanted | versionWanted => 0
  | _ => 2

/-- What is wrong with a command line. -/
def UsageFault.message : UsageFault → String
  | helpWanted => "help is asked for"
  | versionWanted => "the version is asked for"
  | nothingGiven | commandMissing => "a command is required"
  | commandUnknown => "the command is unknown"
  | argumentUnknown => "an argument is not expected"
  | argumentMissing => "a required argument is missing"
  | repeated => "an option is given more than once"
  | badValue => "a value is required for an option"
  | valueUnwanted => "an option takes no value"

/-- What goes to the output of the program when there is nothing to do. -/
def UsageFault.output : UsageFault → String
  | helpWanted => helpText
  | versionWanted => versionText
  | _ => ""

end Scaffold
