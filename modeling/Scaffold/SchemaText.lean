import Scaffold.Files
import Scaffold.Json
import Scaffold.Schema
import Scaffold.Toml.Document
import Scaffold.Yaml.Meaning

/-!
# Schema texts and schema files

A schema is written in one of three formats, which the extension of its file tells.
All of them are read into node trees first.

## Main definitions

* `SchemaFormat`, `SchemaFormat.ofPath` — the formats.
* `SchemaFormat.read`, `Schema.ofText` — a text as a node tree, and as a schema.
* `SchemaFault`, `loadSchema` — the schema of a file, or why there is none.
-/

namespace Scaffold

/-! ### Texts -/

/-- The format of a schema text. -/
inductive SchemaFormat where
  | yaml
  | json
  | toml
  deriving DecidableEq, Repr, Inhabited

namespace SchemaFormat

/-- All formats. -/
def all : List SchemaFormat := [yaml, json, toml]

/-- The word for a format. -/
def tag : SchemaFormat → String
  | yaml => "yaml"
  | json => "json"
  | toml => "toml"

/-- The format a word names. -/
def ofTag? (word : String) : Option SchemaFormat := all.find? (·.tag == word)

/-- The format of a file, by its extension; capitals make no difference there, and
any other extension stands for the first format. -/
def ofPath (p : Path) : SchemaFormat :=
  match p.extension?.map fun e => e.toList.map Char.toLower with
  | some ['j', 's', 'o', 'n'] => json
  | some ['t', 'o', 'm', 'l'] => toml
  | _ => yaml

/-- The node tree of a text. -/
def read : SchemaFormat → String → Option Node
  | yaml, text => Yaml.read text
  | json, text => Json.read text
  | toml, text => (Toml.read text).map fun table => (Toml.Value.table table).toNode

end SchemaFormat

/-- Why a text is no schema. -/
inductive SchemaTextFault where
  /-- The text breaks the rules of its format. -/
  | unreadable
  /-- The text means something else. -/
  | shape (fault : ShapeFault)
  deriving DecidableEq, Repr

/-- The text of the fault. -/
def SchemaTextFault.message : SchemaTextFault → String
  | unreadable => "the text breaks the rules of its format"
  | shape fault => s!"invalid schema: {fault.message}"

/-- The schema of a text. -/
def Schema.ofText (format : SchemaFormat) (text : String) : Except SchemaTextFault Schema :=
  match format.read text with
  | none => .error .unreadable
  | some node =>
    match Schema.ofNode node with
    | .ok s => .ok s
    | .error fault => .error (.shape fault)

/-! ### Files -/

/-- Why there is no schema in a file. -/
inductive SchemaFault where
  /-- The file cannot be read, or breaks the rules of its format. -/
  | unreadable (path : Path) (reason : String)
  /-- The file means something else. -/
  | shape (fault : ShapeFault)
  deriving DecidableEq, Repr

namespace SchemaFault

/-- The text of the fault. -/
def message : SchemaFault → String
  | unreadable path reason => s!"failed to load schema {path.text}: {reason}"
  | shape fault => (SchemaTextFault.shape fault).message

/-- What is behind the fault. -/
def causes : SchemaFault → List String
  | unreadable .. => []
  | shape fault => [fault.message]

/-- The fault of a file whose text has one. -/
def ofText (path : Path) : SchemaTextFault → SchemaFault
  | .unreadable => .unreadable path SchemaTextFault.unreadable.message
  | .shape fault => .shape fault

end SchemaFault

/-- The schema of a file; its name tells the format. -/
def loadSchema {m : Type → Type} [Monad m] (fs : FileSystem m) (path : Path) :
    m (Except SchemaFault Schema) := do
  match ← fs.readText path with
  | .error fault => return .error (.unreadable path fault.message)
  | .ok text =>
    match Schema.ofText (.ofPath path) text with
    | .error fault => return .error (.ofText path fault)
    | .ok s => return .ok s

end Scaffold
