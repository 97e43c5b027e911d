import Scaffold.Dict
import Scaffold.Files

/-!
# Templates

A template is plain text with placeholders: a name between braces.  Rendering
replaces every placeholder that has a value by that value, verbatim and in one
pass; whatever else stands between braces stays as it is.

Templates come with the program, or from a directory that holds a file for each of them.

## Main definitions

* `TemplateId` — the templates there are.
* `Template`, `Template.render` — a template and its rendering.
* `TemplatePart`, `sourceOfParts` — the text of a template put together.
* `TemplateSet` — where templates come from.
* `builtinTemplates` — the templates that come with the program.
* `loadTemplate`, `loadTemplates` — those of a directory.
-/

namespace Scaffold

/-! ### Identities -/

/-- The templates that generators use. -/
inductive TemplateId where
  | classFile
  | interfaceFile
  | factoryFile
  | valueObjectFile
  | migrationFile
  | methodBlock
  deriving DecidableEq, Repr, Inhabited

namespace TemplateId

/-- All templates. -/
def all : List TemplateId :=
  [classFile, interfaceFile, factoryFile, valueObjectFile, migrationFile, methodBlock]

/-- The word for a template. -/
def tag : TemplateId → String
  | classFile => "class"
  | interfaceFile => "interface"
  | factoryFile => "factory"
  | valueObjectFile => "value_object"
  | migrationFile => "migration"
  | methodBlock => "method"

/-- The template a word names. -/
def ofTag? (word : String) : Option TemplateId := all.find? (·.tag == word)

/-- The file that holds a template in a directory of templates. -/
def fileName (id : TemplateId) : String := id.tag ++ ".tpl"

end TemplateId

/-! ### Rendering -/

/-- The values of placeholders, by name. -/
abbrev Variables := Dict String String

/-- A template that has been read. -/
structure Template where
  /-- The text with its placeholders. -/
  source : String
  deriving DecidableEq, Repr, Inhabited

/-- A brace has been opened: the value of the name up to the next closing brace,
if the name has one, and the text behind that brace. -/
def placeholder? (vars : Variables) (cs : List Char) : Option (String × List Char) :=
  match cs.dropWhile (· != '\x7d') with
  | [] => none
  | _ :: after => (vars.get? (.ofList (cs.takeWhile (· != '\x7d')))).map (·, after)

theorem length_of_placeholder? {vars : Variables} {cs after : List Char} {value : String}
    (h : placeholder? vars cs = some (value, after)) : after.length < cs.length := by
  unfold placeholder? at h
  split at h
  · simp at h
  · rename_i c rest hdrop
    have hle : (cs.dropWhile (· != '\x7d')).length ≤ cs.length :=
      (List.dropWhile_sublist _).length_le
    rw [hdrop, List.length_cons] at hle
    simp only [Option.map_eq_some_iff, Prod.mk.injEq] at h
    obtain ⟨_, _, _, rfl⟩ := h
    omega

/-- The text with every placeholder that has a value replaced. -/
def renderChars (vars : Variables) : List Char → List Char
  | [] => []
  | c :: rest =>
    if c == '\x7b' then
      match _h : placeholder? vars rest with
      | some (value, after) => value.toList ++ renderChars vars after
      | none => c :: renderChars vars rest
    else c :: renderChars vars rest
termination_by cs => cs.length
decreasing_by
  · have := length_of_placeholder? _h
    simp only [List.length_cons]
    omega
  all_goals simp

/-- The template with the values of its placeholders. -/
def Template.render (t : Template) (vars : Variables) : String :=
  .ofList (renderChars vars t.source.toList)

/-! ### Putting templates together -/

/-- A stretch of text, or the placeholder of a name. -/
inductive TemplatePart where
  | text (s : String)
  | slot (key : String)
  deriving DecidableEq, Repr

/-- A part as it is written. -/
def TemplatePart.source : TemplatePart → String
  | text s => s
  | slot key => "\x7b" ++ key ++ "\x7d"

/-- The text of a template with these parts. -/
def sourceOfParts (parts : List TemplatePart) : String := String.join (parts.map (·.source))

/-! ### Sets of templates -/

/-- Why a template cannot be had. -/
inductive TemplateFault where
  /-- Its file does not exist. -/
  | notFound (id : TemplateId) (path : Path)
  /-- Its file cannot be read. -/
  | unreadable (id : TemplateId) (reason : String)
  deriving DecidableEq, Repr

/-- The text of the fault. -/
def TemplateFault.message : TemplateFault → String
  | notFound id path => s!"template '{id.tag}' not found at {path.text}"
  | unreadable id reason => s!"failed to read template '{id.tag}': {reason}"

/-- A source of templates. -/
abbrev TemplateSet := TemplateId → Except TemplateFault Template

/-! ### The templates that come with the program

Files of PHP source: a class, an interface, a factory, a value object and a
migration, and the block of one method. -/

/-- The head that all files share, up to the namespace. -/
def fileHead : List TemplatePart :=
  [.text "<?php\n\ndeclare(strict_types=1);\n\nnamespace ", .slot "namespace", .text ";\n"]

/-- The parts of a template. -/
def TemplateId.parts : TemplateId → List TemplatePart
  | classFile => fileHead ++
    [.slot "uses", .text "\n", .slot "modifier", .text "class ", .slot "class_name",
      .slot "implements", .text "\n\x7b\n", .slot "body", .text "\x7d\n"]
  | interfaceFile => fileHead ++
    [.slot "uses", .text "\ninterface ", .slot "interface_name", .text "\n\x7b\n", .slot "body",
      .text "\x7d\n"]
  | factoryFile => fileHead ++
    [.slot "uses", .text "\nfinal class ", .slot "class_name", .slot "implements",
      .text "\n\x7b\n", .slot "body", .text "\x7d\n"]
  | valueObjectFile => fileHead ++
    [.text "\nfinal class ", .slot "class_name",
      .text "\n\x7b\n    public function __construct(private readonly ", .slot "scalar_type",
      .text " $value)\n    \x7b\n    \x7d\n\n    public function value(): ", .slot "scalar_type",
      .text "\n    \x7b\n        return $this->value;\n    \x7d\n\x7d\n"]
  | migrationFile => fileHead ++
    [.text "\nfinal class ", .slot "class_name", .text "\n\x7b\n    public const TABLE = '",
      .slot "table", .text "';\n\n    public const COLUMNS = [\n", .slot "columns",
      .text "    ];\n\x7d\n"]
  | methodBlock =>
    [.text "    public function ", .slot "method_name", .text "(", .slot "parameters",
      .text "): ", .slot "returns", .text "\n    \x7b\n", .slot "method_body", .text "    \x7d\n"]

/-- A template that comes with the program. -/
def TemplateId.builtin (id : TemplateId) : Template := ⟨sourceOfParts id.parts⟩

/-- The set of all of them; none is ever missing. -/
def builtinTemplates : TemplateSet := fun id => .ok id.builtin

/-! ### Directories of templates -/

section Load

variable {m : Type → Type} [Monad m] (fs : FileSystem m)

/-- Read a template of a directory. -/
def loadTemplate (directory : Path) (id : TemplateId) : m (Except TemplateFault Template) := do
  let path := directory.join id.fileName
  match ← fs.readText path with
  | .ok source => return .ok ⟨source⟩
  | .error .missing => return .error (.notFound id path)
  | .error (.unreadable reason) => return .error (.unreadable id reason)

/-- Read templates of a directory, until one cannot be had. -/
def loadEach (directory : Path) :
    List TemplateId → m (Except TemplateFault (List (TemplateId × Template)))
  | [] => return .ok []
  | id :: rest => do
    match ← loadTemplate fs directory id with
    | .error fault => return .error fault
    | .ok t =>
      match ← loadEach directory rest with
      | .error fault => return .error fault
      | .ok others => return .ok ((id, t) :: others)

/-- The set of some templates of a directory. -/
def templatesOfList (directory : Path) (loaded : List (TemplateId × Template)) : TemplateSet :=
  fun id =>
    match loaded.lookup id with
    | some t => .ok t
    | none => .error (.notFound id (directory.join id.fileName))

/-- All templates of a directory.  The first that cannot be had is a fault. -/
def loadTemplates (directory : Path) : m (Except TemplateFault TemplateSet) := do
  match ← loadEach fs directory TemplateId.all with
  | .error fault => return .error fault
  | .ok loaded => return .ok (templatesOfList directory loaded)

end Load

end Scaffold
