import Scaffold.ArtifactType
import Scaffold.Scalar

/-!
# Faults of a schema

What an author can get wrong.  Type tags and value object kinds are closed sets, and a word
that is none of them is a fault of its own, the only one that looking up a word can have.  A
fault in a spec says at which artifact it was found and what is wrong there.  The faults of
an expansion are these two, and those of a domain as a whole.

## Main definitions

* `UnknownWord` — a word outside its closed set.
* `SpecFlaw`, `SpecFault` — what can be wrong with a spec, and a flaw at its place.
* `Reference`, `ExpandFault` — why a domain cannot be expanded.
* `UnknownWord.message`, `SpecFault.message`, `ExpandFault.message` — their texts.
-/

namespace Scaffold

/-! ### Words -/

/-- A word that does not name what it should. -/
inductive UnknownWord where
  /-- No artifact type has this tag. -/
  | artifactType (word : String)
  /-- No value object kind goes by this word. -/
  | valueKind (word : String)
  deriving DecidableEq, Repr

/-- The text of the fault. -/
def UnknownWord.message : UnknownWord → String
  | artifactType word => s!"unknown artifact type '{word}'"
  | valueKind word => s!"unknown value object kind '{word}'"

/-- The artifact type a word names, or the fault that it names none. -/
def ArtifactType.ofTag (word : String) : Except UnknownWord ArtifactType :=
  match ofTag? word with
  | some t => .ok t
  | none => .error (.artifactType word)

/-- The value object kind a word names, or the fault that it names none. -/
def ValueKind.ofTag (word : String) : Except UnknownWord ValueKind :=
  match ofTag? word with
  | some k => .ok k
  | none => .error (.valueKind word)

/-! ### Specs -/

/-- What a key of a spec can be made to hold. -/
inductive Shape where
  | list
  | string
  | boolean
  | listOrMap
  | map
  deriving DecidableEq, Repr

/-- A shape in words. -/
def Shape.words : Shape → String
  | list => "a list"
  | string => "a string"
  | boolean => "a boolean"
  | listOrMap => "a list or map"
  | map => "a map"

/-- What is wrong with a spec. -/
inductive SpecFlaw where
  /-- The name holds a character that no name may hold, or is empty. -/
  | badName
  /-- The section is no map. -/
  | sectionNotMap (found : String)
  /-- The list of value objects holds something that is no name. -/
  | valueObjectNotNamed (found : String)
  /-- No spec has this shape. -/
  | notASpec (found : String)
  /-- A key holds the wrong shape. -/
  | wrongShape (key : String) (expected : Shape) (found : String)
  /-- An argument names an artifact type that does not exist. -/
  | argumentType (argument : String) (word : UnknownWord)
  /-- An argument's type is no scalar. -/
  | argumentNotScalar (argument : String)
  /-- No argument has this shape. -/
  | notAnArgument (found : String)
  /-- A list of methods holds something that is no name. -/
  | methodNotNamed (found : String)
  /-- No method has this shape. -/
  | notAMethod (method found : String)
  /-- No event outcome has this shape. -/
  | notAnOutcome (event found : String)
  /-- A command without an entity. -/
  | noEntity
  deriving DecidableEq, Repr

/-- A flaw in words. -/
def SpecFlaw.message : SpecFlaw → String
  | badName => "names may only contain letters, digits, '_' and '-'"
  | sectionNotMap found => s!"section must be a map, found {found}"
  | valueObjectNotNamed found => s!"expected value object name, found {found}"
  | notASpec found => s!"unexpected {found}"
  | wrongShape key expected found => s!"'{key}' must be {expected.words}, found {found}"
  | argumentType argument word => s!"argument '{argument}': {word.message}"
  | argumentNotScalar argument => s!"argument '{argument}' must name a scalar type"
  | notAnArgument found => s!"unexpected {found} in args"
  | methodNotNamed found => s!"method names must be strings, found {found}"
  | notAMethod method found => s!"method '{method}': unexpected {found}"
  | notAnOutcome event found => s!"event '{event}': unexpected {found}"
  | noEntity => "a command must name its entity"

/-- A flaw and the artifact at which it was found. -/
structure SpecFault where
  /-- The type of the artifact. -/
  owner : ArtifactType
  /-- The name of the artifact; empty for a section as a whole. -/
  name : String
  /-- What is wrong. -/
  flaw : SpecFlaw
  deriving DecidableEq, Repr

/-- The text of the fault. -/
def SpecFault.message (f : SpecFault) : String :=
  s!"invalid {f.owner.tag} '{f.name}': {f.flaw.message}"

/-! ### Expansions -/

/-- A name that one artifact expects another to have. -/
structure Reference where
  /-- The name that is relied on. -/
  name : String
  /-- The type under which it should be declared. -/
  type : ArtifactType
  /-- The place that relies on it. -/
  referencedBy : String
  deriving DecidableEq, Repr

/-- Why a domain cannot be expanded. -/
inductive ExpandFault where
  /-- The name of the domain is no valid name. -/
  | badDomainName (name : String)
  /-- A section that every domain must have is missing. -/
  | missingSection (domain : String) (type : ArtifactType)
  /-- A node declares nothing. -/
  | spec (fault : SpecFault)
  /-- A word is outside its closed set. -/
  | word (word : UnknownWord)
  /-- A reference leads nowhere. -/
  | unresolved (domain : String) (reference : Reference)
  deriving DecidableEq, Repr

/-- The text of the fault. -/
def ExpandFault.message : ExpandFault → String
  | badDomainName name =>
    s!"invalid domain name '{name}': names may only contain letters, digits, '_' and '-'"
  | missingSection domain type =>
    s!"domain '{domain}' is missing required section '{type.tag}'"
  | spec fault => fault.message
  | word unknown => unknown.message
  | unresolved domain r =>
    s!"{domain}: {r.referencedBy} references {r.type.tag} '{r.name}', which is not declared"

end Scaffold
