import Scaffold.Text.Pattern

/-!
# Directives of log filters

A directive is a level, or a target and perhaps a level behind an equals sign.  The
target is the start of the names of parts of the program.  Between them, in brackets,
may stand the name of a span of work and, in braces, a field that has to be there,
perhaps with a pattern for its value.

A directive starts with its first character that is no blank.  The places of its parts
are counted from there, in bytes of UTF-8; but they are looked up in the text with its
blanks, and what comes last is taken up to the end, with the blanks there.  Where a
character would be cut in two, there are no such parts.

## Main definitions

* `Text.extent`, `Text.dropBytes`, `Text.takeBytes` — texts by their number of bytes.
* `LogLevel`, `LogLevel.ofText?` — levels.
* `LogField`, `LogDirective` — directives.
* `LogDirective.ofText?` — the directive of a text.
-/

namespace Scaffold

/-! ### Extents in bytes -/

namespace Text

/-- The number of bytes of a text. -/
def extent : List Char → Nat
  | [] => 0
  | c :: rest => c.utf8Size + extent rest

@[simp] theorem extent_nil : extent [] = 0 := rfl

@[simp] theorem extent_cons (c : Char) (rest : List Char) :
    extent (c :: rest) = c.utf8Size + extent rest := rfl

theorem extent_append (s t : List Char) : extent (s ++ t) = extent s + extent t := by
  induction s with
  | nil => simp
  | cons c rest ih => simp [ih, Nat.add_assoc]

/-- The text behind so many bytes. -/
def dropBytes : Nat → List Char → Option (List Char)
  | 0, text => some text
  | _ + 1, [] => none
  | n + 1, c :: rest =>
    if c.utf8Size ≤ n + 1 then dropBytes (n + 1 - c.utf8Size) rest else none

/-- The first so many bytes of a text. -/
def takeBytes : Nat → List Char → Option (List Char)
  | 0, _ => some []
  | _ + 1, [] => none
  | n + 1, c :: rest =>
    if c.utf8Size ≤ n + 1 then (takeBytes (n + 1 - c.utf8Size) rest).map (c :: ·) else none

theorem dropBytes_extent_append (s t : List Char) : dropBytes (extent s) (s ++ t) = some t := by
  induction s with
  | nil => simp [dropBytes]
  | cons c rest ih =>
    obtain ⟨n, h⟩ : ∃ n, c.utf8Size + extent rest = n + 1 :=
      ⟨c.utf8Size + extent rest - 1, by have := c.utf8Size_pos; omega⟩
    rw [extent_cons, h, List.cons_append, dropBytes, if_pos (by omega),
      show n + 1 - c.utf8Size = extent rest by omega, ih]

theorem takeBytes_extent_append (s t : List Char) : takeBytes (extent s) (s ++ t) = some s := by
  induction s with
  | nil => simp [takeBytes]
  | cons c rest ih =>
    obtain ⟨n, h⟩ : ∃ n, c.utf8Size + extent rest = n + 1 :=
      ⟨c.utf8Size + extent rest - 1, by have := c.utf8Size_pos; omega⟩
    rw [extent_cons, h, List.cons_append, takeBytes, if_pos (by omega),
      show n + 1 - c.utf8Size = extent rest by omega, ih, Option.map_some]

end Text

/-! ### Levels -/

/-- How much is to be told. -/
inductive LogLevel where
  | off
  | error
  | warn
  | info
  | debug
  | trace
  deriving DecidableEq, Repr

namespace LogLevel

/-- All levels, the quietest first. -/
def all : List LogLevel := [off, error, warn, info, debug, trace]

/-- The word for a level. -/
def word : LogLevel → String
  | off => "off"
  | error => "error"
  | warn => "warn"
  | info => "info"
  | debug => "debug"
  | trace => "trace"

/-- A text without a plus sign at its start. -/
def dropPlus : List Char → List Char
  | '+' :: rest => rest
  | text => text

/-- The level of a number, the quietest being zero, or of a word in any case. -/
def ofText? (text : List Char) : Option LogLevel :=
  match (Text.numeral? 10 (dropPlus text)).bind (all[·]?) with
  | some level => some level
  | none => all.find? fun l => text.map Char.toLower == l.word.toList

/-- Warnings are told. -/
def tellsWarnings (l : LogLevel) : Bool := l != off && l != error

end LogLevel

/-! ### Directives -/

/-- A field that has to be there. -/
structure LogField where
  /-- Its name. -/
  name : List Char
  /-- Its value has to fit a pattern. -/
  valued : Bool := false
  deriving DecidableEq, Repr

/-- What a filter says about some of the messages. -/
structure LogDirective where
  /-- The start of the names of parts; without one, the directive is about all parts. -/
  target : Option (List Char) := none
  /-- The message must belong to a span of a certain name. -/
  spanned : Bool := false
  /-- A field that has to be there. -/
  field : Option LogField := none
  /-- How much is told. -/
  level : LogLevel := .trace
  deriving DecidableEq, Repr

namespace LogField

/-- A number in decimal notation, or the word for what is none. -/
def isNumber (text : List Char) : Bool :=
  let (whole, rest) := Text.spanDigits text
  let (point, rest) := (rest.takeWhile (· == '.'), rest.dropWhile (· == '.'))
  let (fraction, rest) := if point.isEmpty then ([], rest) else Text.spanDigits rest
  let power := match rest with
    | [] => true
    | c :: rest =>
      let digits := match rest with
        | '+' :: rest | '-' :: rest => rest
        | rest => rest
      (c == 'e' || c == 'E') && !digits.isEmpty && digits.all (·.isDigit)
  (point.length ≤ 1 && !(whole.isEmpty && fraction.isEmpty) && power) ||
    ["inf", "infinity", "nan"].contains (String.ofList (text.map Char.toLower))

/-- A text to compare a value with: a number, which may have a plus sign, or a pattern. -/
def isValue : List Char → Bool
  | '+' :: rest => isNumber rest
  | text => Text.isPattern text

/-- The field of a text: its name, and perhaps a value behind an equals sign.  A second
such sign ends the value. -/
def ofText? (text : List Char) : Option LogField :=
  let name := text.takeWhile (· != '=')
  match text.drop name.length with
  | [] => some { name }
  | _ :: rest => if isValue (rest.takeWhile (· != '=')) then some { name, valued := true } else none

end LogField

namespace LogDirective

/-- A target may start with this character. -/
def startsTarget (c : Char) : Bool :=
  Text.isAlphanumeric c || c == '_' || c == ':' || c == '-'

/-- The text without the blanks on either side. -/
def trim (text : List Char) : List Char :=
  ((text.dropWhile Text.isBlank).reverse.dropWhile Text.isBlank).reverse

/-- The directive of a level, or else of a target about which all is told. -/
def ofWord (text : List Char) : LogDirective :=
  match LogLevel.ofText? text with
  | some level => { level }
  | none => { target := some text }

/-- The level from a place on; if nothing is there, all is told. -/
def levelFrom (place : Nat) (text : List Char) : Option LogLevel := do
  let word ← Text.dropBytes place text
  if word.isEmpty then some .trace else LogLevel.ofText? word

/-- Read on behind the brackets: a level may follow. -/
def readLevel (d : LogDirective) (text : List Char) (place : Nat) :
    List Char → Option LogDirective
  | [] => some d
  | '=' :: _ => do return { d with level := ← levelFrom (place + 1) text }
  | _ => none

/-- Read on behind a brace: a field up to its end, where the brackets end too. -/
def readField (d : LogDirective) (text : List Char) (place : Nat) (rest : List Char) :
    Option LogDirective :=
  let inner := rest.takeWhile (· != '\x7d')
  match rest.drop inner.length with
  | '\x7d' :: ']' :: rest => do
    if inner.isEmpty then none
    let field ← LogField.ofText? (← Text.takeBytes (Text.extent inner)
      (← Text.dropBytes place text))
    readLevel { d with field } text (place + Text.extent inner + 2) rest
  | _ => none

/-- Read on behind a bracket: the name of a span, and perhaps a field.  In front of a
field the name may be missing. -/
def readSpan (d : LogDirective) (text : List Char) (place : Nat) (rest : List Char) :
    Option LogDirective :=
  let name := rest.takeWhile fun c => c != ']' && c != '\x7b'
  let stop := place + Text.extent name + 1
  match rest.drop name.length with
  | ']' :: rest => readLevel { d with spanned := true } text stop rest
  | _ :: rest => readField { d with spanned := !name.isEmpty } text stop rest
  | [] => none

/-- The directive of a text. -/
def ofText? (text : List Char) : Option LogDirective :=
  match trim text with
  | [] => none
  | '[' :: rest => readSpan {} text 1 rest
  | c :: rest =>
    if !startsTarget c then none
    else
      let name := (c :: rest).takeWhile fun c => c != '=' && c != '['
      let stop := Text.extent name
      match (c :: rest).drop name.length with
      | [] => some (ofWord text)
      | '=' :: _ => do
        return { target := ← Text.takeBytes stop text, level := ← levelFrom (stop + 1) text }
      | _ :: rest => do readSpan { target := ← Text.takeBytes stop text } text (stop + 1) rest

/-- The directive can be followed by looking at a message alone: neither a span nor the
value of a field matters. -/
def isPlain (d : LogDirective) : Bool := !d.spanned && !d.field.any (·.valued)

/-- How narrow the directive is: first comes a long target, then the name of a field. -/
def rank (d : LogDirective) : Nat :=
  2 * (d.target.map (·.length + 1)).getD 0 + (if d.field.isSome then 1 else 0)

/-- The directive is about messages that a part of the program sends with certain
fields. -/
def covers (d : LogDirective) (part : List Char) (fields : List (List Char)) : Bool :=
  d.isPlain && d.target.all (·.isPrefixOf part) && d.field.all fun f => fields.contains f.name

end LogDirective

end Scaffold
