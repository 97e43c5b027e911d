import Scaffold.WarningFilter.Directive

/-!
# Which warnings are shown

A filter is a list of directives.  The narrowest of those that are about a message
decides whether it is shown; if none is, it is not.  The program opens no spans of work,
so a directive that asks for one never decides.

A message that is shown goes to a terminal, so characters that a terminal might obey
are written by their codes.

## Main definitions

* `LogFilter.read`, `LogFilter.decisive?` — filters, and the directive that decides.
* `showsWarnings` — warnings are shown.
* `escapeControls` — a text that is safe to show.
-/

namespace Scaffold

/-! ### Filters -/

/-- Directives together. -/
abbrev LogFilter := List LogDirective

namespace LogFilter

/-- The pieces between commas, without the empty ones. -/
def pieces (text : List Char) : List (List Char) :=
  (text.foldr (fun c acc => match acc with
    | [] => [[c]]
    | piece :: more => if c == ',' then [] :: piece :: more else (c :: piece) :: more)
    [[]]).filter (!·.isEmpty)

/-- The filter of a text; one without directives tells of errors only. -/
def read (text : String) : Option LogFilter := do
  let directives ← (pieces text.toList).mapM LogDirective.ofText?
  return if directives.isEmpty then [{ level := .error }] else directives

/-- The directive that decides about messages of a part of the program with certain
fields; of two that are equally narrow it is the later one. -/
def decisive? (f : LogFilter) (part : List Char) (fields : List (List Char)) :
    Option LogDirective :=
  (f.filter (·.covers part fields)).foldl (fun best d => match best with
    | none => some d
    | some held => if d.rank < held.rank then some held else some d) none

/-- The filter lets warnings of a part of the program with certain fields through. -/
def tellsWarnings (f : LogFilter) (part : String) (fields : List String) : Bool :=
  (f.decisive? part.toList (fields.map String.toList)).any (·.level.tellsWarnings)

end LogFilter

/-- The part of the program that warns of unknown keys. -/
def warningOrigin : String := "layergen::commands"

/-- The fields of such a warning: its text is the only one. -/
def warningFields : List String := ["message"]

/-- Warnings are shown, unless a filter that can be read holds them back. -/
def showsWarnings (filter : Option String) : Bool :=
  match filter.bind LogFilter.read with
  | some f => f.tellsWarnings warningOrigin warningFields
  | none => true

/-! ### Texts to show -/

/-- The controls of ASCII with which orders to a terminal are given. -/
def terminalControls : List Char := ['\x07', '\x08', '\x0c', '\x1b', '\x7f']

/-- A number in hexadecimal digits, two at least. -/
def hexPair (n : Nat) : List Char :=
  if n < 16 then '0' :: Nat.toDigits 16 n else Nat.toDigits 16 n

/-- A character as it is shown: orders to a terminal and the controls behind ASCII by
their codes. -/
def escapeControl (c : Char) : List Char :=
  if terminalControls.contains c then ['\\', 'x'] ++ hexPair c.toNat
  else if 0x80 ≤ c.toNat && c.toNat ≤ 0x9f then ['\\', 'u', '\x7b'] ++ hexPair c.toNat ++ ['\x7d']
  else [c]

/-- A text as it is shown. -/
def escapeControls (text : String) : String := .ofList (text.toList.flatMap escapeControl)

end Scaffold
