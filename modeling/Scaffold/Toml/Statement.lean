import Scaffold.Toml.Value
import Scaffold.Toml.Scalar

/-!
# TOML statements

A text is a list of statements, one to a line: assignments, headers of tables and
of elements of lists, and empty lines.  What the statements mean together is left
to `Scaffold.Toml.Document`.

## Main definitions

* `Toml.readKey`, `Toml.readValue` — the parts.
* `Toml.Statement`, `Toml.readStatements` — statements.
-/

namespace Scaffold.Toml

/-! ### Keys -/

/-- How deeply values may be nested. -/
def maxDepth : Nat := 79

/-- How many parts a dotted key may have. -/
def maxKeyParts : Nat := 79

/-- A character of a bare key. -/
def isBareKeyChar (c : Char) : Bool :=
  c.isDigit || ('a' ≤ c && c ≤ 'z') || ('A' ≤ c && c ≤ 'Z') || c == '_' || c == '-'

/-- One part of a key: bare, or a string on one line. -/
def readKeyPart (text : List Char) : Option (String × List Char) :=
  match text with
  | '"' :: rest => readBasic (rest.length + 1) [] rest
  | '\'' :: rest => readLiteral rest
  | _ =>
    let word := text.takeWhile isBareKeyChar
    if word.isEmpty then none else some (.ofList word, text.dropWhile isBareKeyChar)

/-- The parts of a key, with blanks around each of them. -/
def readKeyParts : (fuel : Nat) → List Char → Option (List String × List Char)
  | 0, _ => none
  | fuel + 1, text => do
    let (part, rest) ← readKeyPart (skipSpace text)
    match skipSpace rest with
    | '.' :: rest => do
      let (parts, rest) ← readKeyParts fuel rest
      return (part :: parts, rest)
    | rest => return ([part], rest)

/-- A key: its last part, and the path in front of it. -/
structure Key where
  /-- The parts in front of the last dot. -/
  path : List String
  /-- The last part. -/
  last : String
  deriving DecidableEq, Repr

/-- A key with or without dots. -/
def readKey (text : List Char) : Option (Key × List Char) := do
  let (parts, rest) ← readKeyParts (text.length + 1) text
  if maxKeyParts < parts.length then none
  return (⟨parts.dropLast, ← parts.getLast?⟩, rest)

/-! ### Values -/

/-- The text behind a comment, up to the end of its line. -/
def skipComment (text : List Char) : List Char := text.dropWhile isPlain

/-- The text from its first character that is no blank, ends no line and belongs to
no comment. -/
def skipLines : (fuel : Nat) → List Char → List Char
  | fuel + 1, c :: rest =>
    if isSpace c then skipLines fuel rest
    else if c == '#' then skipLines fuel (skipComment rest)
    else match newline? (c :: rest) with
      | some after => skipLines fuel after
      | none => c :: rest
  | _, text => text

/-- The table of the pairs of an inline table. -/
def tableOfPairs (pairs : List (Key × Value)) : Option Table := do
  let entries ← pairs.foldlM (fun entries (key, v) => Entries.put key.path key.last v entries) []
  return Entries.toTable entries

mutual

/-- A value, nested at most so deeply. -/
def readValue : (fuel depth : Nat) → List Char → Option (Value × List Char)
  | _, _, '"' :: rest => (readString ('"' :: rest)).map fun (s, rest) => (.string s, rest)
  | _, _, '\'' :: rest => (readString ('\'' :: rest)).map fun (s, rest) => (.string s, rest)
  | fuel + 1, depth + 1, '[' :: rest => do
    let (items, rest) ← readItems fuel depth (skipLines rest.length rest)
    return (.array items, rest)
  | fuel + 1, depth + 1, '\x7b' :: rest =>
    match skipSpace rest with
    | '\x7d' :: rest => some (.table [], rest)
    | rest => do
      let (pairs, rest) ← readPairs fuel depth rest
      return (.table (← tableOfPairs pairs), rest)
  | _, _, text => readWord text

/-- The items of an array up to its end; a comma may stand behind the last one. -/
def readItems : (fuel depth : Nat) → List Char → Option (List Value × List Char)
  | 0, _, _ => none
  | _, _, ']' :: rest => some ([], rest)
  | fuel + 1, depth, text => do
    let (item, rest) ← readValue fuel depth text
    match skipLines rest.length rest with
    | ',' :: rest => do
      let (items, rest) ← readItems fuel depth (skipLines rest.length rest)
      return (item :: items, rest)
    | ']' :: rest => return ([item], rest)
    | _ => none

/-- The pairs of an inline table up to its end, all on one line. -/
def readPairs : (fuel depth : Nat) → List Char → Option (List (Key × Value) × List Char)
  | 0, _, _ => none
  | fuel + 1, depth, text => do
    let (key, rest) ← readKey text
    let (v, rest) ← readValue fuel depth (skipSpace (← expect '=' rest))
    match skipSpace rest with
    | ',' :: rest => do
      let (pairs, rest) ← readPairs fuel depth rest
      return ((key, v) :: pairs, rest)
    | '\x7d' :: rest => return ([(key, v)], rest)
    | _ => none

end

/-! ### Statements -/

/-- What one line says. -/
inductive Statement where
  /-- Nothing. -/
  | empty
  /-- A value under a key. -/
  | assign (key : Key) (v : Value)
  /-- The following assignments belong to this table. -/
  | table (key : Key)
  /-- The following assignments belong to a new element of this list. -/
  | element (key : Key)
  deriving Repr

/-- The text of the next line, if nothing but a comment stands on this one. -/
def readLineEnd (text : List Char) : Option (List Char) :=
  let rest := match skipSpace text with
    | '#' :: rest => skipComment rest
    | rest => rest
  if rest.isEmpty then some [] else newline? rest

/-- One statement, with the end of its line. -/
def readStatement (text : List Char) : Option (Statement × List Char) :=
  match text with
  | '[' :: '[' :: rest => do
    let (key, rest) ← readKey rest
    let rest ← expect ']' (← expect ']' rest)
    return (.element key, ← readLineEnd rest)
  | '[' :: rest => do
    let (key, rest) ← readKey rest
    let rest ← expect ']' rest
    return (.table key, ← readLineEnd rest)
  | _ =>
    match readLineEnd text with
    | some rest => some (.empty, rest)
    | none => do
      let (key, rest) ← readKey text
      let start := skipSpace (← expect '=' rest)
      let (v, rest) ← readValue (2 * start.length + 1) maxDepth start
      return (.assign key v, ← readLineEnd rest)

/-- All statements of a text. -/
def readStatements : (fuel : Nat) → List Char → Option (List Statement)
  | 0, _ => none
  | fuel + 1, text =>
    match skipSpace text with
    | [] => some []
    | start => do
      let (s, rest) ← readStatement start
      return s :: (← readStatements fuel rest)

end Scaffold.Toml
