import Scaffold.Decimal
import Scaffold.Yaml.Located

/-!
# YAML scalars

The text of scalars: plain, between quotation marks, and as a block of lines.  What
a plain scalar means is not decided here.

## Main definitions

* `Yaml.readPlain` — a plain scalar.
* `Yaml.readQuoted` — a scalar between quotation marks.
* `Yaml.readBlock` — a block of lines.
-/

namespace Scaffold.Yaml

open Text

/-! ### Plain scalars -/

/-- The word of a plain scalar at the start of a text.  Within brackets the marks of
lists and maps end it, and a colon may not stand in front of one. -/
def readPlainWord (flow : Bool) : Located → Option (List Char × Located)
  | [] => some ([], [])
  | (c, p) :: rest =>
    let next := Located.first rest
    if isEnd c then some ([], (c, p) :: rest)
    else if flow && c == ':' && (isFlowMark next || next == '?') then none
    else if (c == ':' && isEnd next) || (flow && isFlowMark c) then some ([], (c, p) :: rest)
    else do
      let (word, rest) ← readPlainWord flow rest
      return (c :: word, rest)

/-- A plain scalar behind the words `read`, with the gap after them.  It ends where
a comment or a document starts, and in a block at a line that is indented less.
Whether its last line has ended is part of the answer. -/
def readPlainFrom (flow : Bool) (indent : Nat) :
    (fuel : Nat) → (read : List Char) → Gap → Located → Option (List Char × Bool × Located)
  | 0, _, _, _ => none
  | fuel + 1, read, gap, s =>
    if s.atDocumentMark || s.first == '#' then some (read, gap.broken, s)
    else do
      let (word, rest) ← readPlainWord flow s
      if word.isEmpty then return (read, gap.broken, rest)
      let read := read ++ gap.folded ++ word
      if !(isBlank rest.first || isBreak rest.first) then return (read, false, rest)
      let (gap, rest) ← readGap indent {} rest
      if !flow && rest.place.column < indent then return (read, gap.broken, rest)
      readPlainFrom flow indent fuel read gap rest

/-- A plain scalar. -/
def readPlain (flow : Bool) (indent : Nat) (s : Located) : Option (String × Bool × Located) := do
  let (text, ended, rest) ← readPlainFrom flow indent (s.length + 1) [] {} s
  return (.ofList text, ended, rest)

/-! ### Quoted scalars -/

/-- A character that one letter behind a backslash stands for. -/
def letterEscape? : Char → Option Char
  | '0' => some '\x00'
  | 'a' => some '\x07'
  | 'b' => some '\x08'
  | 't' | '\t' => some '\t'
  | 'n' => some '\n'
  | 'v' => some '\x0b'
  | 'f' => some '\x0c'
  | 'r' => some '\r'
  | 'e' => some '\x1b'
  | ' ' => some ' '
  | '"' => some '"'
  | '/' => some '/'
  | '\\' => some '\\'
  | 'N' => some (Char.ofNat 0x85)
  | '_' => some (Char.ofNat 0xA0)
  | 'L' => some (Char.ofNat 0x2028)
  | 'P' => some (Char.ofNat 0x2029)
  | _ => none

/-- How many digits the code behind a letter has. -/
def codeWidth? : Char → Option Nat
  | 'x' => some 2
  | 'u' => some 4
  | 'U' => some 8
  | _ => none

/-- The character behind a backslash. -/
def readEscape (s : Located) : Option (Char × Located) :=
  match letterEscape? s.first with
  | some c => some (c, s.drop 1)
  | none => do
    let width ← codeWidth? s.first
    let (code, _) ← hexCode? width (Located.chars (s.drop 1) |>.take width)
    return (← charOfCode? code, s.drop (1 + width))

/-- The word of a quoted scalar at the start of a text, and whether it ended with a
backslash at the end of a line, which is then passed over. -/
def readQuotedWord (single : Bool) : (fuel : Nat) → Located → Option (List Char × Bool × Located)
  | fuel + 1, (c, p) :: rest =>
    if isEnd c then some ([], false, (c, p) :: rest)
    else if single && c == '\'' then
      if Located.first rest == '\'' then do
        let (word, joined, after) ← readQuotedWord single fuel (rest.drop 1)
        return (c :: word, joined, after)
      else some ([], false, (c, p) :: rest)
    else if !single && c == '"' then some ([], false, (c, p) :: rest)
    else if !single && c == '\\' then
      if isBreak (Located.first rest) then some ([], true, Located.dropBreak rest)
      else do
        let (escaped, rest) ← readEscape rest
        let (word, joined, after) ← readQuotedWord single fuel rest
        return (escaped :: word, joined, after)
    else do
      let (word, joined, after) ← readQuotedWord single fuel rest
      return (c :: word, joined, after)
  | _, s => some ([], false, s)

/-- The mark that ends a quoted scalar. -/
def quoteMark (single : Bool) : Char := if single then '\'' else '"'

/-- A quoted scalar behind its opening mark and the words `read`.  No line of it may
look like the start or the end of a document. -/
def readQuotedFrom (single : Bool) :
    (fuel : Nat) → (read : List Char) → Located → Option (List Char × Located)
  | 0, _, _ => none
  | fuel + 1, read, s =>
    if s.atDocumentMark || s.first == endMark then none
    else do
      let (word, joined, rest) ← readQuotedWord single s.length s
      let read := read ++ word
      if rest.first == quoteMark single then return (read, rest.drop 1)
      let (gap, rest) ← readGap 0 { broken := joined } rest
      readQuotedFrom single fuel (read ++ gap.folded) rest

/-- A quoted scalar behind its opening mark. -/
def readQuoted (single : Bool) (s : Located) : Option (String × Located) := do
  let (text, rest) ← readQuotedFrom single (s.length + 1) [] s
  return (.ofList text, rest)

/-! ### Blocks of lines -/

/-- What becomes of the ends of lines at the end of a block. -/
inductive Chomping where
  /-- None of them is kept. -/
  | strip
  /-- One of them is kept. -/
  | clip
  /-- All of them are kept. -/
  | keep
  deriving DecidableEq, Repr

/-- The head of a block: what happens at its end, and its indentation. -/
structure BlockHead where
  chomping : Chomping := .clip
  indentation : Option Nat := none
  deriving DecidableEq, Repr

/-- The sign for the end of a block, if one stands here. -/
def readChomping (s : Located) : Option (Chomping × Located) :=
  if s.first == '+' then some (.keep, s.drop 1)
  else if s.first == '-' then some (.strip, s.drop 1)
  else none

/-- The digit for the indentation of a block, if one stands here; zero is a fault. -/
def readIndentation (s : Located) : Option (Option Nat × Located) :=
  if s.first.isDigit then
    if s.first == '0' then none else some (some (s.first.toNat - 48), s.drop 1)
  else some (none, s)

/-- The two signs of a head, in either order. -/
def readBlockHead (s : Located) : Option (BlockHead × Located) :=
  match readChomping s with
  | some (chomping, rest) => do
    let (indentation, rest) ← readIndentation rest
    return ({ chomping, indentation }, rest)
  | none => do
    let (indentation, rest) ← readIndentation s
    match indentation, readChomping rest with
    | some n, some (chomping, rest) => return ({ chomping, indentation := some n }, rest)
    | _, _ => return ({ indentation }, rest)

/-- The text from the end of its line, if nothing but a comment stands on it. -/
def skipToBreak (s : Located) : Option Located :=
  let rest := s.dropWhile fun (c, _) => isBlank c
  let rest := if Located.first rest == '#' then
      rest.dropWhile fun (c, _) => !(isBreak c || c == endMark)
    else rest
  let c := Located.first rest
  if isBreak c || c == endMark then some rest else none

/-- The empty lines at the start of a text: the greatest column that was reached,
the ends of the lines, and the rest.  Blanks in front of column `limit` count as
indentation, all blanks without a limit, and no tab may stand among them. -/
def readEmptyLines (limit : Option Nat) (widest : Nat) (ends : List Char) :
    Located → Option (Nat × List Char × Located)
  | ('\r', p) :: ('\n', _) :: rest =>
    readEmptyLines limit (max widest p.column) (ends ++ ['\n']) rest
  | (c, p) :: rest =>
    let inside := limit.all (p.column < ·)
    if c == ' ' && inside then readEmptyLines limit widest ends rest
    else if c == '\t' && inside then none
    else if isBreak c then
      readEmptyLines limit (max widest p.column) (ends ++ breakText c) rest
    else some (max widest p.column, ends, (c, p) :: rest)
  | [] => some (widest, ends, [])

/-- Where a block stands between two of its lines. -/
structure BlockState where
  /-- The text so far. -/
  text : List Char := []
  /-- The end of the last line. -/
  lineEnd : List Char := []
  /-- The ends of the empty lines after it. -/
  emptyLines : List Char := []
  /-- The last line started with a blank. -/
  blankLine : Bool := false
  deriving Repr

namespace BlockState

/-- The ends of lines in front of the next one, as they count in the text.  In a
folded block the end of a line is a blank or gives way to the empty lines after
it, unless a line that starts with a blank is on either side. -/
def between (b : BlockState) (literal nextBlank : Bool) : List Char :=
  if !literal && b.lineEnd == ['\n'] && !b.blankLine && !nextBlank then
    if b.emptyLines.isEmpty then [' '] else b.emptyLines
  else b.lineEnd ++ b.emptyLines

/-- The text at the end of a block. -/
def finish (b : BlockState) : Chomping → List Char
  | .strip => b.text
  | .clip => b.text ++ b.lineEnd
  | .keep => b.text ++ b.lineEnd ++ b.emptyLines

end BlockState

/-- The lines of a block, all of which are indented to one column. -/
def readBlockLines (literal : Bool) (indent : Nat) :
    (fuel : Nat) → BlockState → Located → Option (BlockState × Located)
  | 0, _, _ => none
  | fuel + 1, b, s =>
    if s.place.column != indent || s.first == endMark then some (b, s)
    else do
      let nextBlank := isBlank s.first
      let inLine : Char × Place → Bool := fun (c, _) => !(isBreak c || c == endMark)
      let line := Located.chars (s.takeWhile inLine)
      let rest := s.dropWhile inLine
      let ended := isBreak (Located.first rest)
      let lineEnd := if ended then breakText (Located.first rest) else []
      let after := if ended then Located.dropBreak rest else rest
      let (_, emptyLines, rest) ← readEmptyLines (some indent) 0 [] after
      readBlockLines literal indent fuel
        { text := b.text ++ b.between literal nextBlank ++ line
          lineEnd, emptyLines, blankLine := nextBlank } rest

/-- A block behind its sign, in a collection that is indented to `parent`; no
collection counts as a column less than zero. -/
def readBlock (literal : Bool) (parent : Int) (s : Located) : Option (String × Located) := do
  let (head, rest) ← readBlockHead s
  let rest ← skipToBreak rest
  let start := if isBreak (Located.first rest) then Located.dropBreak rest else rest
  let given := head.indentation.map fun n => if 0 ≤ parent then parent.toNat + n else n
  let (widest, emptyLines, rest) ← readEmptyLines given 0 [] start
  let indent := given.getD (max (max widest (parent + 1).toNat) 1)
  let (b, rest) ← readBlockLines literal indent (rest.length + 1) { emptyLines } rest
  return (.ofList (b.finish head.chomping), rest)

end Scaffold.Yaml
