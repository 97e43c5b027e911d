/-!
# Text with places

Blocks are told apart by indentation, so every character is kept together with its
place.  The text ends with a mark that no text may hold; looking one character
further is then always possible.

## Main definitions

* `Yaml.Place`, `Yaml.Located`, `Yaml.locate` — characters and their places.
* `Yaml.isBlank`, `Yaml.isBreak`, `Yaml.isEnd` — classes of characters.
* `Yaml.Gap` — blanks and ends of lines between two words, and how they fold.
-/

namespace Scaffold.Yaml

/-- Where a character stands; all three count from zero. -/
structure Place where
  /-- The number of bytes before it. -/
  index : Nat := 0
  /-- The number of lines before it. -/
  line : Nat := 0
  /-- The number of characters before it on its line. -/
  column : Nat := 0
  deriving DecidableEq, Repr, Inhabited

/-- Characters and where they stand. -/
abbrev Located := List (Char × Place)

/-! ### Classes of characters -/

/-- The mark behind the last character. -/
def endMark : Char := '\x00'

/-- A blank within a line. -/
def isBlank (c : Char) : Bool := c == ' ' || c == '\t'

/-- A line or paragraph separator; it ends a line but is kept as it is. -/
def isSeparator (c : Char) : Bool := c.toNat == 0x2028 || c.toNat == 0x2029

/-- The end of a line. -/
def isBreak (c : Char) : Bool :=
  c == '\r' || c == '\n' || c.toNat == 0x85 || isSeparator c

/-- A blank, the end of a line, or the end of the text. -/
def isEnd (c : Char) : Bool := isBlank c || isBreak c || c == endMark

/-- A character of names: of anchors, tags and directives. -/
def isWordChar (c : Char) : Bool :=
  c.isDigit || ('a' ≤ c && c ≤ 'z') || ('A' ≤ c && c ≤ 'Z') || c == '_' || c == '-'

/-- One of the marks of lists and maps that are written in one line. -/
def isFlowMark (c : Char) : Bool :=
  c == ',' || c == '[' || c == ']' || c == '\x7b' || c == '\x7d'

/-- A character that a text may hold: no control characters but the ends of lines
and the tab. -/
def isAllowed (c : Char) : Bool :=
  let n := c.toNat
  n == 9 || n == 10 || n == 13 || (32 ≤ n && n ≤ 126) || n == 0x85 ||
    (0xA0 ≤ n && n ≤ 0xFFFD) || 0x10000 ≤ n

/-! ### Places -/

/-- The place behind a character on the same line. -/
def Place.next (p : Place) (c : Char) : Place :=
  { p with index := p.index + c.utf8Size, column := p.column + 1 }

/-- The place behind the end of a line that has so many bytes. -/
def Place.nextLine (p : Place) (width : Nat) : Place := ⟨p.index + width, p.line + 1, 0⟩

/-- A text with its places and the mark at its end.  A carriage return and the line
feed behind it end one line. -/
def locate (p : Place) : List Char → Located
  | [] => [(endMark, p)]
  | '\r' :: '\n' :: rest => ('\r', p) :: ('\n', p.next '\r') :: locate (p.nextLine 2) rest
  | c :: rest => (c, p) :: locate (if isBreak c then p.nextLine c.utf8Size else p.next c) rest

namespace Located

/-- The first character. -/
def first (s : Located) : Char := (s.head?.map (·.1)).getD endMark

/-- The second character. -/
def second (s : Located) : Char := first (s.drop 1)

/-- The place of the first character. -/
def place (s : Located) : Place := (s.head?.map (·.2)).getD {}

/-- The text without places. -/
def chars (s : Located) : List Char := s.map (·.1)

/-- The text behind the end of a line at its start. -/
def dropBreak : Located → Located
  | ('\r', _) :: ('\n', _) :: rest => rest
  | _ :: rest => rest
  | [] => []

/-- Three characters at the start of a line, and nothing else in the word. -/
def isLineMark (s : Located) (c : Char) : Bool :=
  s.place.column == 0 && s.first == c && s.second == c && first (s.drop 2) == c &&
    isEnd (first (s.drop 3))

/-- The start or the end of a document is marked here. -/
def atDocumentMark (s : Located) : Bool := s.isLineMark '-' || s.isLineMark '.'

end Located

/-- The end of a line as it counts in a scalar. -/
def breakText (c : Char) : List Char := if isSeparator c then [c] else ['\n']

/-! ### Gaps between words -/

/-- What stands between two words of a scalar. -/
structure Gap where
  /-- The blanks on the line of the first word. -/
  blanks : List Char := []
  /-- The line has ended. -/
  broken : Bool := false
  /-- The end of that line, unless it is joined with the next one. -/
  lineEnd : List Char := []
  /-- The ends of the empty lines that follow. -/
  emptyLines : List Char := []
  deriving Repr, Inhabited

namespace Gap

/-- What a gap leaves in the scalar: its blanks within a line; one blank for the end
of a line; and the ends of empty lines in place of that blank. -/
def folded (g : Gap) : List Char :=
  if !g.broken then g.blanks
  else if g.lineEnd == ['\n'] then
    if g.emptyLines.isEmpty then [' '] else g.emptyLines
  else g.lineEnd ++ g.emptyLines

/-- One more end of a line. -/
def breakLine (g : Gap) (text : List Char) : Gap :=
  if g.broken then { g with emptyLines := g.emptyLines ++ text }
  else { g with blanks := [], broken := true, lineEnd := text }

end Gap

/-- The gap at the start of a text.  On a line of its own a tab must not stand for
indentation, that is in a column below `limit`. -/
def readGap (limit : Nat) (g : Gap) : Located → Option (Gap × Located)
  | ('\r', _) :: ('\n', _) :: rest => readGap limit (g.breakLine ['\n']) rest
  | (c, p) :: rest =>
    if isBlank c then
      if !g.broken then readGap limit { g with blanks := g.blanks ++ [c] } rest
      else if c == '\t' && p.column < limit then none
      else readGap limit g rest
    else if isBreak c then readGap limit (g.breakLine (breakText c)) rest
    else some (g, (c, p) :: rest)
  | [] => some (g, [])

end Scaffold.Yaml
