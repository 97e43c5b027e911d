import Scaffold.Yaml.Scalar

/-!
# YAML tokens

A text as the list of its tokens.  Indentation becomes tokens too: a block opens
where a line is indented more than those before it and closes where one is indented
less.

The key of a map is known to be one only when the colon behind it is met.  So
wherever a key may stand its place in the list is kept, and the colon puts the
tokens for a key there.  Such a key must stand on one line, and the colon no more than
1024 bytes behind its start.

A tag names the kind of a tree.  A percent sign and two digits can write any byte, so a
tag is a list of bytes and need not be a text.  Nothing counts behind a zero.

## Main definitions

* `Yaml.Tag`, `Yaml.Tag.ofText`, `Yaml.Tag.ofBytes` — tags.
* `Yaml.Tag.standard` — the tags that every author knows.
* `Yaml.Tag.isLocal`, `Yaml.Tag.isGarbled` — tags that only their author knows.
* `Yaml.Token` — the tokens.
* `Yaml.Lexer` — where the reading of tokens stands.
* `Yaml.Token.ofText?` — the tokens of a text.
-/

namespace Scaffold.Yaml

/-! ### Tags -/

/-- A tag in full, or a part of one. -/
abbrev Tag := List UInt8

namespace Tag

/-- The tag of a text. -/
def ofText (text : String) : Tag := text.toUTF8.data.toList

/-- The tag of bytes: those in front of a zero. -/
def ofBytes (bytes : List UInt8) : Tag := bytes.takeWhile (· != 0)

/-- A tag that every author knows. -/
def standard (name : String) : Tag := ofText ("tag:yaml.org,2002:" ++ name)

/-- The tag of an exclamation mark alone. -/
def bare : Tag := ofText "!"

/-- The tag starts like one that only its author knows. -/
def startsLocal (t : Tag) : Bool := bare.isPrefixOf t

/-- The tag is a text. -/
def isText (t : Tag) : Bool := (String.fromUTF8? ⟨t.toArray⟩).isSome

/-- A tag that only its author knows. -/
def isLocal (t : Tag) : Bool := t.startsLocal && t.isText

/-- A tag that starts like one that only its author knows but cannot be read.  It says
nothing. -/
def isGarbled (t : Tag) : Bool := t.startsLocal && !t.isText

end Tag

/-! ### Tokens -/

/-- A token. -/
inductive Token where
  /-- The version that the text claims. -/
  | version (major minor : Nat)
  /-- A short form for the start of tags. -/
  | tagHandle (handle : String) (start : Tag)
  | documentStart
  | documentEnd
  | blockListStart
  | blockMapStart
  | blockEnd
  | listStart
  | listEnd
  | mapStart
  | mapEnd
  /-- The dash in front of an item. -/
  | item
  /-- The comma between items or entries. -/
  | comma
  | key
  | value
  | reference (name : String)
  | anchor (name : String)
  | tag (handle : String) (suffix : Tag)
  | scalar (plain : Bool) (text : String)
  deriving DecidableEq, Repr

/-! ### The lexer -/

/-- A place in the list of tokens where a key may have started. -/
structure PossibleKey where
  /-- Nothing but a key can stand there. -/
  required : Bool
  /-- The number of tokens before it. -/
  number : Nat
  /-- Its place in the text. -/
  place : Place
  deriving Repr

/-- Where the reading of tokens stands. -/
structure Lexer where
  /-- The text that is left. -/
  rest : Located
  /-- The tokens so far, the last one first. -/
  tokens : List Token := []
  /-- The number of tokens so far. -/
  count : Nat := 0
  /-- The column of the innermost block, if any block is open. -/
  indent : Int := -1
  /-- The columns of the blocks around it. -/
  outer : List Int := []
  /-- A key may start here. -/
  keyAllowed : Bool := true
  /-- Where a key may have started, within the innermost brackets. -/
  possible : Option PossibleKey := none
  /-- The same for the brackets around, down to outside of all brackets. -/
  outerPossible : List (Option PossibleKey) := []
  deriving Repr

namespace Lexer

/-- Within brackets. -/
def inFlow (l : Lexer) : Bool := !l.outerPossible.isEmpty

/-- The column of the next character. -/
def column (l : Lexer) : Nat := l.rest.place.column

/-- One more token. -/
def push (l : Lexer) (t : Token) : Lexer :=
  { l with tokens := t :: l.tokens, count := l.count + 1 }

/-- A token in front of those from a number on. -/
def insertAt (l : Lexer) (number : Nat) (t : Token) : Lexer :=
  let later := l.count - number
  { l with tokens := l.tokens.take later ++ t :: l.tokens.drop later, count := l.count + 1 }

/-- Pass over characters of a line. -/
def drop (l : Lexer) (n : Nat) : Lexer := { l with rest := l.rest.drop n }

/-! #### Possible keys -/

/-- Give up a key that can no longer be one. -/
def giveUp : Option PossibleKey → Option (Option PossibleKey)
  | some k => if k.required then none else some none
  | none => some none

/-- The longest way from the start of a key to its colon, in bytes. -/
def longestKey : Nat := 1024

/-- A key has ended on another line or is too long. -/
def isStale (here : Place) (k : PossibleKey) : Bool :=
  k.place.line < here.line || k.place.index + longestKey < here.index

/-- Give up a key that is stale. -/
def refresh (here : Place) (k : Option PossibleKey) : Option (Option PossibleKey) :=
  if k.any (isStale here) then giveUp k else some k

/-- Give up all keys that are stale. -/
def refreshAll (l : Lexer) : Option Lexer := do
  return { l with
    possible := ← refresh l.rest.place l.possible
    outerPossible := ← l.outerPossible.mapM (refresh l.rest.place) }

/-- No key has started within the innermost brackets. -/
def forgetKey (l : Lexer) : Option Lexer := do return { l with possible := ← giveUp l.possible }

/-- A key may start with the next token. -/
def noteKey (l : Lexer) : Option Lexer :=
  if l.keyAllowed then do
    let l ← l.forgetKey
    let required := !l.inFlow && l.indent == (l.column : Int)
    return { l with possible := some ⟨required, l.count, l.rest.place⟩ }
  else some l

/-! #### Blocks -/

/-- Open a block at a column, if that is further in; its token comes before those
from a number on. -/
def openBlock (l : Lexer) (column number : Nat) (t : Token) : Lexer :=
  if !l.inFlow && l.indent < column then
    { l with outer := l.indent :: l.outer, indent := column }.insertAt number t
  else l

/-- Close the blocks that are further in than a column. -/
def closeBlocks (l : Lexer) (column : Int) : Lexer :=
  if l.inFlow then l else close l l.outer
where
  /-- Close blocks one by one, given the columns around the innermost. -/
  close (l : Lexer) : List Int → Lexer
    | [] => l
    | indent :: outer =>
      if column < l.indent then close { l.push .blockEnd with indent, outer } outer else l

/-! #### Blanks -/

/-- Pass over blanks, comments and ends of lines.  Behind the end of a line a key may
start; a tab may not stand where one may. -/
def skipBlank (fuel : Nat) (l : Lexer) : Lexer :=
  match fuel with
  | 0 => l
  | fuel + 1 =>
    let start := if l.column == 0 && l.rest.first.toNat == 0xFEFF then l.rest.drop 1 else l.rest
    let rest := start.dropWhile fun (c, _) =>
      c == ' ' || (c == '\t' && (l.inFlow || !l.keyAllowed))
    let rest := if Located.first rest == '#' then
        rest.dropWhile fun (c, _) => !(isBreak c || c == endMark)
      else rest
    if isBreak (Located.first rest) then
      skipBlank fuel
        { l with rest := Located.dropBreak rest, keyAllowed := l.keyAllowed || !l.inFlow }
    else { l with rest }

/-! #### Marks -/

/-- A bracket opens.  It may be the start of a key. -/
def openFlow (l : Lexer) (t : Token) : Option Lexer := do
  let l ← l.noteKey
  let l := { l with outerPossible := l.possible :: l.outerPossible, possible := none }
  return { (l.push t).drop 1 with keyAllowed := true }

/-- A bracket closes. -/
def closeFlow (l : Lexer) (t : Token) : Option Lexer := do
  let l ← l.forgetKey
  let l := match l.outerPossible with
    | [] => l
    | k :: ks => { l with possible := k, outerPossible := ks }
  return { (l.push t).drop 1 with keyAllowed := false }

/-- A comma. -/
def comma (l : Lexer) : Option Lexer := do
  return { ((← l.forgetKey).push .comma).drop 1 with keyAllowed := true }

/-- The dash in front of an item. -/
def item (l : Lexer) : Option Lexer := do
  if !l.inFlow && !l.keyAllowed then none
  let l ← (l.openBlock l.column l.count .blockListStart).forgetKey
  return { (l.push .item).drop 1 with keyAllowed := true }

/-- The question mark in front of a key. -/
def explicitKey (l : Lexer) : Option Lexer := do
  if !l.inFlow && !l.keyAllowed then none
  let l ← (l.openBlock l.column l.count .blockMapStart).forgetKey
  return { (l.push .key).drop 1 with keyAllowed := !l.inFlow }

/-- The colon behind a key.  What may have been a key is one. -/
def value (l : Lexer) : Option Lexer :=
  match l.possible with
  | some k =>
    let l := (l.insertAt k.number .key).openBlock k.place.column k.number .blockMapStart
    some { (l.push .value).drop 1 with possible := none, keyAllowed := false }
  | none =>
    if !l.inFlow && !l.keyAllowed then none
    else
      let l := l.openBlock l.column l.count .blockMapStart
      some { (l.push .value).drop 1 with keyAllowed := !l.inFlow }

/-! #### Names -/

/-- The word at the start of a text. -/
def readWord (s : Located) : List Char × Located :=
  (Located.chars (s.takeWhile fun (c, _) => isWordChar c), s.dropWhile fun (c, _) => isWordChar c)

/-- What may stand behind the name of an anchor. -/
def endsAnchor (c : Char) : Bool :=
  isEnd c || c == '?' || c == ':' || c == ',' || c == ']' || c == '\x7d' || c == '%' ||
    c == '@' || c == '\x60'

/-- The name of an anchor behind its mark. -/
def anchor (l : Lexer) (token : String → Token) : Option Lexer := do
  let l ← l.noteKey
  let (name, rest) := readWord (l.rest.drop 1)
  if name.isEmpty || !endsAnchor (Located.first rest) then none
  return { (l.push (token (.ofList name))) with rest, keyAllowed := false }

/-! #### Tags -/

/-- A character that may stand in a tag as it is. -/
def isTagChar (long : Bool) (c : Char) : Bool :=
  isWordChar c || ";/?:@&=+$.!~*'()".toList.contains c ||
    (long && (c == ',' || c == '[' || c == ']'))

/-- A byte in two hexadecimal digits behind a percent sign. -/
def readByte (s : Located) : Option (UInt8 × Located) := do
  if s.first != '%' then none
  let (byte, _) ← Text.hexCode? 2 (Located.chars ((s.drop 1).take 2))
  return (byte.toUInt8, s.drop 3)

/-- The number of bytes that follow the first one of a character. -/
def laterBytes? (first : UInt8) : Option Nat :=
  if first < 0x80 then some 0
  else if first &&& 0xe0 == 0xc0 then some 1
  else if first &&& 0xf0 == 0xe0 then some 2
  else if first &&& 0xf8 == 0xf0 then some 3
  else none

/-- Bytes behind the first one of a character, so many in number. -/
def readLaterBytes : (count : Nat) → Located → Option (List UInt8 × Located)
  | 0, s => some ([], s)
  | count + 1, s => do
    let (byte, rest) ← readByte s
    if byte &&& 0xc0 != 0x80 then none
    let (bytes, rest) ← readLaterBytes count rest
    return (byte :: bytes, rest)

/-- A character of a tag that is written byte by byte. -/
def readTagEscape (s : Located) : Option (List UInt8 × Located) := do
  let (first, rest) ← readByte s
  let (bytes, rest) ← readLaterBytes (← laterBytes? first) rest
  return (first :: bytes, rest)

/-- The bytes of the characters of a tag at the start of a text. -/
def readTagBytes (long : Bool) : (fuel : Nat) → Located → Option (List UInt8 × Located)
  | fuel + 1, (c, p) :: rest =>
    if c == '%' then do
      let (escaped, rest) ← readTagEscape ((c, p) :: rest)
      let (bytes, rest) ← readTagBytes long fuel rest
      return (escaped ++ bytes, rest)
    else if isTagChar long c then do
      let (bytes, rest) ← readTagBytes long fuel rest
      return (c.toNat.toUInt8 :: bytes, rest)
    else some ([], (c, p) :: rest)
  | _, s => some ([], s)

/-- At least one character of a tag. -/
def readTagText (long : Bool) (s : Located) : Option (Tag × Located) := do
  let (bytes, rest) ← readTagBytes long s.length s
  if bytes.isEmpty then none else some (.ofBytes bytes, rest)

/-- The handle and the rest of a tag at an exclamation mark.  A tag that has no second
one belongs to the handle of one mark, and the mark alone is a tag by itself. -/
def readShortTag (s : Located) : Option (String × Tag × Located) := do
  let (name, rest) := readWord (s.drop 1)
  if Located.first rest == '!' then
    let (suffix, rest) ← readTagText false (rest.drop 1)
    return (.ofList ('!' :: name ++ ['!']), suffix, rest)
  else
    let (more, rest) ← readTagBytes false rest.length rest
    let suffix := Tag.ofBytes (Tag.ofText (.ofList name) ++ more)
    if suffix.isEmpty then return ("", .bare, rest) else return ("!", suffix, rest)

/-- A tag that is spelt out between angle brackets. -/
def readLongTag (s : Located) : Option (String × Tag × Located) := do
  let (suffix, rest) ← readTagText true (s.drop 2)
  if Located.first rest == '>' then return ("", suffix, rest.drop 1) else none

/-- A tag. -/
def tag (l : Lexer) : Option Lexer := do
  let l ← l.noteKey
  let (handle, suffix, rest) ←
    if l.rest.second == '<' then readLongTag l.rest else readShortTag l.rest
  if !(isEnd rest.first || (l.inFlow && rest.first == ',')) then none
  return { (l.push (.tag handle suffix)) with rest, keyAllowed := false }

/-! #### Scalars -/

/-- A plain scalar. -/
def plain (l : Lexer) : Option Lexer := do
  let l ← l.noteKey
  let (text, ended, rest) ← readPlain l.inFlow (l.indent + 1).toNat l.rest
  return { (l.push (.scalar true text)) with rest, keyAllowed := ended }

/-- A quoted scalar. -/
def quoted (l : Lexer) (single : Bool) : Option Lexer := do
  let l ← l.noteKey
  let (text, rest) ← readQuoted single (l.rest.drop 1)
  return { (l.push (.scalar false text)) with rest, keyAllowed := false }

/-- A block of lines. -/
def block (l : Lexer) (literal : Bool) : Option Lexer := do
  let l ← l.forgetKey
  let (text, rest) ← readBlock literal l.indent (l.rest.drop 1)
  return { (l.push (.scalar false text)) with rest, keyAllowed := true }

/-! #### Documents -/

/-- Outside of all blocks, where no key may start. -/
def atTop (l : Lexer) : Option Lexer := do
  return { ← (l.closeBlocks (-1)).forgetKey with keyAllowed := false }

/-- The start or the end of a document. -/
def documentMark (l : Lexer) (t : Token) : Option Lexer := do
  return ((← l.atTop).push t).drop 3

/-- A number of a version: at most nine digits. -/
def readVersionNumber (s : Located) : Option (Nat × Located) :=
  let digits := Located.chars (s.takeWhile fun (c, _) => c.isDigit)
  if digits.isEmpty || 9 < digits.length then none
  else some (Text.valueOf 10 digits, s.drop digits.length)

/-- The text from its first character that is no blank. -/
def skipSpace (s : Located) : Located := s.dropWhile fun (c, _) => isBlank c

/-- The numbers of a version. -/
def readVersion (s : Located) : Option (Token × Located) := do
  let (major, rest) ← readVersionNumber (skipSpace s)
  if Located.first rest != '.' then none
  let (minor, rest) ← readVersionNumber (rest.drop 1)
  return (.version major minor, rest)

/-- The handle of a short form. -/
def readHandle (s : Located) : Option (String × Located) := do
  if s.first != '!' then none
  let (name, rest) := readWord (s.drop 1)
  if Located.first rest == '!' then return (.ofList ('!' :: name ++ ['!']), rest.drop 1)
  else if name.isEmpty then return ("!", rest)
  else none

/-- A short form and what it stands for. -/
def readTagHandle (s : Located) : Option (Token × Located) := do
  let (handle, rest) ← readHandle (skipSpace s)
  if !isBlank (Located.first rest) then none
  let (start, rest) ← readTagText true (skipSpace rest)
  if isEnd (Located.first rest) then return (.tagHandle handle start, rest) else none

/-- A line that starts with a percent sign. -/
def directive (l : Lexer) : Option Lexer := do
  let l ← l.atTop
  let (name, rest) := readWord (l.rest.drop 1)
  if !isEnd (Located.first rest) then none
  let (t, rest) ←
    if name == "YAML".toList then readVersion rest
    else if name == "TAG".toList then readTagHandle rest
    else none
  let rest ← skipToBreak rest
  return { l.push t with rest := if rest.first == endMark then rest else Located.dropBreak rest }

/-! #### Steps -/

/-- A plain scalar may start here.  A dash, a question mark or a colon starts one
only in front of something, and the latter two not within brackets. -/
def startsPlain (l : Lexer) : Bool :=
  let c := l.rest.first
  !(isEnd c || "-?:,[]\x7b\x7d#&*!|>'\"%@\x60".toList.contains c) ||
    (c == '-' && !isBlank l.rest.second) ||
    (!l.inFlow && (c == '?' || c == ':') && !isEnd l.rest.second)

/-- The token that starts here. -/
def token (l : Lexer) : Option Lexer :=
  let c := l.rest.first
  let apart := isEnd l.rest.second
  if l.column == 0 && c == '%' then l.directive
  else if l.rest.isLineMark '-' then l.documentMark .documentStart
  else if l.rest.isLineMark '.' then l.documentMark .documentEnd
  else if c == '[' then l.openFlow .listStart
  else if c == '\x7b' then l.openFlow .mapStart
  else if c == ']' then l.closeFlow .listEnd
  else if c == '\x7d' then l.closeFlow .mapEnd
  else if c == ',' then l.comma
  else if c == '-' && apart then l.item
  else if c == '?' && (l.inFlow || apart) then l.explicitKey
  else if c == ':' && (l.inFlow || apart) then l.value
  else if c == '*' then l.anchor .reference
  else if c == '&' then l.anchor .anchor
  else if c == '!' then l.tag
  else if c == '|' && !l.inFlow then l.block true
  else if c == '>' && !l.inFlow then l.block false
  else if c == '\'' then l.quoted true
  else if c == '"' then l.quoted false
  else if l.startsPlain then l.plain
  else none

/-- The tokens up to the end of the text, the last one first. -/
def run : (fuel : Nat) → Lexer → Option (List Token)
  | 0, _ => none
  | fuel + 1, l => do
    let l ← (l.skipBlank (l.rest.length + 1)).refreshAll
    let l := l.closeBlocks l.column
    if l.rest.first == endMark then return (← l.atTop).tokens
    else run fuel (← l.token)

end Lexer

/-- The tokens of a text. -/
def Token.ofText? (text : String) : Option (List Token) :=
  let cs := text.toList
  if cs.all isAllowed then
    (Lexer.run (cs.length + 2) { rest := locate {} cs }).map List.reverse
  else none

end Scaffold.Yaml
