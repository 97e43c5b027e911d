import Scaffold.Text.CharacterClass
import Scaffold.Decimal

/-!
# Patterns

A pattern is a regular expression: alternatives, groups in parentheses, classes in
brackets, repetitions and escapes.  The only question here is which texts are
patterns, not what they match.

Neither groups that look ahead or behind nor the boundaries of words are known, and
a repetition has no count.

## Main definitions

* `PatternItem`, `readPatternEscape` — what an escape stands for.
* `readPatternClass` — a class in brackets.
* `isPattern` — the text is a pattern.
-/

namespace Scaffold.Text

/-! ### Escapes -/

/-- What stands for itself in a pattern. -/
inductive PatternItem where
  /-- A character. -/
  | char (c : Char)
  /-- Any of many characters. -/
  | many
  /-- A place in the text. -/
  | place
  deriving DecidableEq, Repr

/-- The letters of classes that are found everywhere. -/
def patternClassLetters : List Char := ['d', 's', 'w', 'D', 'S', 'W']

/-- The letters of the large classes of characters. -/
def patternCategories : List Char := ['c', 'l', 'm', 'n', 'p', 's', 'z']

/-- The letters of control characters. -/
def patternControls : List (Char × Char) :=
  [('a', '\x07'), ('f', '\x0c'), ('t', '\t'), ('n', '\n'), ('r', '\r'), ('v', '\x0b')]

/-- The marks that repeat what stands in front of them. -/
def patternRepeats : List Char := ['?', '*', '+']

/-- A mark that may be escaped. -/
def isPatternMark (c : Char) : Bool :=
  c.toNat < 128 && !c.isAlphanum && c != '<' && c != '>'

/-- A character that is written by its code. -/
def readPatternCode (count : Nat) (text : List Char) : Option (PatternItem × List Char) := do
  let (code, rest) ← hexCode? count text
  return (.char (← charOfCode? code), rest)

/-- What stands behind a backslash. -/
def readPatternEscape : List Char → Option (PatternItem × List Char)
  | [] => none
  | 'x' :: rest => readPatternCode 2 rest
  | 'u' :: rest => readPatternCode 4 rest
  | 'U' :: rest => readPatternCode 8 rest
  | 'p' :: c :: rest | 'P' :: c :: rest =>
    if patternCategories.contains c.toLower then some (.many, rest) else none
  | c :: rest =>
    if patternClassLetters.contains c then some (.many, rest)
    else if c == 'A' || c == 'z' then some (.place, rest)
    else match patternControls.lookup c with
      | some control => some (.char control, rest)
      | none => if isPatternMark c then some (.char c, rest) else none

/-! ### Classes -/

/-- The text behind the start of a class: a negation, dashes, and, if there are none, a
bracket that closes nothing yet. -/
def openPatternClass (text : List Char) : List Char :=
  let start := if text.head? == some '^' then text.tail else text
  if start.head? == some ']' then start.tail else start.dropWhile (· == '-')

/-- An item of a class. -/
def readClassItem : List Char → Option (PatternItem × List Char)
  | '\\' :: rest => readPatternEscape rest
  | c :: rest => some (.char c, rest)
  | [] => none

/-- A range goes from a character to one that is no smaller. -/
def isPatternRange : PatternItem → PatternItem → Bool
  | .char a, .char b => a ≤ b
  | _, _ => false

/-- The text behind a class within so many others.  Two equal marks combine what
stands on either side. -/
def readPatternClass : (fuel depth : Nat) → List Char → Option (List Char)
  | fuel + 1, depth, '[' :: rest => readPatternClass fuel (depth + 1) (openPatternClass rest)
  | _ + 1, 0, ']' :: rest => some rest
  | fuel + 1, depth + 1, ']' :: rest => readPatternClass fuel depth rest
  | fuel + 1, depth, '&' :: '&' :: rest => readPatternClass fuel depth rest
  | fuel + 1, depth, '-' :: '-' :: rest => readPatternClass fuel depth rest
  | fuel + 1, depth, '~' :: '~' :: rest => readPatternClass fuel depth rest
  | fuel + 1, depth, text => do
    let (first, rest) ← readClassItem text
    match rest with
    | '-' :: c :: after =>
      if c == ']' || c == '-' then
        if first == .place then none else readPatternClass fuel depth rest
      else
        let (last, rest) ← readClassItem (c :: after)
        if isPatternRange first last then readPatternClass fuel depth rest else none
    | _ => if first == .place then none else readPatternClass fuel depth rest
  | 0, _, _ => none

/-! ### Groups -/

/-- A character of the name of a group. -/
def isGroupNameChar (c : Char) : Bool := isAlphanumeric c || ['_', '.', '[', ']'].contains c

/-- The text is a name for a group. -/
def isGroupName : List Char → Bool
  | [] => false
  | c :: rest => (isAlphanumeric c || c == '_') && !c.isDigit && rest.all isGroupNameChar

/-- The text switches ways of matching on, and, behind a dash, off. -/
def isPatternFlags (flags : List Char) : Bool :=
  flags.all "imsUuRx-".toList.contains && decide flags.Nodup && flags.getLast? != some '-'

/-- What a parenthesis opens. -/
inductive PatternOpening where
  /-- A group, perhaps with a name. -/
  | group (name : Option (List Char))
  /-- Nothing: it switches something and is closed already. -/
  | switch
  deriving DecidableEq, Repr

/-- The name of a group up to its end. -/
def readGroupName (text : List Char) : Option (PatternOpening × List Char) :=
  let name := text.takeWhile (· != '>')
  match text.drop name.length with
  | _ :: rest => if isGroupName name then some (.group (some name), rest) else none
  | [] => none

/-- What stands behind a parenthesis that opens. -/
def readOpening : List Char → Option (PatternOpening × List Char)
  | '?' :: 'P' :: '<' :: rest | '?' :: '<' :: rest => readGroupName rest
  | '?' :: rest =>
    let flags := rest.takeWhile fun c => c != ':' && c != ')'
    if !isPatternFlags flags then none
    else match rest.drop flags.length with
      | ':' :: rest => some (.group none, rest)
      | _ :: rest => if flags.isEmpty then none else some (.switch, rest)
      | [] => none
  | text => some (.group none, text)

/-! ### Patterns -/

/-- The text is the rest of a pattern, within so many groups, some of which have names.
Whether there is something to repeat depends on what came before. -/
def isPatternRest : (fuel depth : Nat) → (repeatable : Bool) → (names : List (List Char)) →
    List Char → Bool
  | _, depth, _, _, [] => depth == 0
  | 0, _, _, _, _ => false
  | fuel + 1, depth, _, names, '(' :: rest =>
    match readOpening rest with
    | some (.group (some name), rest) =>
      !names.contains name && isPatternRest fuel (depth + 1) false (name :: names) rest
    | some (.group none, rest) => isPatternRest fuel (depth + 1) false names rest
    | some (.switch, rest) => isPatternRest fuel depth false names rest
    | none => false
  | fuel + 1, depth, _, names, ')' :: rest =>
    depth != 0 && isPatternRest fuel (depth - 1) true names rest
  | fuel + 1, depth, _, names, '|' :: rest => isPatternRest fuel depth false names rest
  | fuel + 1, depth, _, names, '[' :: rest =>
    match readPatternClass (rest.length + 1) 0 (openPatternClass rest) with
    | some rest => isPatternRest fuel depth true names rest
    | none => false
  | fuel + 1, depth, _, names, '\\' :: rest =>
    match readPatternEscape rest with
    | some (_, rest) => isPatternRest fuel depth true names rest
    | none => false
  | fuel + 1, depth, repeatable, names, c :: rest =>
    if c == '\x7b' then false
    else (repeatable || !patternRepeats.contains c) && isPatternRest fuel depth true names rest

/-- The text is a pattern. -/
def isPattern (text : List Char) : Bool := isPatternRest text.length 0 false [] text

end Scaffold.Text
