import Scaffold.Decimal
import Scaffold.Node
import Scaffold.Yaml.Tree

/-!
# What YAML trees mean

A plain scalar is nothing, a truth value or a number if it looks like one, and a
text otherwise; any other scalar is a text.  A tag may force one of these.  A key is
taken as it is written.

Aliases are replaced by what they stand for, so a small text can mean a very large
tree.  The depth of the tree is limited and so is the number of replacements.

## Main definitions

* `Yaml.plainNode` — what a plain scalar means.
* `Yaml.scalarNode` — the same with tags.
* `Yaml.resolve` — what a tree means.
* `Yaml.read` — what a text means.
-/

namespace Scaffold.Yaml

open Text

/-! ### Plain scalars -/

/-- A whole number as it is written: whether it is negative, and its amount. -/
structure Whole where
  negative : Bool
  amount : Nat
  deriving DecidableEq, Repr

namespace Whole

/-- The number fits into a word of so many bits, signed if it is negative. -/
def fits (w : Whole) (bits : Nat) : Bool :=
  if w.negative then w.amount ≤ Nat.pow 2 (bits - 1) else w.amount < Nat.pow 2 bits

end Whole

/-- The text starts with zero and has more digits, and nothing else. -/
def hasLeadingZero (digits : List Char) : Bool :=
  digits.head? == some '0' && digits.length != 1 && digits.all (·.isDigit)

/-- The amount of a whole number without its sign.  A number in another base has a
mark in front; one in the base ten does not start with a zero. -/
def amount? (text : List Char) : Option Nat :=
  match text with
  | '0' :: 'x' :: digits => numeral? 16 digits
  | '0' :: 'o' :: digits => numeral? 8 digits
  | '0' :: 'b' :: digits => numeral? 2 digits
  | _ => if hasLeadingZero text then none else numeral? 10 text

/-- A whole number of at most one sign and an amount. -/
def whole? : List Char → Option Whole
  | '+' :: text => (amount? text).map (⟨false, ·⟩)
  | '-' :: text => (amount? text).map (⟨true, ·⟩)
  | text => (amount? text).map (⟨false, ·⟩)

/-- The text without a sign at its start. -/
def dropSign : List Char → List Char
  | '+' :: text | '-' :: text => text
  | text => text

/-- The text without a point at its start. -/
def dropPoint : List Char → List Char
  | '.' :: text => text
  | text => text

/-- The power of ten at the end of a number: nothing, or `e` and digits. -/
def exponent? : List Char → Option Int
  | [] => some 0
  | c :: text =>
    if c == 'e' || c == 'E' then do
      let n ← numeral? 10 (dropSign text)
      return if text.head? == some '-' then -(n : Int) else n
    else none

/-- A number in decimal notation, with a digit before or behind its point. -/
def decimal? (text : List Char) : Option Decimal := do
  let (whole, rest) := spanDigits (dropSign text)
  let (fraction, rest) :=
    if rest.head? == some '.' then spanDigits (dropPoint rest) else ([], rest)
  if whole.isEmpty && fraction.isEmpty then none
  return .ofDigits whole fraction (← exponent? rest)

/-- The words for what is no number, or no finite one. -/
def noNumberWords : List String :=
  [".inf", ".Inf", ".INF", "+.inf", "+.Inf", "+.INF", "-.inf", "-.Inf", "-.INF",
    ".nan", ".NaN", ".NAN"]

/-- The words for nothing. -/
def nullWords : List String := ["", "~", "null", "Null", "NULL"]

/-- The truth value a word stands for. -/
def truth? (text : String) : Option Bool :=
  if text == "true" || text == "True" || text == "TRUE" then some true
  else if text == "false" || text == "False" || text == "FALSE" then some false
  else none

/-- A whole number that does not fit into a word is refused unless it would not fit
into two either; then it counts by its size alone. -/
def wholeNode? (text : String) : Option (Option Node) :=
  match whole? text.toList with
  | none => none
  | some w =>
    if w.fits 64 then some (some (.number text))
    else if w.fits 128 then some none
    else none

/-- The number a text stands for, unless it is too large; infinite ones count as
nothing. -/
def floatNode? (text : String) : Option Node :=
  if noNumberWords.contains text then some .null
  else match decimal? text.toList with
    | some d => if d.overflows then none else some (.number text)
    | none => none

/-- What a plain scalar means; a number that is refused means nothing at all. -/
def plainNode (text : String) : Option Node :=
  if nullWords.contains text then some .null
  else match truth? text with
    | some b => some (.bool b)
    | none =>
      match wholeNode? text with
      | some answer => answer
      | none =>
        if hasLeadingZero (dropSign text.toList) then some (.string text)
        else some ((floatNode? text).getD (.string text))

/-! ### Tags -/

/-- What a scalar means.  The standard tags for truth values, numbers and nothing
require such a scalar; one that only its author knows is refused; any other makes it a
text, except that a tag that says nothing leaves a plain scalar as it is. -/
def scalarNode (tag : Option Tag) (plain : Bool) (text : String) : Option Node :=
  match tag with
  | none => if plain then plainNode text else some (.string text)
  | some t =>
    if t == .standard "bool" then (truth? text).map .bool
    else if t == .standard "int" then (wholeNode? text).join
    else if t == .standard "float" then floatNode? text
    else if t == .standard "null" then
      if nullWords.contains text && !text.isEmpty then some .null else none
    else if t.isLocal then none
    else if t.isGarbled && plain then plainNode text
    else some (.string text)

/-! ### Trees -/

/-- How deeply lists and maps may be nested. -/
def maxDepth : Nat := 128

/-- Replacing aliases: the number of replacements so far, or a failure. -/
abbrev Resolve := StateT Nat Option

/-- What an alias stands for.  There may be a hundred replacements for each mark of
the document. -/
def follow (d : Document) : Tree → Resolve Tree
  | .reference slot => do
    modify (· + 1)
    if 100 * d.size < (← get) then failure
    (d.tree? slot : Option Tree)
  | t => return t

/-- The text of a key, which must be a scalar. -/
def keyText (d : Document) (t : Tree) : Resolve String := do
  match ← follow d t with
  | .scalar _ _ text => return text
  | _ => failure

/-- What a tree means. -/
def resolve (d : Document) : (depth : Nat) → Tree → Resolve Node
  | 0, t => do
    match ← follow d t with
    | .scalar tag plain text => scalarNode tag plain text
    | _ => failure
  | depth + 1, t => do
    match ← follow d t with
    | .scalar tag plain text => scalarNode tag plain text
    | .list tag items =>
      if tag.any Tag.isLocal then failure
      return .list (← items.mapM (resolve d depth))
    | .map tag entries =>
      if tag.any Tag.isLocal then failure
      return .ofEntries (← entries.mapM fun (k, v) => do
        return (← keyText d k, ← resolve d depth v))
    | .reference _ => failure

/-- What a document means. -/
def Document.toNode? (d : Document) : Option Node :=
  match d.root with
  | some t => (·.1) <$> (resolve d maxDepth t).run 0
  | none => some .null

/-- What a text means. -/
def read (text : String) : Option Node := do
  let d ← Document.ofTokens? (← Token.ofText? text)
  d.toNode?

end Scaffold.Yaml
