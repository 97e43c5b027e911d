import Scaffold.Decimal
import Scaffold.Node

/-!
# Reading JSON

The strict grammar: no comments, no trailing commas, no other blanks than the
four.  On top of it, nesting is limited, a number must have a finite double, and
a text must hold whole characters only.  Of two entries of an object with one key
the later counts.

The readers answer what they have read and the rest of the text.  Recursion is
bounded by a measure of the text, which `read` supplies.

## Main definitions

* `Json.readString`, `Json.readNumber` — scalars.
* `Json.readValue` — any value.
* `Json.read` — a whole text.
-/

namespace Scaffold.Json

open Text

/-- How deeply lists and objects may be nested. -/
def maxDepth : Nat := 127

/-- A blank between the parts of a text. -/
def isSpace (c : Char) : Bool := c == ' ' || c == '\n' || c == '\t' || c == '\r'

/-- The text from its first character that is no blank. -/
def skipSpace (text : List Char) : List Char := text.dropWhile isSpace

/-! ### Strings -/

/-- The first half of a surrogate pair. -/
def isLeadingHalf (unit : Nat) : Bool := 0xD800 ≤ unit && unit ≤ 0xDBFF

/-- The second half of a surrogate pair. -/
def isTrailingHalf (unit : Nat) : Bool := 0xDC00 ≤ unit && unit ≤ 0xDFFF

/-- A character that is written as one or two units of four digits; half a pair is
no character. -/
def readUnits (text : List Char) : Option (Char × List Char) := do
  let (first, rest) ← hexCode? 4 text
  if isLeadingHalf first then
    match rest with
    | '\\' :: 'u' :: rest => do
      let (second, rest) ← hexCode? 4 rest
      if isTrailingHalf second then
        return (Char.ofNat (0x10000 + (first - 0xD800) * 0x400 + (second - 0xDC00)), rest)
      else none
    | _ => none
  else return (← charOfCode? first, rest)

/-- The character behind a backslash. -/
def readEscape : List Char → Option (Char × List Char)
  | '"' :: rest => some ('"', rest)
  | '\\' :: rest => some ('\\', rest)
  | '/' :: rest => some ('/', rest)
  | 'b' :: rest => some ('\x08', rest)
  | 'f' :: rest => some ('\x0c', rest)
  | 'n' :: rest => some ('\n', rest)
  | 'r' :: rest => some ('\r', rest)
  | 't' :: rest => some ('\t', rest)
  | 'u' :: rest => readUnits rest
  | _ => none

/-- A string behind its opening quotation mark, after the characters `read`, the
last of which comes first.  Control characters must be escaped. -/
def readString : (fuel : Nat) → (read : List Char) → List Char → Option (String × List Char)
  | fuel + 1, read, c :: rest =>
    if c == '"' then some (.ofList read.reverse, rest)
    else if c == '\\' then do
      let (escaped, rest) ← readEscape rest
      readString fuel (escaped :: read) rest
    else if c.toNat < 32 then none
    else readString fuel (c :: read) rest
  | _, _, _ => none

/-! ### Numbers -/

/-- As many digits as a word of 64 bits can hold, after those read before; the other
digits are left. -/
def absorb (significand : Nat) : List Char → Nat × List Char
  | [] => (significand, [])
  | c :: rest =>
    let next := significand * 10 + (digitValue? c).getD 0
    if next < Nat.pow 2 64 then absorb next rest else (significand, c :: rest)

/-- The number as it is kept.  Digits that do not fit count by their place only. -/
def keptDecimal (whole fraction : List Char) (exponent : Int) : Decimal :=
  let (front, extra) := absorb 0 whole
  let (significand, dropped) := absorb front fraction
  let places : Int := (fraction.length : Int) - dropped.length
  ⟨significand, exponent + extra.length - places⟩

/-- Both factors are rounded before they are multiplied, and no double stands for
the product. -/
def overflows (d : Decimal) : Bool :=
  d.significand != 0 && (308 < d.exponent || (0 ≤ d.exponent &&
    doubleBound ≤ nearestDouble d.significand * nearestDouble (Nat.pow 10 d.exponent.toNat)))

/-- The digits behind a decimal point, if there is one. -/
def readFraction : List Char → Option (List Char × List Char)
  | '.' :: rest =>
    let (digits, rest) := spanDigits rest
    if digits.isEmpty then none else some (digits, rest)
  | rest => some ([], rest)

/-- A sign in front of an exponent. -/
def readSign : List Char → Int × List Char
  | '-' :: rest => (-1, rest)
  | '+' :: rest => (1, rest)
  | rest => (1, rest)

/-- The power of ten behind `e`, if there is one. -/
def readExponent : List Char → Option (Int × List Char)
  | [] => some (0, [])
  | c :: rest =>
    if c == 'e' || c == 'E' then
      let (sign, rest) := readSign rest
      let (digits, rest) := spanDigits rest
      if digits.isEmpty then none else some (sign * valueOf 10 digits, rest)
    else some (0, c :: rest)

/-- The text without a minus at its start. -/
def dropMinus : List Char → List Char
  | '-' :: rest => rest
  | text => text

/-- A number.  The digits before the point start with zero only if there is no
other. -/
def readNumber (text : List Char) : Option (Node × List Char) := do
  let (whole, rest) := spanDigits (dropMinus text)
  if whole.isEmpty || (whole.head? == some '0' && whole.length != 1) then none
  let (fraction, rest) ← readFraction rest
  let (exponent, rest) ← readExponent rest
  if overflows (keptDecimal whole fraction exponent) then none
  return (.number (.ofList (text.take (text.length - rest.length))), rest)

/-! ### Values -/

mutual

/-- A value, nested at most so deeply. -/
def readValue : (fuel depth : Nat) → List Char → Option (Node × List Char)
  | _, _, 'n' :: 'u' :: 'l' :: 'l' :: rest => some (.null, rest)
  | _, _, 't' :: 'r' :: 'u' :: 'e' :: rest => some (.bool true, rest)
  | _, _, 'f' :: 'a' :: 'l' :: 's' :: 'e' :: rest => some (.bool false, rest)
  | _, _, '"' :: rest => do
    let (s, rest) ← readString (rest.length + 1) [] rest
    return (.string s, rest)
  | fuel + 1, depth + 1, '[' :: rest =>
    match skipSpace rest with
    | ']' :: rest => some (.list [], rest)
    | rest => do
      let (items, rest) ← readItems fuel depth rest
      return (.list items, rest)
  | fuel + 1, depth + 1, '\x7b' :: rest =>
    match skipSpace rest with
    | '\x7d' :: rest => some (.map [], rest)
    | rest => do
      let (entries, rest) ← readEntries fuel depth rest
      return (.ofEntries entries, rest)
  | _, _, text => readNumber text

/-- The items of a list up to its end; there is at least one. -/
def readItems : (fuel depth : Nat) → List Char → Option (List Node × List Char)
  | 0, _, _ => none
  | fuel + 1, depth, text => do
    let (item, rest) ← readValue fuel depth text
    match skipSpace rest with
    | ',' :: rest => do
      let (items, rest) ← readItems fuel depth (skipSpace rest)
      return (item :: items, rest)
    | ']' :: rest => return ([item], rest)
    | _ => none

/-- The entries of an object up to its end; there is at least one. -/
def readEntries : (fuel depth : Nat) → List Char → Option (List (String × Node) × List Char)
  | fuel + 1, depth, '"' :: text => do
    let (key, rest) ← readString (text.length + 1) [] text
    match skipSpace rest with
    | ':' :: rest => do
      let (value, rest) ← readValue fuel depth (skipSpace rest)
      match skipSpace rest with
      | ',' :: rest => do
        let (entries, rest) ← readEntries fuel depth (skipSpace rest)
        return ((key, value) :: entries, rest)
      | '\x7d' :: rest => return ([(key, value)], rest)
      | _ => none
    | _ => none
  | _, _, _ => none

end

/-- A whole text: one value with blanks around it. -/
def read (text : String) : Option Node := do
  let start := skipSpace text.toList
  let (node, rest) ← readValue (2 * start.length + 1) maxDepth start
  if (skipSpace rest).isEmpty then some node else none

end Scaffold.Json
