import Scaffold.Decimal
import Scaffold.Toml.Moment
import Scaffold.Toml.Value

/-!
# TOML scalars

Strings in their four forms, and numbers.  The readers answer what they have read
and the rest of the text, or nothing; the text of a value is never given up once
its first character has decided on its form, so there is no need to try again.

## Main definitions

* `Toml.readBasic`, `Toml.readLiteral` — strings on one line.
* `Toml.readMultiline` — strings over several lines.
* `Toml.readString`, `Toml.readNumber` — the choice by the first characters.
-/

namespace Scaffold.Toml

open Text

/-! ### Characters -/

/-- A blank within a line. -/
def isSpace (c : Char) : Bool := c == ' ' || c == '\t'

/-- The text from its first character that is no blank. -/
def skipSpace (text : List Char) : List Char := text.dropWhile isSpace

/-- A character that may stand in strings and comments as it is. -/
def isPlain (c : Char) : Bool := c == '\t' || (32 ≤ c.toNat && c.toNat ≤ 126) || 128 ≤ c.toNat

/-- The text behind the end of a line that stands at its start. -/
def newline? : List Char → Option (List Char)
  | '\n' :: rest => some rest
  | '\r' :: '\n' :: rest => some rest
  | _ => none

/-! ### Strings on one line -/

/-- A character that is written by its code. -/
def readCode (count : Nat) (text : List Char) : Option (Char × List Char) := do
  let (code, rest) ← hexCode? count text
  return (← charOfCode? code, rest)

/-- The character behind a backslash. -/
def readEscape : List Char → Option (Char × List Char)
  | 'b' :: rest => some ('\x08', rest)
  | 't' :: rest => some ('\t', rest)
  | 'n' :: rest => some ('\n', rest)
  | 'f' :: rest => some ('\x0c', rest)
  | 'r' :: rest => some ('\r', rest)
  | '"' :: rest => some ('"', rest)
  | '\\' :: rest => some ('\\', rest)
  | 'u' :: rest => readCode 4 rest
  | 'U' :: rest => readCode 8 rest
  | _ => none

/-- A string with escapes behind its opening mark, after the characters `read`, the
last of which comes first. -/
def readBasic : (fuel : Nat) → (read : List Char) → List Char → Option (String × List Char)
  | fuel + 1, read, c :: rest =>
    if c == '"' then some (.ofList read.reverse, rest)
    else if c == '\\' then do
      let (escaped, rest) ← readEscape rest
      readBasic fuel (escaped :: read) rest
    else if isPlain c then readBasic fuel (c :: read) rest
    else none
  | _, _, _ => none

/-- A string without escapes behind its opening mark. -/
def readLiteral (text : List Char) : Option (String × List Char) :=
  match text.dropWhile fun c => isPlain c && c != '\'' with
  | '\'' :: rest => some (.ofList (text.takeWhile fun c => isPlain c && c != '\''), rest)
  | _ => none

/-! ### Strings over several lines -/

/-- The text behind a backslash at the end of a line: the end of the line and all
blanks and ends of lines after it are passed over. -/
def skipJoin (text : List Char) : Option (List Char) := do
  let rest ← newline? (skipSpace text)
  return dropBlanks rest.length rest
where
  /-- The text from its first character that is no blank and ends no line. -/
  dropBlanks : Nat → List Char → List Char
    | fuel + 1, c :: rest =>
      if isSpace c then dropBlanks fuel rest
      else match newline? (c :: rest) with
        | some after => dropBlanks fuel after
        | none => c :: rest
    | _, text => text

/-- A string over several lines behind its opening marks.  Fewer than three marks
are part of the string, and so are up to two in front of the closing three.  The
end of a line counts as a line feed. -/
def readMultiline (mark : Char) :
    (fuel : Nat) → (read : List Char) → List Char → Option (String × List Char)
  | fuel + 1, read, c :: rest =>
    if c == mark then
      let marks := (c :: rest).takeWhile (· == mark)
      let after := (c :: rest).dropWhile (· == mark)
      if marks.length < 3 then readMultiline mark fuel (marks ++ read) after
      else if marks.length < 6 then some (.ofList (marks.drop 3 ++ read).reverse, after)
      else none
    else match newline? (c :: rest) with
      | some after => readMultiline mark fuel ('\n' :: read) after
      | none =>
        if c == '\\' && mark == '"' then
          match skipJoin rest with
          | some after => readMultiline mark fuel read after
          | none => do
            let (escaped, rest) ← readEscape rest
            readMultiline mark fuel (escaped :: read) rest
        else if isPlain c then readMultiline mark fuel (c :: read) rest
        else none
  | _, _, _ => none

/-- A line that ends at once behind the opening marks does not count. -/
def readMultilineBody (mark : Char) (text : List Char) : Option (String × List Char) :=
  let body := (newline? text).getD text
  readMultiline mark (body.length + 1) [] body

/-- A string in the form that its marks decide. -/
def readString : List Char → Option (String × List Char)
  | '"' :: '"' :: '"' :: rest => readMultilineBody '"' rest
  | '\'' :: '\'' :: '\'' :: rest => readMultilineBody '\'' rest
  | '"' :: rest => readBasic (rest.length + 1) [] rest
  | '\'' :: rest => readLiteral rest
  | _ => none

/-! ### Numbers -/

/-- Digits after a first one, with underscores between them. -/
def readMoreDigits (isDigit : Char → Bool) : List Char → List Char × List Char
  | '_' :: c :: rest =>
    if isDigit c then
      let (digits, after) := readMoreDigits isDigit rest
      (c :: digits, after)
    else ([], '_' :: c :: rest)
  | c :: rest =>
    if isDigit c then
      let (digits, after) := readMoreDigits isDigit rest
      (c :: digits, after)
    else ([], c :: rest)
  | [] => ([], [])

/-- At least one digit, with underscores between them. -/
def readDigits (isDigit : Char → Bool) : List Char → Option (List Char × List Char)
  | c :: rest =>
    if isDigit c then
      let (digits, after) := readMoreDigits isDigit rest
      some (c :: digits, after)
    else none
  | [] => none

/-- A whole number in another base; it must fit into a signed word of 64 bits. -/
def readRadix (base : Nat) (text : List Char) : Option (Value × List Char) := do
  let (digits, rest) ← readDigits (isDigitOf base) text
  if valueOf base digits < Nat.pow 2 63 then some (.number (.ofList digits), rest) else none

/-- The digits in front of a decimal point: a zero alone, or digits that do not start
with one. -/
def readWhole : List Char → Option (List Char × List Char)
  | '0' :: rest => some (['0'], rest)
  | text => readDigits (·.isDigit) text

/-- The digits behind a decimal point, if there is one. -/
def readFraction : List Char → Option (List Char × List Char)
  | '.' :: rest => readDigits (·.isDigit) rest
  | text => some ([], text)

/-- A sign in front of a number: whether it is a minus. -/
def readSign : List Char → Bool × List Char
  | '-' :: rest => (true, rest)
  | '+' :: rest => (false, rest)
  | text => (false, text)

/-- The power of ten behind `e`, if there is one. -/
def readExponent : List Char → Option (Option Int × List Char)
  | [] => some (none, [])
  | c :: rest =>
    if c == 'e' || c == 'E' then do
      let (negative, rest) := readSign rest
      let (digits, rest) ← readDigits (·.isDigit) rest
      let n : Int := valueOf 10 digits
      return (some (if negative then -n else n), rest)
    else some (none, c :: rest)

/-- A whole number must fit into a signed word of 64 bits. -/
def fitsWord (negative : Bool) (n : Nat) : Bool :=
  if negative then n ≤ Nat.pow 2 63 else n < Nat.pow 2 63

/-- The value of a number with a point or an exponent.  One that is too large has
none, but below zero it passes for infinite. -/
def floatValue (negative : Bool) (d : Decimal) (literal : String) : Option Value :=
  if !d.overflows then some (.number literal)
  else if negative then some .noNumber
  else none

/-- A number in decimal notation, behind its sign. -/
def readDecimal (negative : Bool) (text : List Char) : Option (Value × List Char) := do
  let (whole, rest) ← readWhole text
  let (fraction, rest) ← readFraction rest
  let (exponent, rest) ← readExponent rest
  let literal : String := .ofList (text.take (text.length - rest.length))
  if fraction.isEmpty && exponent.isNone then
    if fitsWord negative (valueOf 10 whole) then return (.number literal, rest) else none
  else
    let d := Decimal.ofDigits whole fraction (exponent.getD 0)
    return (← floatValue negative d literal, rest)

/-- A number, or one of the words for what is none. -/
def readNumber (text : List Char) : Option (Value × List Char) :=
  match text with
  | '0' :: 'x' :: rest => readRadix 16 rest
  | '0' :: 'o' :: rest => readRadix 8 rest
  | '0' :: 'b' :: rest => readRadix 2 rest
  | _ =>
    let (negative, rest) := readSign text
    match rest with
    | 'i' :: 'n' :: 'f' :: rest => some (.noNumber, rest)
    | 'n' :: 'a' :: 'n' :: rest => some (.noNumber, rest)
    | rest => readDecimal negative rest

/-- A date or time, a number or a truth value. -/
def readWord : List Char → Option (Value × List Char)
  | 't' :: 'r' :: 'u' :: 'e' :: rest => some (.boolean true, rest)
  | 'f' :: 'a' :: 'l' :: 's' :: 'e' :: rest => some (.boolean false, rest)
  | text =>
    match readMoment text with
    | some (m, rest) => some (.moment m.text, rest)
    | none => readNumber text

end Scaffold.Toml
