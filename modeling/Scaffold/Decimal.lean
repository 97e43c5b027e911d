/-!
# Digits and decimal numbers

Numbers and characters written with digits, in any base up to sixteen.

Numbers in texts are decimal and are kept as doubles.  Nothing here computes with
them; all that matters is whether a number is too large for a double.

## Main definitions

* `Text.digitValue?`, `Text.valueOf`, `Text.numeral?` — digits and the numbers they stand for.
* `Text.spanDigits` — the decimal digits at the start of a text.
* `Text.hexCode?`, `Text.charOfCode?` — characters that are written by their code.
* `Decimal`, `Decimal.order` — a decimal number and how large it is.
* `nearestDouble` — a whole number rounded to the precision of a double.
* `Decimal.overflows` — the nearest double is infinite.
-/

namespace Scaffold

/-! ### Digits -/

namespace Text

/-- The value of a digit; the letters `a` to `f` count on from nine in both cases. -/
def digitValue? (c : Char) : Option Nat :=
  if c.isDigit then some (c.toNat - 48)
  else if 'a' ≤ c && c ≤ 'f' then some (c.toNat - 87)
  else if 'A' ≤ c && c ≤ 'F' then some (c.toNat - 55)
  else none

/-- The character is a digit of a base. -/
def isDigitOf (base : Nat) (c : Char) : Bool := (digitValue? c).any (· < base)

/-- The number that digits stand for, the most significant first. -/
def valueOf (base : Nat) (digits : List Char) : Nat :=
  digits.foldl (fun n c => n * base + (digitValue? c).getD 0) 0

@[simp] theorem valueOf_nil (base : Nat) : valueOf base [] = 0 := rfl

/-- The number that a text stands for if it consists of digits only. -/
def numeral? (base : Nat) (text : List Char) : Option Nat :=
  if !text.isEmpty && text.all (isDigitOf base) then some (valueOf base text) else none

/-- The decimal digits at the start of a text, and what follows them. -/
def spanDigits (text : List Char) : List Char × List Char :=
  (text.takeWhile (·.isDigit), text.dropWhile (·.isDigit))

/-- A code of exactly so many hexadecimal digits, and what follows it. -/
def hexCode? (count : Nat) (text : List Char) : Option (Nat × List Char) :=
  if (text.take count).length == count then
    (numeral? 16 (text.take count)).map (·, text.drop count)
  else none

/-- The character of a code point; there is none for half of a surrogate pair and
none beyond the last plane. -/
def charOfCode? (code : Nat) : Option Char :=
  if code.isValidChar then some (Char.ofNat code) else none

end Text

/-! ### Decimal numbers -/

/-- The number `significand` times ten to the `exponent`. -/
structure Decimal where
  /-- The digits as a whole number. -/
  significand : Nat
  /-- The power of ten they count. -/
  exponent : Int
  deriving DecidableEq, Repr

/-- From here on the nearest double is infinite: half a unit above the last finite
one, since the tie goes away from it. -/
def doubleBound : Nat := Nat.pow 2 1024 - Nat.pow 2 970

/-- The nearest whole number with at most 53 significant binary digits; a tie goes
to the even neighbour. -/
def nearestDouble (n : Nat) : Nat :=
  let unit := Nat.pow 2 (n.log2 + 1 - 53)
  let below := n / unit
  let excess := n % unit
  if unit < 2 * excess || (unit == 2 * excess && below % 2 == 1) then (below + 1) * unit
  else below * unit

namespace Decimal

/-- The number of digits before the point, or how far behind it the first one is. -/
def order (d : Decimal) : Int := (Nat.toDigits 10 d.significand).length + d.exponent

/-- The number as a quotient of whole numbers is at least `bound`. -/
def atLeast (d : Decimal) (bound : Nat) : Bool :=
  if 0 ≤ d.exponent then bound ≤ d.significand * Nat.pow 10 d.exponent.toNat
  else bound * Nat.pow 10 (-d.exponent).toNat ≤ d.significand

/-- The number is too large for a double.  Its order decides unless it is close to
that of the bound, so no large powers are formed. -/
def overflows (d : Decimal) : Bool :=
  if d.significand == 0 then false
  else if d.order < 309 then false
  else if 310 < d.order then true
  else d.atLeast doubleBound

/-- The decimal number with these digits before and behind the point, counted by a
power of ten. -/
def ofDigits (whole fraction : List Char) (exponent : Int) : Decimal where
  significand := Text.valueOf 10 (whole ++ fraction)
  exponent := exponent - fraction.length

end Decimal

end Scaffold
