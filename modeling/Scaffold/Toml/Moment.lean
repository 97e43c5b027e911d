import Scaffold.Decimal
import Scaffold.Toml.Value

/-!
# Dates and times

A date, a time of day, or both, and with both perhaps the distance to universal
time.  They are written again in one form whatever the text looked like: a `T`
between date and time, no zeros at the end of a fraction.

In a tree a date or time is kept as a table with a key of its own.  Whoever reads such
a tree takes every table with this key at its start for a date or time, so the table
has to hold the text of one; what else it holds does not matter.

## Main definitions

* `Toml.Moment`, `Toml.Moment.text` — dates and times, and how they are written.
* `Toml.readMoment` — the reading.
* `Toml.isMomentText` — the laxer reading of a date or time that is kept as a text.
* `Toml.Value.isSound`, `Toml.Table.isSound` — every table that is taken for a date or time
  holds one.
-/

namespace Scaffold.Toml

open Text

/-! ### Parts -/

/-- A day of the calendar. -/
structure Date where
  year : Nat
  month : Nat
  day : Nat
  deriving DecidableEq, Repr

/-- A time of day, the fraction of its second by digits. -/
structure Time where
  hour : Nat
  minute : Nat
  second : Nat
  fraction : List Char := []
  deriving DecidableEq, Repr

/-- The distance to universal time. -/
inductive Offset where
  /-- Universal time itself. -/
  | zero
  /-- So many minutes ahead of it. -/
  | ahead (minutes : Nat)
  /-- So many minutes behind it. -/
  | behind (minutes : Nat)
  deriving DecidableEq, Repr

/-- A date, a time, or both. -/
structure Moment where
  date : Option Date := none
  time : Option Time := none
  offset : Option Offset := none
  deriving DecidableEq, Repr

/-- The number of days in a month. -/
def daysIn (year month : Nat) : Nat :=
  if month == 2 then
    if year % 4 == 0 && (year % 100 != 0 || year % 400 == 0) then 29 else 28
  else if month == 4 || month == 6 || month == 9 || month == 11 then 30
  else 31

/-! ### Writing -/

/-- A number with zeros in front of it up to a width. -/
def padded (width n : Nat) : String :=
  let digits := Nat.toDigits 10 n
  .ofList (List.replicate (width - digits.length) '0' ++ digits)

/-- A date as it is written. -/
def Date.text (d : Date) : String :=
  padded 4 d.year ++ "-" ++ padded 2 d.month ++ "-" ++ padded 2 d.day

/-- The first nine digits of a fraction without the zeros at their end. -/
def significantFraction (digits : List Char) : List Char :=
  ((digits.take 9).reverse.dropWhile (· == '0')).reverse

/-- A time as it is written. -/
def Time.text (t : Time) : String :=
  let fraction := significantFraction t.fraction
  padded 2 t.hour ++ ":" ++ padded 2 t.minute ++ ":" ++ padded 2 t.second ++
    (if fraction.isEmpty then "" else "." ++ .ofList fraction)

/-- Hours and minutes behind a sign. -/
def offsetText (sign : String) (minutes : Nat) : String :=
  sign ++ padded 2 (minutes / 60) ++ ":" ++ padded 2 (minutes % 60)

/-- A distance as it is written; none at all is one ahead. -/
def Offset.text : Offset → String
  | zero => "Z"
  | ahead minutes => offsetText "+" minutes
  | behind minutes => offsetText (if minutes == 0 then "+" else "-") minutes

/-- A date or time as it is written. -/
def Moment.text (m : Moment) : String :=
  let date := (m.date.map Date.text).getD ""
  let time := (m.time.map Time.text).getD ""
  let offset := (m.offset.map Offset.text).getD ""
  date ++ (if m.date.isSome && m.time.isSome then "T" else "") ++ time ++ offset

/-! ### Reading -/

/-- A number of exactly so many digits that lies between two bounds. -/
def readField (width least greatest : Nat) (text : List Char) : Option (Nat × List Char) :=
  let digits := text.take width
  let n := valueOf 10 digits
  if digits.length == width && digits.all (·.isDigit) && least ≤ n && n ≤ greatest then
    some (n, text.drop width)
  else none

/-- The text behind a character that must come first. -/
def expect (c : Char) : List Char → Option (List Char)
  | d :: rest => if d == c then some rest else none
  | [] => none

/-- A date; the day must be one of its month. -/
def readDate (text : List Char) : Option (Date × List Char) := do
  let (year, rest) ← readField 4 0 9999 text
  let (month, rest) ← readField 2 1 12 (← expect '-' rest)
  let (day, rest) ← readField 2 1 (daysIn year month) (← expect '-' rest)
  return (⟨year, month, day⟩, rest)

/-- The fraction of a second, if a point and a digit follow. -/
def readSecondFraction : List Char → List Char × List Char
  | '.' :: rest =>
    let (digits, after) := spanDigits rest
    if digits.isEmpty then ([], '.' :: rest) else (digits, after)
  | text => ([], text)

/-- A time of a day with hours up to the last one; a minute may have a leap second. -/
def readTimeUpTo (lastHour : Nat) (text : List Char) : Option (Time × List Char) := do
  let (hour, rest) ← readField 2 0 lastHour text
  let (minute, rest) ← readField 2 0 59 (← expect ':' rest)
  let (second, rest) ← readField 2 0 60 (← expect ':' rest)
  let (fraction, rest) := readSecondFraction rest
  return (⟨hour, minute, second, fraction⟩, rest)

/-- A time of day. -/
def readTime : List Char → Option (Time × List Char) := readTimeUpTo 23

/-- Hours and minutes as minutes. -/
def readMinutes (text : List Char) : Option (Nat × List Char) := do
  let (hour, rest) ← readField 2 0 23 text
  let (minute, rest) ← readField 2 0 59 (← expect ':' rest)
  return (60 * hour + minute, rest)

/-- The distance to universal time, if one follows. -/
def readOffset : List Char → Option Offset × List Char
  | 'Z' :: rest | 'z' :: rest => (some .zero, rest)
  | '+' :: rest =>
    match readMinutes rest with
    | some (minutes, after) => (some (.ahead minutes), after)
    | none => (none, '+' :: rest)
  | '-' :: rest =>
    match readMinutes rest with
    | some (minutes, after) => (some (.behind minutes), after)
    | none => (none, '-' :: rest)
  | text => (none, text)

/-- The mark between a date and a time. -/
def isTimeMark (c : Char) : Bool := c == 'T' || c == 't' || c == ' '

/-- The time of a date, if a mark and a time follow. -/
def readTimeOfDate : List Char → Option (Time × List Char)
  | c :: rest => if isTimeMark c then readTime rest else none
  | [] => none

/-- A date with or without a time, or a time alone. -/
def readMoment (text : List Char) : Option (Moment × List Char) :=
  match readDate text with
  | some (date, rest) =>
    match readTimeOfDate rest with
    | some (time, rest) =>
      let (offset, rest) := readOffset rest
      some ({ date, time, offset }, rest)
    | none => some ({ date }, rest)
  | none => (readTime text).map fun (time, rest) => ({ time }, rest)

/-! ### Kept texts

A date or time that is kept as a text may be midnight at the end of its day, and its
distance to universal time may be any up to a whole day. -/

/-- The text is the distance to universal time, or nothing. -/
def isOffsetText : List Char → Bool
  | [] | ['Z'] | ['z'] => true
  | sign :: text => (sign == '+' || sign == '-') && ((do
      let (hours, rest) ← readField 2 0 99 text
      let (minutes, rest) ← readField 2 0 99 (← expect ':' rest)
      return rest.isEmpty && 60 * hours + minutes ≤ 24 * 60).getD false)

/-- The text is a date with or without a time, or a time alone. -/
def isMomentText (text : List Char) : Bool :=
  match readDate text with
  | some (_, []) => true
  | some (_, mark :: rest) =>
    isTimeMark mark && (readTimeUpTo 24 rest).any fun (_, rest) => isOffsetText rest
  | none => (readTimeUpTo 24 text).any fun (_, rest) => rest.isEmpty

/-! ### Dates that are kept in tables -/

namespace Value

/-- The value is the text of a date or time. -/
def isMoment : Value → Bool
  | string text => isMomentText text.toList
  | _ => false

mutual

/-- Every table in the value that is taken for a date or time holds one. -/
def isSound : Value → Bool
  | array items => areSound items
  | table entries => isSoundTable entries
  | _ => true

/-- The items of an array are sound. -/
def areSound : List Value → Bool
  | [] => true
  | v :: rest => v.isSound && areSound rest

/-- The table holds a date or time, or what it holds is sound. -/
def isSoundTable : List (String × Value) → Bool
  | [] => true
  | (key, v) :: rest =>
    if key == momentKey then v.isMoment else v.isSound && areSoundEntries rest

/-- The entries of a table are sound. -/
def areSoundEntries : List (String × Value) → Bool
  | [] => true
  | (_, v) :: rest => v.isSound && areSoundEntries rest

end

end Value

/-- The tables in a table are sound. -/
def Table.isSound (t : Table) : Bool := Value.areSoundEntries t

end Scaffold.Toml
