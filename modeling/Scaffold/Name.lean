import Scaffold.Text.CaseMapping

/-!
# Names

A name is cut into words at `_`, `-` and blanks, which are dropped, and at the
places where its case changes.  A run of capitals counts as one word whose last
letter starts the next word when a small letter follows it: `HTTPServer` is
`http` and `Server`.

Whether a cut falls between two characters depends on these two and the one
after them (`startsWord`), so the words are found by looking at neighbours only.

A style of writing puts the words together again: each with a capital first letter, or
all in small letters with a mark between them.

## Main definitions

* `isSeparator`, `startsWord` — where the cuts are.
* `pieces` — the stretches between the cuts, as they stand.
* `words` — the same, a piece without small letters put in small letters.
* `isValid` — what may be declared as a name.
* `camelCase`, `lowerCamelCase` — `UserName`, `userName`.
* `underscored`, `hyphenated` — `user_name`, `user-name`.
-/

namespace Scaffold.Name

open Text

/-! ### The words of a name -/

/-- A character that parts words and belongs to none. -/
def isSeparator (c : Char) : Bool := c == '_' || c == '-' || isBlank c

/-- A cut falls between the neighbours `p` and `c`, the second being a capital:
after a small letter or an ASCII digit, and at the last capital of a run that a
small letter ends. -/
def startsWord (p c : Char) (next : Option Char) : Bool :=
  isUppercase c &&
    (isLowercase p || p.isDigit || (isUppercase p && next.any isLowercase))

/-- The character before `rest` is in one word with the first character of `rest`. -/
def joins (p : Char) : List Char → Bool
  | [] => false
  | c :: rest => !isSeparator c && !startsWord p c rest.head?

/-- Put a character in front of the first piece. -/
def extendHead (c : Char) : List (List Char) → List (List Char)
  | [] => [[c]]
  | piece :: rest => (c :: piece) :: rest

/-- The stretches between the cuts. -/
def pieces : List Char → List (List Char)
  | [] => []
  | c :: rest =>
    if isSeparator c then pieces rest
    else if joins c rest then extendHead c (pieces rest)
    else [c] :: pieces rest

/-- A piece with a small letter is kept, any other is put in small letters. -/
def settle (piece : List Char) : List Char :=
  if piece.any isLowercase then piece else lowercaseWord piece

/-- The words of a name. -/
def words (name : List Char) : List (List Char) := (pieces name).map settle

@[simp] theorem pieces_nil : pieces [] = [] := rfl

theorem pieces_cons_separator {c : Char} (h : isSeparator c = true) (rest : List Char) :
    pieces (c :: rest) = pieces rest := by simp [pieces, h]

theorem pieces_of_joins {c : Char} {rest : List Char} (hc : isSeparator c = false)
    (h : joins c rest = true) : pieces (c :: rest) = extendHead c (pieces rest) := by
  rw [pieces, if_neg (by simp [hc]), if_pos h]

theorem pieces_of_not_joins {c : Char} {rest : List Char} (hc : isSeparator c = false)
    (h : joins c rest = false) : pieces (c :: rest) = [c] :: pieces rest := by
  rw [pieces, if_neg (by simp [hc]), if_neg (by simp [h])]

theorem settle_eq_nil_iff {piece : List Char} : settle piece = [] ↔ piece = [] := by
  unfold settle
  split
  · exact Iff.rfl
  · exact lowercaseWord_eq_nil_iff

@[simp] theorem words_nil : words [] = [] := rfl

/-- A name may hold letters, numbers, `_` and `-`, and must hold something.  Then
it cannot leave a directory once it is part of a path. -/
def isValid (name : String) : Bool :=
  !name.isEmpty && name.toList.all fun c => isAlphanumeric c || c == '_' || c == '-'

/-! ### Styles of writing -/

/-- The first character in capitals, the others as they are. -/
def capitalizeChars : List Char → List Char
  | [] => []
  | c :: rest => toUppercase c ++ rest

/-- The first character in small letters, the others as they are. -/
def decapitalizeChars : List Char → List Char
  | [] => []
  | c :: rest => toLowercase c ++ rest

/-- The words, each with a capital first letter, with `glue` between them. -/
def camelChars (glue name : List Char) : List Char :=
  glue.intercalate ((words name).map capitalizeChars)

/-- The words in small letters with a mark between them. -/
def joinedChars (mark name : List Char) : List Char :=
  mark.intercalate ((words name).map lowercaseWord)

/-- The first character in capitals. -/
def capitalize (word : String) : String := .ofList (capitalizeChars word.toList)

/-- The first character in small letters. -/
def decapitalize (word : String) : String := .ofList (decapitalizeChars word.toList)

/-- The name in camel case, its words parted by `glue`. -/
def camelCaseWith (glue name : String) : String := .ofList (camelChars glue.toList name.toList)

/-- The name in camel case, as in `UserName`. -/
def camelCase (name : String) : String := .ofList (camelChars [] name.toList)

/-- The name in camel case with a small first letter, as in `userName`. -/
def lowerCamelCase (name : String) : String :=
  .ofList (decapitalizeChars (camelChars [] name.toList))

/-- The name in small letters, as in `user_name`. -/
def underscored (name : String) : String := .ofList (joinedChars ['_'] name.toList)

/-- The name in small letters, as in `user-name`. -/
def hyphenated (name : String) : String := .ofList (joinedChars ['-'] name.toList)

end Scaffold.Name
