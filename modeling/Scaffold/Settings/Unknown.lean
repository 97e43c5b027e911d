import Scaffold.Path
import Scaffold.Text.Distance
import Scaffold.Text.Lines

/-!
# Unknown keys in settings

A key of a settings file that means nothing is no fault, but worth a word: most
often it is a known key with a slip of the pen.

## Main definitions

* `settingKeys`, `suggestion?` — the known keys, and the one that was meant.
* `UnknownKey` — what is said about an unknown key.
-/

namespace Scaffold

/-- The keys of settings. -/
def settingKeys : List String :=
  ["output", "directory", "extension", "naming", "root_namespace", "templates"]

/-- The nearest of some keys, and how near it is; of several equally near ones the
first. -/
def nearest? (key : String) (candidates : List String) : Option (String × Nat) :=
  candidates.foldl (fun best candidate =>
    let d := Text.byteDistance key candidate
    match best with
    | none => some (candidate, d)
    | some (held, least) => if d < least then some (candidate, d) else some (held, least)) none

/-- The known key that was meant, if one is no more than two bytes away. -/
def suggestion? (key : String) : Option String :=
  match nearest? key settingKeys with
  | some (candidate, d) => if d ≤ 2 then some candidate else none
  | none => none

/-- A key of a settings file that means nothing. -/
structure UnknownKey where
  /-- The key. -/
  key : String
  /-- The file it stands in. -/
  file : Path
  /-- The first line of the file that mentions the key. -/
  line? : Option Nat
  /-- The key that was meant. -/
  suggestion? : Option String
  deriving DecidableEq, Repr

namespace UnknownKey

/-- What is to be said about a key of a file with this text. -/
def ofText (file : Path) (text key : String) : UnknownKey where
  key := key
  file := file
  line? := Text.lineOf? key text
  suggestion? := Scaffold.suggestion? key

/-- The place of the key. -/
def place (w : UnknownKey) : String :=
  match w.line? with
  | some n => s!"{w.file.text}:{n}"
  | none => w.file.text

/-- The text of the warning. -/
def message (w : UnknownKey) : String :=
  let start := s!"unknown config key '{w.key}' in {w.place}"
  match w.suggestion? with
  | some s => s!"{start} (did you mean '{s}'?)"
  | none => start

end UnknownKey

end Scaffold
