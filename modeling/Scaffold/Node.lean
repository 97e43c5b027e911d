import Scaffold.Dict

/-!
# Node trees

What a schema text holds before anyone asks what it means: scalars, lists and
maps.  The same trees arrive from every text format, and the views of results
that other programs read are trees again.

A map is kept as its entries by ascending key, so whoever walks over it meets
them in the order of code points whatever the text said.

Trees are written as JSON with two blanks for each level, one item to a line and
the keys of a map in ascending order.  Empty lists and maps stay on one line.

## Main definitions

* `Node`, `Node.ofEntries` — trees, and maps from entries in any order.
* `Node.kind` — the word for a node in messages.
* `quoted`, `Node.render` — a text between quotation marks, and a tree as text.
-/

namespace Scaffold

/-! ### Trees -/

/-- A tree of scalars, lists and maps.  A number keeps its text: nothing ever
depends on its value. -/
inductive Node where
  | null
  | bool (value : Bool)
  | number (literal : String)
  | string (value : String)
  | list (items : List Node)
  | map (entries : List (String × Node))
  deriving Inhabited, Repr

namespace Node

/-- The word for the kind of a node. -/
def kind : Node → String
  | null => "null"
  | bool _ => "boolean"
  | number _ => "number"
  | string _ => "string"
  | list _ => "list"
  | map _ => "map"

/-- A map from entries in any order; of two with one key the later counts. -/
def ofEntries (entries : List (String × Node)) : Node := .map (Dict.ofList entries).entries

/-- A map from a dictionary. -/
def ofDict (d : Dict String Node) : Node := .map d.entries

/-- The node under a key of a map. -/
def field? (key : String) (entries : List (String × Node)) : Option Node :=
  Dict.lookup key entries

end Node

/-! ### Trees as text -/

/-- The last four hexadecimal digits of a code point. -/
def hexDigits4 (n : Nat) : List Char :=
  [n / 4096 % 16, n / 256 % 16, n / 16 % 16, n % 16].map Nat.digitChar

/-- A character inside quotation marks: the marks, the backslash and the control
characters are escaped, everything else stands for itself. -/
def escapedChar (c : Char) : List Char :=
  if c == '"' then ['\\', '"']
  else if c == '\\' then ['\\', '\\']
  else if c.toNat == 8 then ['\\', 'b']
  else if c.toNat == 9 then ['\\', 't']
  else if c.toNat == 10 then ['\\', 'n']
  else if c.toNat == 12 then ['\\', 'f']
  else if c.toNat == 13 then ['\\', 'r']
  else if c.toNat < 32 then '\\' :: 'u' :: hexDigits4 c.toNat
  else [c]

/-- A text between quotation marks. -/
def quoted (s : String) : String :=
  .ofList ('"' :: s.toList.flatMap escapedChar ++ ['"'])

namespace Node

/-- The start of a line at a level. -/
def indentation (level : Nat) : String := .ofList (List.replicate (2 * level) ' ')

mutual

/-- A tree as text; its first line starts where the caller stands. -/
def renderAt (level : Nat) : Node → String
  | .null => "null"
  | .bool true => "true"
  | .bool false => "false"
  | .number literal => literal
  | .string value => quoted value
  | .list [] => "[]"
  | .list (item :: items) =>
    "[\n" ++ renderItems (level + 1) (item :: items) ++ "\n" ++ indentation level ++ "]"
  | .map [] => "\x7b\x7d"
  | .map (entry :: entries) =>
    "\x7b\n" ++ renderEntries (level + 1) (entry :: entries) ++ "\n" ++ indentation level ++ "\x7d"

/-- The items of a list, each on lines of its own. -/
def renderItems (level : Nat) : List Node → String
  | [] => ""
  | [item] => indentation level ++ renderAt level item
  | item :: items =>
    indentation level ++ renderAt level item ++ ",\n" ++ renderItems level items

/-- The entries of a map, each on lines of its own. -/
def renderEntries (level : Nat) : List (String × Node) → String
  | [] => ""
  | [(key, value)] => indentation level ++ quoted key ++ ": " ++ renderAt level value
  | (key, value) :: entries =>
    indentation level ++ quoted key ++ ": " ++ renderAt level value ++ ",\n" ++
      renderEntries level entries

end

/-- A tree as text. -/
def render (node : Node) : String := renderAt 0 node

end Node

end Scaffold
