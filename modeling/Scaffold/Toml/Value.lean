import Scaffold.Node

/-!
# TOML values

What a TOML text says.  Unlike in a node tree, the entries of a table stand in the
order in which the text brings them up.

A table is put together from dotted keys and headers that may come in any order,
and whether a later one may add to a table depends on how the table came up.

* A table that a header or a value has spelt out is complete for dotted keys.
* A table that only dotted keys have brought up takes no header.
* A table that is merely on the way of a header may still get one of its own; it
  then takes its place after everything that is already there.

## Main definitions

* `Toml.Value`, `Toml.Value.toNode` — values, and the same as node trees.
* `Origin`, `Entry`, `Entries` — what stands under the keys of a table under construction.
* `Entries.update` — change the table at the end of a path.
* `Entries.put` — a value under a dotted key.
* `Entries.toTable` — the finished table.
-/

namespace Scaffold.Toml

/-! ### Values -/

/-- A value.  A number keeps its text unless it is none: infinite, or not a number
at all. -/
inductive Value where
  | string (text : String)
  | number (literal : String)
  | noNumber
  | boolean (value : Bool)
  | moment (text : String)
  | array (items : List Value)
  | table (entries : List (String × Value))
  deriving Inhabited, Repr

/-- A table by itself, in the order of its text. -/
abbrev Table := List (String × Value)

/-- The key under which a date or time is kept in a node tree, where it is a map of
this one entry. -/
def momentKey : String := "$__toml_private_datetime"

namespace Value

mutual

/-- The value as a node tree.  What is no number is nothing there. -/
def toNode : Value → Node
  | string text => .string text
  | number literal => .number literal
  | noNumber => .null
  | boolean value => .bool value
  | moment text => .map [(momentKey, .string text)]
  | array items => .list (itemNodes items)
  | table entries => .ofEntries (entryNodes entries)

/-- The items of an array as nodes. -/
def itemNodes : List Value → List Node
  | [] => []
  | v :: rest => v.toNode :: itemNodes rest

/-- The entries of a table as nodes. -/
def entryNodes : List (String × Value) → List (String × Node)
  | [] => []
  | (key, v) :: rest => (key, v.toNode) :: entryNodes rest

end

end Value

/-! ### Tables under construction -/

/-- How a table came up. -/
inductive Origin where
  /-- By a header of its own; the table at the top counts among these. -/
  | header
  /-- On the way of a header. -/
  | onWay
  /-- By a dotted key. -/
  | dotted
  deriving DecidableEq, Repr

/-- What stands under a key. -/
inductive Entry where
  /-- A value as it was written. -/
  | value (v : Value)
  /-- A table. -/
  | table (origin : Origin) (entries : List (String × Entry))
  /-- A list of tables with a header each. -/
  | tables (elements : List (List (String × Entry)))
  deriving Inhabited, Repr

/-- The entries of a table, in the order in which they came up. -/
abbrev Entries := List (String × Entry)

namespace Entries

/-- What stands under a key. -/
def find? (key : String) : Entries → Option Entry
  | [] => none
  | (k, e) :: rest => if k = key then some e else find? key rest

/-- Put something else under a key, at the place of the key. -/
def replace (key : String) (e : Entry) : Entries → Entries
  | [] => []
  | (k, old) :: rest => if k = key then (k, e) :: rest else (k, old) :: replace key e rest

/-- The entries without those of a key. -/
def without (key : String) (entries : Entries) : Entries := entries.filter fun (k, _) => k ≠ key

/-- Dotted keys lead into every table but those that a header has spelt out. -/
def mayEnter (way origin : Origin) : Bool := way ≠ .dotted || origin ≠ .header

/-- Change the table at the end of a path and bring up the tables on the way.  The
path leads into the last table of a list; it leads through no value. -/
def update {α : Type} (way : Origin) (change : Origin → Entries → Option (Entries × α)) :
    (here : Origin) → (path : List String) → Entries → Option (Entries × α)
  | here, [], entries => change here entries
  | _, key :: path, entries =>
    match find? key entries with
    | none => do
      let (inner, a) ← update way change way path []
      return (entries ++ [(key, .table way inner)], a)
    | some (.table origin inner) => do
      if !mayEnter way origin then none
      let (inner, a) ← update way change origin path inner
      return (replace key (.table origin inner) entries, a)
    | some (.tables elements) =>
      match elements.getLast? with
      | none => none
      | some last => do
        let (last, a) ← update way change .header path last
        return (replace key (.tables (elements.dropLast ++ [last])) entries, a)
    | some (.value _) => none

/-- Add a value under a new key. -/
def add (key : String) (v : Value) (entries : Entries) : Option Entries :=
  if (find? key entries).isSome then none else some (entries ++ [(key, .value v)])

/-- Put a value under a dotted key.  If there are dots, the table in which it ends up
must be one of dotted keys. -/
def put (path : List String) (key : String) (v : Value) (entries : Entries) : Option Entries := do
  let (entries, _) ← update .dotted (fun origin inner => do
    if !path.isEmpty && origin ≠ .dotted then none
    return (← inner.add key v, ())) .header path entries
  return entries

end Entries

mutual

/-- What stands under a key as a value. -/
def Entry.toValue : Entry → Value
  | .value v => v
  | .table _ entries => .table (Entries.toTable entries)
  | .tables elements => .array (elementValues elements)

/-- The finished table. -/
def Entries.toTable : List (String × Entry) → List (String × Value)
  | [] => []
  | (key, e) :: rest => (key, e.toValue) :: Entries.toTable rest

/-- The tables of a list as values. -/
def elementValues : List (List (String × Entry)) → List Value
  | [] => []
  | entries :: rest => .table (Entries.toTable entries) :: elementValues rest

end

end Scaffold.Toml
