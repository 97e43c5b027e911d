import Scaffold.Toml.Statement

/-!
# TOML documents

The statements of a text build one table.  A header says where the assignments
that follow it go; their table is put there when the next header, or the end, comes.

## Main definitions

* `Toml.Draft`, `Toml.Draft.apply`, `Toml.Draft.finish` — the table while it is built.
* `Toml.read` — the table of a text.
-/

namespace Scaffold.Toml

/-- Where assignments go. -/
inductive Target where
  /-- Into the table at the top. -/
  | top
  /-- Into a table. -/
  | table (key : Key)
  /-- Into a new element of a list. -/
  | element (key : Key)
  deriving DecidableEq, Repr

/-- The table of a text while it is built. -/
structure Draft where
  /-- What the headers so far have completed. -/
  root : Entries := []
  /-- Where the last header sends assignments. -/
  target : Target := .top
  /-- What has been assigned there. -/
  current : Entries := []
  deriving Repr

namespace Draft

/-- Change the table that holds the last part of a header. -/
def atParent {α : Type} (key : Key) (change : Entries → Option (Entries × α)) (root : Entries) :
    Option (Entries × α) :=
  root.update .onWay (fun _ entries => change entries) .header key.path

/-- One more element of a list. -/
def addElement (name : String) (element : Entries) (entries : Entries) :
    Option (Entries × Unit) :=
  match entries.find? name with
  | none => some (entries ++ [(name, .tables [element])], ())
  | some (.tables elements) =>
    some (entries.replace name (.tables (elements ++ [element])), ())
  | some _ => none

/-- The table at the top, the current assignments put where they belong. -/
def finish (d : Draft) : Option Entries :=
  match d.target with
  | .top => some d.current
  | .table key => do
    let (root, _) ← atParent key (fun entries =>
      some (entries ++ [(key.last, .table .header d.current)], ())) d.root
    return root
  | .element key => do
    let (root, _) ← atParent key (addElement key.last d.current) d.root
    return root

/-- Take out the table that gets its own header.  Only one that was on the way of
another header may be there. -/
def takeTable (name : String) (entries : Entries) : Option (Entries × Entries) :=
  match entries.find? name with
  | none => some (entries, [])
  | some (.table .onWay inner) => some (entries.without name, inner)
  | some _ => none

/-- Make sure that a list is there, or can be. -/
def reserveList (name : String) (entries : Entries) : Option (Entries × Unit) :=
  match entries.find? name with
  | none => some (entries ++ [(name, .tables [])], ())
  | some (.tables _) => some (entries, ())
  | some _ => none

/-- What a statement adds. -/
def apply (d : Draft) : Statement → Option Draft
  | .empty => some d
  | .assign key v => do
    return { d with current := ← d.current.put key.path key.last v }
  | .table key => do
    let (root, current) ← atParent key (takeTable key.last) (← d.finish)
    return { root, target := .table key, current }
  | .element key => do
    let (root, _) ← atParent key (reserveList key.last) (← d.finish)
    return { root, target := .element key, current := [] }

end Draft

/-- The table that statements build. -/
def ofStatements (statements : List Statement) : Option Table := do
  let d ← statements.foldlM Draft.apply {}
  return Entries.toTable (← d.finish)

/-- The text without a byte order mark at its start. -/
def dropByteOrderMark : List Char → List Char
  | c :: rest => if c.toNat == 0xFEFF then rest else c :: rest
  | [] => []

/-- The table of a text. -/
def read (text : String) : Option Table := do
  let start := dropByteOrderMark text.toList
  ofStatements (← readStatements (start.length + 1) start)

end Scaffold.Toml
