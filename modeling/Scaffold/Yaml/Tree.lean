import Scaffold.Yaml.Token

/-!
# YAML trees

The tokens of a text put together: scalars, lists, maps, and aliases that stand for
a tree elsewhere.

An anchor gives a slot to the tree that follows it.  The slot of a new anchor is the
number of names so far, so a name that is anchored twice takes over the slot that
the next new name would get, and of several trees with one slot the last to start
is meant.

## Main definitions

* `Yaml.Tree` — trees.
* `Yaml.Builder` — the tokens that are left, and the anchors so far.
* `Yaml.Document`, `Yaml.Document.ofTokens?` — the only document of a text.
-/

namespace Scaffold.Yaml

/-- A tree.  Tags are kept in full. -/
inductive Tree where
  | reference (slot : Nat)
  | scalar (tag : Option Tag) (plain : Bool) (text : String)
  | list (tag : Option Tag) (items : List Tree)
  | map (tag : Option Tag) (entries : List (Tree × Tree))
  deriving Inhabited, Repr

namespace Tree

/-- A scalar of which nothing is written. -/
def nothing : Tree := .scalar none true ""

mutual

/-- The number of marks a tree is made of; a collection has one at either end. -/
def size : Tree → Nat
  | reference _ | scalar .. => 1
  | list _ items => 2 + sizeOfItems items
  | map _ entries => 2 + sizeOfEntries entries

/-- The number of marks in items. -/
def sizeOfItems : List Tree → Nat
  | [] => 0
  | t :: rest => t.size + sizeOfItems rest

/-- The number of marks in entries. -/
def sizeOfEntries : List (Tree × Tree) → Nat
  | [] => 0
  | (k, v) :: rest => k.size + v.size + sizeOfEntries rest

end

end Tree

/-! ### Building -/

/-- Where the building of a tree stands. -/
structure Builder where
  /-- The tokens that are left. -/
  tokens : List Token
  /-- What the handles of tags stand for. -/
  handles : List (String × Tag) := []
  /-- The slots of the names that have been anchored. -/
  names : List (String × Nat) := []
  /-- The number of trees that have been anchored. -/
  serial : Nat := 0
  /-- Which anchored tree a slot means, the latest first. -/
  slots : List (Nat × Nat) := []
  /-- The anchored trees by their number. -/
  anchored : List (Nat × Tree) := []

/-- Steps of building, any of which may fail. -/
abbrev Build := StateT Builder Option

namespace Build

/-- The next token, if there is one. -/
def peek : Build (Option Token) := return (← get).tokens.head?

/-- Pass over the next token. -/
def skip : Build Unit := modify fun b => { b with tokens := b.tokens.tail }

/-- The handles that every text has. -/
def standardHandles : List (String × Tag) := [("!", .bare), ("!!", .standard "")]

/-- A tag in full; its handle must be known. -/
def fullTag (handle : String) (suffix : Tag) : Build Tag := do
  if handle.isEmpty then return suffix
  match ((← get).handles ++ standardHandles).lookup handle with
  | some start => return start ++ suffix
  | none => failure

/-- Give a slot to the tree that follows; the answer is the number of the tree. -/
def openAnchor (name : String) : Build Nat := do
  let b ← get
  let slot := b.names.length
  set { b with
    names := (name, slot) :: b.names.filter (·.1 != name)
    slots := (slot, b.serial) :: b.slots
    serial := b.serial + 1 }
  return b.serial

/-- The tree of an anchor is complete. -/
def closeAnchor (number : Option Nat) (t : Tree) : Build Tree := do
  match number with
  | some n => modify fun b => { b with anchored := (n, t) :: b.anchored }
  | none => pure ()
  return t

/-- The slot of a name; the name must have been anchored. -/
def slotOf (name : String) : Build Nat := do
  match (← get).names.lookup name with
  | some slot => return slot
  | none => failure

/-- The tag at the next token, if one stands there. -/
def readTag : Build (Option Tag) := do
  match ← peek with
  | some (.tag handle suffix) =>
    skip
    return some (← fullTag handle suffix)
  | _ => return none

/-- The anchor at the next token, if one stands there. -/
def readAnchor : Build (Option String) := do
  match ← peek with
  | some (.anchor name) =>
    skip
    return some name
  | _ => return none

/-- An anchor and a tag in either order. -/
def readProperties : Build (Option String × Option Tag) := do
  match ← readAnchor with
  | some name => return (some name, ← readTag)
  | none =>
    let tag ← readTag
    if tag.isSome then return (← readAnchor, tag) else return (none, none)

mutual

/-- A tree.  Outside of brackets it may be a block, and below a key the items of a
list need not be indented. -/
def node : (fuel : Nat) → (inBlock flush : Bool) → Build Tree
  | 0, _, _ => failure
  | fuel + 1, inBlock, flush => do
    match ← peek with
    | some (.reference name) =>
      skip
      return .reference (← slotOf name)
    | _ =>
      let (anchor, tag) ← readProperties
      let number ← anchor.mapM openAnchor
      match ← peek with
      | some (.scalar plain text) =>
        skip
        closeAnchor number (.scalar tag plain text)
      | some .listStart =>
        skip
        closeAnchor number (.list tag (← flowItems fuel true))
      | some .mapStart =>
        skip
        closeAnchor number (.map tag (← flowEntries fuel true))
      | some .item =>
        if flush then closeAnchor number (.list tag (← flushItems fuel))
        else absent number tag
      | some .blockListStart =>
        if inBlock then
          skip
          closeAnchor number (.list tag (← blockItems fuel))
        else absent number tag
      | some .blockMapStart =>
        if inBlock then
          skip
          closeAnchor number (.map tag (← blockEntries fuel))
        else absent number tag
      | _ => absent number tag

/-- Where no tree follows, an anchor or a tag may stand for an empty scalar. -/
def absent (number : Option Nat) (tag : Option Tag) : Build Tree :=
  if number.isSome || tag.isSome then closeAnchor number (.scalar tag true "") else failure

/-- The items of a list that is a block. -/
def blockItems : (fuel : Nat) → Build (List Tree)
  | 0 => failure
  | fuel + 1 => do
    match ← peek with
    | some .item =>
      skip
      let item ← match ← peek with
        | some .item | some .blockEnd => pure Tree.nothing
        | _ => node fuel true false
      return item :: (← blockItems fuel)
    | some .blockEnd =>
      skip
      return []
    | _ => failure

/-- The items of a list that is not indented; it ends at any other token. -/
def flushItems : (fuel : Nat) → Build (List Tree)
  | 0 => failure
  | fuel + 1 => do
    match ← peek with
    | some .item =>
      skip
      let item ← match ← peek with
        | some .item | some .key | some .value | some .blockEnd => pure Tree.nothing
        | _ => node fuel true false
      return item :: (← flushItems fuel)
    | _ => return []

/-- A key or a value of a map that is a block; nothing need be written. -/
def blockPart : (fuel : Nat) → Build Tree
  | 0 => failure
  | fuel + 1 => do
    match ← peek with
    | some .key | some .value | some .blockEnd => return .nothing
    | _ => node fuel true true

/-- The entries of a map that is a block. -/
def blockEntries : (fuel : Nat) → Build (List (Tree × Tree))
  | 0 => failure
  | fuel + 1 => do
    match ← peek with
    | some .key =>
      skip
      let key ← blockPart fuel
      let value ← match ← peek with
        | some .value =>
          skip
          blockPart fuel
        | _ => pure .nothing
      return (key, value) :: (← blockEntries fuel)
    | some .blockEnd =>
      skip
      return []
    | _ => failure

/-- The items of a list within brackets.  An item with a colon is a map of one
entry. -/
def flowItems : (fuel : Nat) → (isFirst : Bool) → Build (List Tree)
  | 0, _ => failure
  | fuel + 1, isFirst => do
    if (← peek) == some .listEnd then
      skip
      return []
    if !isFirst then
      if (← peek) != some .comma then failure
      skip
    match ← peek with
    | some .listEnd =>
      skip
      return []
    | some .key =>
      skip
      let entry ← pairInList fuel
      return .map none [entry] :: (← flowItems fuel false)
    | _ =>
      let item ← node fuel false false
      return item :: (← flowItems fuel false)

/-- The only entry of a map that is an item within brackets.  If nothing is written
for the key, the token behind it is passed over. -/
def pairInList : (fuel : Nat) → Build (Tree × Tree)
  | 0 => failure
  | fuel + 1 => do
    let key ← match ← peek with
      | some .value | some .comma | some .listEnd =>
        skip
        pure Tree.nothing
      | _ => node fuel false false
    match ← peek with
    | some .value =>
      skip
      match ← peek with
      | some .comma | some .listEnd => return (key, .nothing)
      | _ => return (key, ← node fuel false false)
    | _ => return (key, .nothing)

/-- The entries of a map within brackets.  A key without a colon has no value. -/
def flowEntries : (fuel : Nat) → (isFirst : Bool) → Build (List (Tree × Tree))
  | 0, _ => failure
  | fuel + 1, isFirst => do
    if (← peek) == some .mapEnd then
      skip
      return []
    if !isFirst then
      if (← peek) != some .comma then failure
      skip
    match ← peek with
    | some .mapEnd =>
      skip
      return []
    | some .key =>
      skip
      let key ← match ← peek with
        | some .value | some .comma | some .mapEnd => pure Tree.nothing
        | _ => node fuel false false
      let value ← match ← peek with
        | some .value =>
          skip
          match ← peek with
          | some .comma | some .mapEnd => pure Tree.nothing
          | _ => node fuel false false
        | _ => pure .nothing
      return (key, value) :: (← flowEntries fuel false)
    | _ =>
      let key ← node fuel false false
      return (key, .nothing) :: (← flowEntries fuel false)

end

/-! ### Documents -/

/-- The directives in front of a document: at most one version, which must be known,
and each handle once. -/
def directives : (fuel : Nat) → (versionSeen : Bool) → Build Unit
  | 0, _ => failure
  | fuel + 1, versionSeen => do
    match ← peek with
    | some (.version major minor) =>
      if versionSeen || major != 1 || (minor != 1 && minor != 2) then failure
      skip
      directives fuel true
    | some (.tagHandle handle start) =>
      if ((← get).handles.lookup handle).isSome then failure
      modify fun b => { b with handles := (handle, start) :: b.handles }
      skip
      directives fuel versionSeen
    | _ => return ()

/-- The tree behind the start of a document; nothing need be written. -/
def content (fuel : Nat) : Build Tree := do
  match ← peek with
  | none | some .documentStart | some .documentEnd | some (.version ..)
  | some (.tagHandle ..) => return .nothing
  | _ => node fuel true false

/-- Pass over the marks at the end of a document. -/
def documentEnds : (fuel : Nat) → Build Unit
  | 0 => return ()
  | fuel + 1 => do
    if (← peek) == some .documentEnd then
      skip
      documentEnds fuel

/-- The only document; a text without tokens has none. -/
def document (fuel : Nat) : Build (Option Tree) := do
  match ← peek with
  | none => return none
  | some .documentStart | some (.version ..) | some (.tagHandle ..) =>
    directives fuel false
    if (← peek) != some .documentStart then failure
    skip
    let tree ← content fuel
    finish tree
  | some _ =>
    let tree ← node fuel true false
    finish tree
where
  /-- Nothing may follow the document. -/
  finish (tree : Tree) : Build (Option Tree) := do
    documentEnds fuel
    if (← peek).isSome then failure
    return some tree

end Build

/-- The document of a text. -/
structure Document where
  /-- The tree, unless nothing is written at all. -/
  root : Option Tree
  /-- The tree that a slot means. -/
  tree? : Nat → Option Tree

/-- The number of marks a document is made of. -/
def Document.size (d : Document) : Nat := (d.root.map Tree.size).getD 1

/-- The only document of tokens. -/
def Document.ofTokens? (tokens : List Token) : Option Document := do
  let (root, b) ← (Build.document (4 * tokens.length + 4)).run { tokens }
  return {
    root
    tree? := fun slot => do b.anchored.lookup (← b.slots.lookup slot) }

end Scaffold.Yaml
