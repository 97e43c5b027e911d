/-!
# Paths

A path is kept as it was written: joining adds text and tidies nothing up.  Two
texts name the same place when their components agree, where empty parts and
inner dots do not count.

## Main definitions

* `Path`, `Path.join`, `Path.joinAll` — paths and their extension.
* `Path.components` — what a path means.
* `Path.fileName?`, `Path.extension?` — its last component.
-/

namespace Scaffold

/-- A path as it was written. -/
structure Path where
  /-- The text of the path. -/
  text : String
  deriving DecidableEq, Repr, Inhabited

namespace Path

/-- The path starts at the root. -/
def isAbsolute (p : Path) : Bool := p.text.toList.head? == some '/'

/-- Add a part.  An absolute part stands for itself; otherwise a slash is put
between unless the path is empty or ends with one. -/
def join (p : Path) (part : String) : Path :=
  if part.toList.head? == some '/' then ⟨part⟩
  else if p.text.isEmpty || p.text.toList.getLast? == some '/' then ⟨p.text ++ part⟩
  else ⟨p.text ++ "/" ++ part⟩

/-- Add parts one after the other. -/
def joinAll (p : Path) (parts : List String) : Path := parts.foldl join p

@[simp] theorem joinAll_nil (p : Path) : p.joinAll [] = p := rfl

@[simp] theorem joinAll_cons (p : Path) (part : String) (parts : List String) :
    p.joinAll (part :: parts) = (p.join part).joinAll parts := rfl

theorem joinAll_append (p : Path) (xs ys : List String) :
    p.joinAll (xs ++ ys) = (p.joinAll xs).joinAll ys := by
  simp [joinAll, List.foldl_append]

/-! ### Components -/

/-- The text cut at every slash; there is one part more than slashes. -/
def splitSlashes : List Char → List (List Char)
  | [] => [[]]
  | c :: rest =>
    if c == '/' then [] :: splitSlashes rest
    else match splitSlashes rest with
      | [] => [[c]]
      | part :: parts => (c :: part) :: parts

/-- The places a path goes through.  The root is written `/`; empty parts are
dropped, and so are dots, except that a relative path may start with one. -/
def components (p : Path) : List String :=
  let parts := splitSlashes p.text.toList
  let named := (parts.filter fun part => part != [] && part != ['.']).map String.ofList
  if p.isAbsolute then "/" :: named
  else if parts.head? == some ['.'] then "." :: named
  else named

/-- The name of what the path leads to; a path that ends in the root or a dot
component has none. -/
def fileName? (p : Path) : Option String :=
  match p.components.getLast? with
  | none => none
  | some last => if last == "/" || last == "." || last == ".." then none else some last

/-- A name cut at its last dot. -/
def cutLastDot (name : List Char) : Option (List Char × List Char) :=
  let after := name.reverse.takeWhile (· != '.')
  if after.length == name.length then none
  else some (name.take (name.length - after.length - 1), after.reverse)

/-- What follows the last dot of the file name, if something stands before it. -/
def extension? (p : Path) : Option String := do
  let (stem, suffix) ← cutLastDot (← p.fileName?).toList
  if stem.isEmpty then none else some (.ofList suffix)

/-- The places above a place, the nearest first, the root among them but not the
empty path. -/
def above : List String → List (List String)
  | [] => []
  | c :: cs => (above cs).map (c :: ·) ++ if cs.isEmpty then [] else [[c]]

/-- The paths above a path, the nearest first. -/
def ancestors (p : Path) : List Path :=
  (above p.components).map fun cs => joinAll ⟨""⟩ cs

end Path

end Scaffold
