import Scaffold.Dict
import Scaffold.Path

/-!
# File systems

What the program asks of files: whether a path is taken, the text of a file, and
to write a file.  The questions are answered in some monad, so the same program
runs on real files and on values that stand for them.

## Main definitions

* `FileFault` — why a file cannot be written.
* `FileSystem` — the operations.
* `FileStore` — files as a map from the text of a path to contents.
-/

namespace Scaffold

/-! ### Faults -/

/-- Why a file operation failed. -/
inductive FileFault where
  /-- The place does not exist. -/
  | notFound (path : Path)
  /-- The place may not be touched. -/
  | permissionDenied (path : Path)
  /-- Anything else, in the words of the system. -/
  | other (reason : String)
  deriving DecidableEq, Repr

namespace FileFault

/-- The text of the fault. -/
def message : FileFault → String
  | notFound path => s!"File not found: {path.text}"
  | permissionDenied path => s!"Permission denied: {path.text}"
  | other reason => s!"I/O error: {reason}"

/-- What is behind the fault; only the words of the system are. -/
def causes : FileFault → List String
  | other reason => [reason]
  | _ => []

end FileFault

/-- Why a file cannot be read. -/
inductive ReadFault where
  /-- Nothing is there. -/
  | missing
  /-- What is there cannot be read as text, in the words of the system. -/
  | unreadable (reason : String)
  deriving DecidableEq, Repr

/-- The text of the fault. -/
def ReadFault.message : ReadFault → String
  | missing => "No such file or directory (os error 2)"
  | unreadable reason => reason

/-! ### Operations -/

/-- The operations on files that the program needs. -/
structure FileSystem (m : Type → Type) where
  /-- Something is at this path. -/
  taken : Path → m Bool
  /-- The text of a file. -/
  readText : Path → m (Except ReadFault String)
  /-- Write a file as a whole, with the directories above it. -/
  write : Path → String → m (Except FileFault Unit)

/-! ### Files as a map -/

/-- Files by the text of their paths, and the paths that cannot be written. -/
structure FileStore where
  /-- The contents of the files. -/
  files : Dict String String := ∅
  /-- What goes wrong when a path is written; nothing does by default. -/
  fault? : Path → Option FileFault := fun _ => none

namespace FileStore

/-- There is a file of this path. -/
def has (s : FileStore) (p : Path) : Bool := s.files.contains p.text

/-- Write a file; a write that fails changes nothing. -/
def write (s : FileStore) (p : Path) (content : String) : Except FileFault Unit × FileStore :=
  match s.fault? p with
  | some fault => (.error fault, s)
  | none => (.ok (), { s with files := s.files.insert p.text content })

/-- The map as a file system. -/
def system : FileSystem (StateM FileStore) where
  taken p := return (← get).has p
  readText p := do
    match (← get).files.get? p.text with
    | some content => return .ok content
    | none => return .error .missing
  write p content := fun s => s.write p content

end FileStore

end Scaffold
