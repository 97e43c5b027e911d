import Scaffold.Files

/-!
# Disks

A disk is a tree of directories and files.  A path is followed part by part: an
empty part and a dot stay where they are, two dots lead one up, and all three need
a directory to stand in.  A name is looked up in a directory.

## Main definitions

* `DiskEntry`, `Disk` — the tree.
* `DiskFault` — why something cannot be done.
* `Disk.follow`, `Disk.spot` — where a path leads.
* `Disk.makeDirectories`, `Disk.readBytes`, `Disk.write` — the operations.
* `Disk.system` — a disk as a file system.
-/

namespace Scaffold

/-! ### The tree -/

/-- What has a name on a disk. -/
inductive DiskEntry where
  | file (content : ByteArray)
  | directory (entries : List (String × DiskEntry))
  deriving Inhabited

namespace DiskEntry

/-- The entry is a directory. -/
def isDirectory : DiskEntry → Bool
  | directory _ => true
  | file _ => false

/-- What stands under a name. -/
def child? (name : String) : DiskEntry → Option DiskEntry
  | directory entries => entries.lookup name
  | file _ => none

/-- What stands at the end of a chain of names. -/
def find? : List String → DiskEntry → Option DiskEntry
  | [], e => some e
  | name :: names, e => do find? names (← e.child? name)

/-- Put something under a name of a directory, over what stands there. -/
def putChild (parent : DiskEntry) (name : String) (new : DiskEntry) : DiskEntry :=
  match parent with
  | directory entries => directory ((name, new) :: entries.filter fun x => x.1 != name)
  | file content => file content

@[simp] theorem child?_putChild_self (name : String) (new : DiskEntry)
    (entries : List (String × DiskEntry)) :
    ((directory entries).putChild name new).child? name = some new := by
  simp [putChild, child?]

theorem child?_putChild_of_ne {name other : String} (h : other ≠ name) (new : DiskEntry)
    (entries : List (String × DiskEntry)) :
    ((directory entries).putChild name new).child? other = (directory entries).child? other := by
  have hne : (other == name) = false := by simpa using h
  simp only [putChild, child?, List.lookup_cons, hne]
  induction entries with
  | nil => rfl
  | cons e rest ih =>
    obtain ⟨key, v⟩ := e
    by_cases he : key = name
    · simp [List.lookup_cons, he, hne, ih]
    · simp [List.lookup_cons, he, ih]

/-- Put something at the end of a chain of names, which has to lead through
directories. -/
def put (new : DiskEntry) : List String → DiskEntry → DiskEntry
  | [], _ => new
  | name :: names, e =>
    match e.child? name, names with
    | _, [] => e.putChild name new
    | some inner, _ => e.putChild name (put new names inner)
    | none, _ => e

mutual

/-- The files of the tree, each with the chain of its names. -/
def files : DiskEntry → List (List String × ByteArray)
  | file content => [([], content)]
  | directory entries => filesOf entries

/-- The files of some entries of a directory. -/
def filesOf : List (String × DiskEntry) → List (List String × ByteArray)
  | [] => []
  | (name, e) :: rest => (e.files.map fun x => (name :: x.1, x.2)) ++ filesOf rest

end

end DiskEntry

/-- A disk, and the directory from which relative paths start. -/
structure Disk where
  /-- The tree; its top is a directory. -/
  root : DiskEntry := .directory []
  /-- The names that lead to the current directory. -/
  current : List String := []
  deriving Inhabited

/-! ### Faults -/

/-- Why something cannot be done on a disk. -/
inductive DiskFault where
  /-- A name leads to nothing. -/
  | missing
  /-- The name is taken. -/
  | taken
  /-- Something that has to be a directory is a file. -/
  | notDirectory
  /-- Something that has to be a file is a directory. -/
  | isDirectory
  /-- A name or a path is too long. -/
  | tooLong
  /-- The path holds the character that ends paths for the system. -/
  | badPath
  /-- The path ends in no name that could be replaced. -/
  | busy
  deriving DecidableEq, Repr

namespace DiskFault

/-- The words of the system for a fault. -/
def message : DiskFault → String
  | missing => "No such file or directory (os error 2)"
  | taken => "File exists (os error 17)"
  | notDirectory => "Not a directory (os error 20)"
  | isDirectory => "Is a directory (os error 21)"
  | tooLong => "File name too long (os error 36)"
  | badPath => "file name contained an unexpected NUL byte"
  | busy => "Device or resource busy (os error 16)"

/-- The fault as one of writing a file. -/
def toFileFault (path : Path) : DiskFault → FileFault
  | missing => .notFound path
  | f => .other f.message

/-- The fault as one of reading a file. -/
def toReadFault : DiskFault → ReadFault
  | missing => .missing
  | f => .unreadable f.message

end DiskFault

/-! ### Following paths -/

/-- The longest name, in bytes. -/
def longestName : Nat := 255

/-- The longest path, in bytes. -/
def longestPath : Nat := 4095

namespace Disk

/-- What stands at the end of a chain of names. -/
def find? (d : Disk) (place : List String) : Option DiskEntry := d.root.find? place

/-- There is a directory at the end of a chain of names. -/
def hasDirectory (d : Disk) (place : List String) : Bool :=
  (d.find? place).any (·.isDirectory)

/-- Follow one part of a path. -/
def followPart (d : Disk) (place : List String) (part : String) :
    Except DiskFault (List String) :=
  if !d.hasDirectory place then .error .notDirectory
  else if part == "" || part == "." then .ok place
  else if part == ".." then .ok place.dropLast
  else if part.utf8ByteSize > longestName then .error .tooLong
  else if (d.find? (place ++ [part])).isSome then .ok (place ++ [part])
  else .error .missing

/-- The parts of a path, cut at every slash. -/
def partsOf (p : Path) : List String := (Path.splitSlashes p.text.toList).map String.ofList

/-- Where a path starts. -/
def startOf (d : Disk) (p : Path) : List String := if p.isAbsolute then [] else d.current

/-- Why a path cannot be followed at all. -/
def pathFault? (p : Path) : Option DiskFault :=
  if p.text.toList.contains '\x00' then some .badPath
  else if p.text.isEmpty then some .missing
  else if p.text.utf8ByteSize > longestPath then some .tooLong
  else none

/-- Follow a path to what stands there. -/
def follow (d : Disk) (p : Path) : Except DiskFault (List String) :=
  match pathFault? p with
  | some fault => .error fault
  | none => (partsOf p).foldlM d.followPart (d.startOf p)

/-- A place for a new entry. -/
structure Spot where
  /-- The directory. -/
  place : List String
  /-- The name in it, unless the path ends in dots or in the top. -/
  name? : Option String
  /-- The path ends with a slash. -/
  slash : Bool

/-- The parts without empty ones at the end. -/
def dropEmptyEnd (parts : List String) : List String :=
  (parts.reverse.dropWhile (·.isEmpty)).reverse

/-- Follow a path up to its last part, which need not be there. -/
def spot (d : Disk) (p : Path) : Except DiskFault Spot := do
  if let some fault := pathFault? p then throw fault
  let parts := partsOf p
  let named := dropEmptyEnd parts
  let place ← named.dropLast.foldlM d.followPart (d.startOf p)
  if !d.hasDirectory place then throw .notDirectory
  let slash := named.length < parts.length
  match named.getLast? with
  | none => return ⟨place, none, slash⟩
  | some last =>
    if last == "." || last == ".." then return ⟨place, none, slash⟩
    else if last.utf8ByteSize > longestName then throw .tooLong
    else return ⟨place, some last, slash⟩

/-! ### Operations -/

/-- Something is at a path. -/
def isTaken (d : Disk) (p : Path) : Bool := (d.follow p).isOk

/-- A directory is at a path. -/
def isDirectory (d : Disk) (p : Path) : Bool :=
  match d.follow p with
  | .ok place => d.hasDirectory place
  | .error _ => false

/-- Put something at a place. -/
def put (d : Disk) (place : List String) (e : DiskEntry) : Disk :=
  { d with root := DiskEntry.put e place d.root }

/-- Make a directory. -/
def makeDirectory (d : Disk) (p : Path) : Except DiskFault Disk := do
  let s ← d.spot p
  match s.name? with
  | none => throw .taken
  | some name =>
    let place := s.place ++ [name]
    if (d.find? place).isSome then throw .taken
    else return d.put place (.directory [])

/-- Make a directory unless it is there. -/
def ensureDirectory (d : Disk) (p : Path) : Except DiskFault Disk :=
  match d.makeDirectory p with
  | .ok d' => .ok d'
  | .error f => if d.isDirectory p then .ok d else .error f

/-- Make the first of some directories.  If that fails for lack of what it stands
in, make the others first, each of which holds those before it; what has been made
stays when a later one cannot be made. -/
def makeChain (d : Disk) : List Path → Except DiskFault Unit × Disk
  | [] => (.ok (), d)
  | p :: above =>
    match d.ensureDirectory p with
    | .ok d' => (.ok (), d')
    | .error .missing =>
      match makeChain d above with
      | (.error f, d') => (.error f, d')
      | (.ok _, d') =>
        match d'.ensureDirectory p with
        | .ok d'' => (.ok (), d'')
        | .error f => (.error f, d')
    | .error f => (.error f, d)

/-- Make a directory and those above it. -/
def makeDirectories (d : Disk) (p : Path) : Except DiskFault Unit × Disk :=
  if p.text.isEmpty then (.ok (), d) else d.makeChain (p :: p.ancestors)

/-- The bytes of a file. -/
def readBytes (d : Disk) (p : Path) : Except DiskFault ByteArray := do
  match d.find? (← d.follow p) with
  | some (.file content) => return content
  | some (.directory _) => throw .isDirectory
  | none => throw .missing

/-- The text of a file. -/
def readText (d : Disk) (p : Path) : Except ReadFault String :=
  match d.readBytes p with
  | .error f => .error f.toReadFault
  | .ok content =>
    match String.fromUTF8? content with
    | some text => .ok text
    | none => .error (.unreadable "stream did not contain valid UTF-8")

/-- Put a file at a path, over the file that is there. -/
def putFile (d : Disk) (p : Path) (content : ByteArray) : Except DiskFault Disk := do
  let s ← d.spot p
  match s.name? with
  | none => throw .busy
  | some name =>
    if s.slash then throw .notDirectory
    else if d.hasDirectory (s.place ++ [name]) then throw .isDirectory
    else return d.put (s.place ++ [name]) (.file content)

/-- The directory that a file of this path stands in. -/
def directoryOf (p : Path) : Path := (p.ancestors.head?).getD ⟨"."⟩

/-- Write a file as a whole, with the directories above it. -/
def writeBytes (d : Disk) (p : Path) (content : ByteArray) : Except FileFault Unit × Disk :=
  match d.makeDirectories (directoryOf p) with
  | (.error f, d') => (.error (f.toFileFault (directoryOf p)), d')
  | (.ok _, d') =>
    match d'.putFile p content with
    | .ok d'' => (.ok (), d'')
    | .error f => (.error (f.toFileFault p), d')

/-- Write a text as a file. -/
def write (d : Disk) (p : Path) (text : String) : Except FileFault Unit × Disk :=
  d.writeBytes p text.toUTF8

/-- The files below a directory, by the text of their paths from there. -/
def filesBelow (d : Disk) (place : List String) : Dict String ByteArray :=
  match d.find? place with
  | some e => .ofList (e.files.map fun x => ("/".intercalate x.1, x.2))
  | none => ∅

/-- A disk as a file system. -/
def system : FileSystem (StateM Disk) where
  taken p := return (← get).isTaken p
  readText p := return (← get).readText p
  write p text := fun d => d.write p text

end Disk

end Scaffold
