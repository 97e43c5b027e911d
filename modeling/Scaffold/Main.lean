import Scaffold.Program

/-!
# The command line program

Runs the program on the files, the environment and the streams of the system.
-/

namespace Scaffold.Main

/-- What went wrong with a file, in the words of the system. -/
def fileFault (path : Path) : IO.Error → FileFault
  | .noFileOrDirectory .. => .notFound path
  | .permissionDenied .. => .permissionDenied path
  | e => .other (toString e)

/-- What went wrong with reading a file. -/
def readFault : IO.Error → ReadFault
  | .noFileOrDirectory .. => .missing
  | e => .unreadable (toString e)

/-- Write a file beside its place and move it there, so that no half of it is ever
seen. -/
def replaceFile (path : Path) (text : String) : IO Unit := do
  let directory := (path.ancestors.head?).getD ⟨"."⟩
  IO.FS.createDirAll directory.text
  let draft := path.text ++ ".new"
  IO.FS.writeFile draft text
  IO.FS.rename draft path.text

/-- There is something at a path. -/
def isTaken (path : Path) : IO Bool := do
  try
    let _ ← IO.FS.realPath path.text
    return true
  catch _ => return false

/-- Read a file as text. -/
def readText (path : Path) : IO (Except ReadFault String) := do
  try return .ok (← IO.FS.readFile path.text)
  catch e => return .error (readFault e)

/-- Write a file with the directories above it. -/
def writeText (path : Path) (text : String) : IO (Except FileFault Unit) := do
  try
    replaceFile path text
    return .ok ()
  catch e => return .error (fileFault path e)

/-- The files of the system. -/
def systemFiles : FileSystem IO where
  taken := isTaken
  readText := readText
  write := writeText

/-- The variables that the program looks at. -/
def knownVariables : List String :=
  [outputVariable, namespaceVariable, templatesVariable, extensionVariable,
    "XDG_CONFIG_HOME", "HOME", "RUST_LOG"]

/-- The environment of the process. -/
def environment : IO Environment := do
  let given ← knownVariables.filterMapM fun name => do
    return (← IO.getEnv name).map (name, ·)
  return .ofList given

/-- Say how the program ended. -/
def report (o : Outcome) : IO Unit := do
  IO.print o.output
  for w in o.shownWarnings do
    IO.eprintln (" WARN " ++ w)
  if let some f := o.failure? then
    IO.eprintln ("Error: " ++ f.render)
  if let some f := o.usage? then
    if f.exitCode ≠ 0 then IO.eprintln ("error: " ++ f.message)

end Scaffold.Main

/-- The program. -/
def main (args : List String) : IO UInt32 := do
  let directory ← IO.currentDir
  let around : Scaffold.Surroundings :=
    { environment := ← Scaffold.Main.environment, directory := ⟨directory.toString⟩ }
  let outcome ← Scaffold.Program.run Scaffold.Main.systemFiles around args
  Scaffold.Main.report outcome
  return outcome.exitCode.toUInt32
