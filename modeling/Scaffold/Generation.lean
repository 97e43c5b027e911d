import Scaffold.Expansion
import Scaffold.Files
import Scaffold.Source

/-!
# Generation runs

A run takes the leaves of its blueprints one by one.  A leaf whose path an
earlier leaf of the run had is a duplicate, and one whose path is taken on disk
is left alone; any other is generated and written.  The first fault ends the run,
and what was written before it stays.

A dry run does everything but write.

## Main definitions

* `RunOptions`, `targetPath` — what a run is about, and where a leaf goes.
* `RunReport`, `RunFault` — how a run ends.
* `runLeaf`, `runLeaves` — one leaf, and all of them.
* `generate`, `execute` — a run over blueprints, and over a schema.
-/

namespace Scaffold

/-! ### Options -/

/-- What a run is about. -/
structure RunOptions where
  /-- Where the sources of all domains go. -/
  outputDir : Path := ⟨"generated"⟩
  /-- The extension of the files, without a dot. -/
  extension : String := "php"
  /-- The namespace above all domains. -/
  rootNamespace : String := "App"
  /-- The domain to which the run is restricted. -/
  domain : Option String := none
  /-- Nothing is written. -/
  dryRun : Bool := false
  deriving DecidableEq, Repr

/-- The name of the file of an artifact. -/
def targetFile (o : RunOptions) (names : ResolvedNames) : String :=
  names.emittedName ++ "." ++ o.extension

/-- The file of an artifact: below the directory of the run and that of the domain,
the parts of the namespace and then the name. -/
def targetPath (o : RunOptions) (domain : String) (names : ResolvedNames) : Path :=
  ((o.outputDir.join domain).joinAll names.artifactType.namespaceSegments).join
    (targetFile o names)

/-! ### Reports -/

/-- Why an artifact was not written. -/
inductive SkipReason where
  /-- There is a file of its path. -/
  | present
  /-- An earlier artifact of the run has its path. -/
  | duplicate
  deriving DecidableEq, Repr

/-- The word for a reason. -/
def SkipReason.tag : SkipReason → String
  | present => "exists"
  | duplicate => "duplicate"

/-- An artifact that was not written. -/
structure Skip where
  /-- The place of the artifact in its blueprint. -/
  artifact : String
  /-- The path it would have had. -/
  path : Path
  /-- Why it was not written. -/
  reason : SkipReason
  deriving DecidableEq, Repr

/-- How a run went. -/
structure RunReport where
  /-- The domains the run was about. -/
  domains : List String := []
  /-- The files that were written, or would have been. -/
  written : List Path := []
  /-- The artifacts that were not written. -/
  skipped : List Skip := []
  /-- Nothing was written. -/
  dryRun : Bool := false
  deriving DecidableEq, Repr, Inhabited

namespace RunReport

/-- The number of artifacts. -/
def total (r : RunReport) : Nat := r.written.length + r.skipped.length

/-- There was nothing to write. -/
def isUpToDate (r : RunReport) : Bool := r.written.isEmpty

end RunReport

/-- Why a run ended early. -/
inductive RunFault where
  /-- A domain cannot be expanded. -/
  | expand (fault : ExpandFault)
  /-- The source of an artifact cannot be written. -/
  | generate (artifact : String) (fault : SourceFault)
  /-- A file cannot be written. -/
  | write (path : Path) (fault : FileFault)
  deriving DecidableEq, Repr

/-- The text of the fault. -/
def RunFault.message : RunFault → String
  | expand fault => fault.message
  | generate artifact fault => s!"failed to generate {artifact}: {fault.message}"
  | write path fault => s!"failed to write {path.text}: {fault.message}"

/-! ### Steps -/

/-- A leaf and the blueprint it belongs to. -/
structure Job where
  /-- The blueprint. -/
  blueprint : Blueprint
  /-- One of its leaves. -/
  leaf : Leaf
  deriving DecidableEq, Repr

namespace Job

/-- The path of the leaf's file. -/
def target (o : RunOptions) (j : Job) : Path := targetPath o j.blueprint.domain j.leaf.names

/-- The source of the leaf. -/
def source (o : RunOptions) (templates : TemplateSet) (j : Job) : Except SourceFault String :=
  j.leaf.source ⟨j.blueprint, o.rootNamespace, templates⟩

end Job

/-- Where a run stands: what it has reported, and the places it has seen. -/
structure Progress where
  /-- The files that were written so far. -/
  written : List Path := []
  /-- The artifacts that were skipped so far. -/
  skipped : List Skip := []
  /-- The components of the paths of all leaves so far. -/
  seen : List (List String) := []
  deriving DecidableEq, Repr

namespace Progress

/-- The leaf is not written. -/
def skip (p : Progress) (o : RunOptions) (j : Job) (reason : SkipReason) : Progress :=
  { p with skipped := p.skipped ++ [⟨j.leaf.path, j.target o, reason⟩] }

/-- The leaf's path is used up. -/
def see (p : Progress) (o : RunOptions) (j : Job) : Progress :=
  { p with seen := (j.target o).components :: p.seen }

/-- The leaf is written. -/
def write (p : Progress) (o : RunOptions) (j : Job) : Progress :=
  { p with written := p.written ++ [j.target o] }

/-- The report of a run that has come this far with all leaves. -/
def report (p : Progress) (o : RunOptions) (domains : List String) : RunReport where
  domains := domains
  written := p.written
  skipped := p.skipped
  dryRun := o.dryRun

end Progress

section Run

variable {m : Type → Type} [Monad m] (fs : FileSystem m) (templates : TemplateSet)
  (o : RunOptions)

/-- Write the file of a leaf, unless the run is dry. -/
def writeLeaf (j : Job) (content : String) : m (Except RunFault Unit) :=
  if o.dryRun then return .ok ()
  else do
    match ← fs.write (j.target o) content with
    | .ok _ => return .ok ()
    | .error fault => return .error (.write (j.target o) fault)

/-- Take one leaf. -/
def runLeaf (p : Progress) (j : Job) : m (Except RunFault Progress) := do
  if (j.target o).components ∈ p.seen then return .ok (p.skip o j .duplicate)
  else if ← fs.taken (j.target o) then return .ok ((p.see o j).skip o j .present)
  else
    match j.source o templates with
    | .error fault => return .error (.generate j.leaf.path fault)
    | .ok content =>
      match ← writeLeaf fs o j content with
      | .error fault => return .error fault
      | .ok _ => return .ok ((p.see o j).write o j)

/-- Take the leaves one by one, until one fails. -/
def runLeaves (p : Progress) : List Job → m (Except RunFault Progress)
  | [] => return .ok p
  | j :: rest => do
    match ← runLeaf fs templates o p j with
    | .error fault => return .error fault
    | .ok p => runLeaves p rest

/-- The leaves of blueprints, in order. -/
def jobs (blueprints : List Blueprint) : List Job :=
  blueprints.flatMap fun b => b.leaves.map (Job.mk b)

/-- A run over blueprints. -/
def generate (blueprints : List Blueprint) : m (Except RunFault RunReport) := do
  match ← runLeaves fs templates o {} (jobs blueprints) with
  | .error fault => return .error fault
  | .ok p => return .ok (p.report o (blueprints.map (·.domain)))

/-- A run over the domains of a schema that the options select.  Nothing is written
unless all of them can be expanded. -/
def execute (s : Schema) : m (Except RunFault RunReport) :=
  match s.expand o.domain with
  | .error fault => return .error (.expand fault)
  | .ok blueprints => generate fs templates o blueprints

end Run

end Scaffold
