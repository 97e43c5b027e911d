import Scaffold.Generation
import Scaffold.Node

/-!
# What the commands print

Each command prints its outcome as lines for people or as a node tree for other
programs.

## Main definitions

* `RunReport.toNode`, `RunReport.render` — the outcome of a run.
* `renderBlueprints` — what domains expand to.
* `ResolvedNames.toNode`, `ResolvedNames.render` — the names of an artifact.
-/

namespace Scaffold

/-- A line. -/
private def line (s : String) : String := s ++ "\n"

/-! ### Runs -/

/-- The view of a skipped artifact. -/
def Skip.toNode (s : Skip) : Node :=
  .map [("artifact", .string s.artifact), ("path", .string s.path.text),
    ("reason", .string s.reason.tag)]

namespace RunReport

/-- The view of a report. -/
def toNode (r : RunReport) : Node :=
  .map [("domains", .list (r.domains.map .string)), ("dry_run", .bool r.dryRun),
    ("skipped", .list (r.skipped.map Skip.toNode)),
    ("written", .list (r.written.map fun p => .string p.text))]

/-- What the run came to. -/
def heading (r : RunReport) : String :=
  if r.isUpToDate then "Already Up-to-date"
  else if r.dryRun then "Dry Run Complete"
  else "Generate Complete"

/-- The files that were written, or would have been. -/
def writtenLines (r : RunReport) : List String :=
  if r.written.isEmpty then []
  else
    let label := if r.dryRun then "Would write" else "Written"
    "" :: s!"  {label} ({r.written.length}):" ::
      r.written.map fun p => s!"    → {p.text}"

/-- The artifacts that were skipped. -/
def skippedLines (r : RunReport) : List String :=
  if r.skipped.isEmpty then []
  else "" :: s!"  Skipped ({r.skipped.length}):" ::
    r.skipped.map fun s => s!"    ○ {s.path.text} ({s.reason.tag})"

/-- The report in lines; skipped artifacts are listed only to whoever wants to know. -/
def lines (r : RunReport) (verbosity : Nat) : List String :=
  let domains := ", ".intercalate r.domains
  [s!"✓ {r.heading}", "", s!"  Domains: {domains}",
    s!"  {r.written.length} written, {r.skipped.length} skipped"] ++
    r.writtenLines ++ (if verbosity = 0 then [] else r.skippedLines)

/-- The report as it is printed. -/
def render (r : RunReport) (json : Bool) (verbosity : Nat) : String :=
  if json then r.toNode.render else String.join ((r.lines verbosity).map line)

end RunReport

/-! ### Blueprints -/

/-- The places of a blueprint's entries, below the name of the domain. -/
def Blueprint.lines (b : Blueprint) : List String := ("# " ++ b.domain) :: b.paths

/-- What domains expand to, as it is printed. -/
def renderBlueprints (bs : List Blueprint) (json : Bool) : String :=
  if json then (Node.ofEntries (bs.map fun b => (b.domain, b.toNode))).render
  else String.join ((bs.flatMap Blueprint.lines).map line)

/-! ### Names -/

namespace ResolvedNames

/-- The namespace below the domain. -/
def namespacePath (r : ResolvedNames) : String := r.artifactType.namespacePath

/-- The view of names. -/
def toNode (r : ResolvedNames) : Node :=
  .map [("artifact_type", .string r.artifactType.tag), ("class_name", .string r.className),
    ("interface_name", .string r.interfaceName), ("layer", .string r.layer.tag),
    ("name", .string r.name), ("namespace", .string r.namespacePath)]

/-- The interface in a line; an interface has none of its own. -/
def interfaceColumn (r : ResolvedNames) : String :=
  if r.artifactType.isInterface || r.interfaceName.isEmpty then "-" else r.interfaceName

/-- Names as they are printed. -/
def render (r : ResolvedNames) (json : Bool) : String :=
  if json then r.toNode.render
  else line ("layer      " ++ r.layer.tag) ++ line ("namespace  " ++ r.namespacePath) ++
    line ("class      " ++ r.className) ++ line ("interface  " ++ r.interfaceColumn)

end ResolvedNames

end Scaffold
