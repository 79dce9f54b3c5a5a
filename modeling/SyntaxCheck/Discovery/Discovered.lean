import SyntaxCheck.Discovery.IgnoreRules
import SyntaxCheck.Discovery.Walk

/-!
# Discovered files

Of the files that a walk comes upon, those with the wanted extension count. Those that an ignore
rule excludes are set aside, the others are candidates for a check.
-/

namespace SyntaxCheck

/-- A file to check: its path from the root of the run and its path from the top. -/
structure Candidate where
  path : Path
  absolute : Path
deriving DecidableEq

/-- What becomes of an entry that a walk comes upon. -/
inductive Finding
  | candidate (file : Candidate)
  | ignored (path : Path) (fragment : String)
  | skipped (fault : WalkFault)
deriving DecidableEq

/-- What to look for: the extension, and the rules by which files are left out. -/
structure Selection where
  extension : String
  rules : IgnoreRules

namespace Selection

/-- Whether the last name of a path has the wanted extension. -/
def wants (s : Selection) (path : Path) : Bool :=
  (path.getLast?.bind Path.extension?) == some s.extension

/-- What becomes of an entry, if it counts. Paths are taken from the root by leaving out its names.
-/
def classify (s : Selection) (root : Path) : Sighting → Option Finding
  | .fault fault => some (.skipped fault)
  | .file way =>
    if s.wants way then
      match s.rules.matching? way.absoluteText with
      | some fragment => some (.ignored (way.drop root.length) fragment)
      | none => some (.candidate ⟨way.drop root.length, way⟩)
    else none

end Selection

/-- Go through everything below a root directory. -/
def discover (fs : FileSystem) (root : Path) (selection : Selection) : List Finding :=
  (fs.sightings root).filterMap (selection.classify root)

/-- The files that a discovery turned up, in the order of the walk. -/
structure Discovered where
  candidates : List Candidate
  ignored : List Path
deriving DecidableEq

namespace Discovered

def ofFindings (findings : List Finding) : Discovered where
  candidates := findings.filterMap fun
    | .candidate file => some file
    | _ => none
  ignored := findings.filterMap fun
    | .ignored path _ => some path
    | _ => none

/-- The number of files with the wanted extension. -/
def total (d : Discovered) : Nat :=
  d.candidates.length + d.ignored.length

end Discovered

end SyntaxCheck
