import SyntaxCheck.Discovery.Discovered
import SyntaxCheck.Discovery.Root
import SyntaxCheck.Run.CheckedFile
import SyntaxCheck.Settings.Basic

/-!
# Runs

A run goes through a directory and checks every candidate in the order of the walk; a file that does
not pass never stops it. Events tell how the run goes on, the report tells how it went. Both are
read off the run, which is the list of findings with the outcome of each check.
-/

namespace SyntaxCheck

/-- The outcome of the check of one file. -/
structure Outcome where
  path : String
  error : Option String
deriving DecidableEq

def Outcome.passed (o : Outcome) : Bool :=
  o.error.isNone

structure Failure where
  path : String
  message : String
deriving DecidableEq

/-- What a run tells while it goes on. -/
inductive Event
  | discovered (toCheck ignored : Nat)
  | checked (outcome : Outcome)
deriving DecidableEq

/-- What a run tells when it is over. -/
structure Report where
  root : String
  passed : Bool
  filesFound : Nat
  filesChecked : Nat
  filesIgnored : Nat
  failures : List Failure
deriving DecidableEq

namespace Report

def exitCode (r : Report) : Nat :=
  if r.passed then 0 else 1

def failedPaths (r : Report) : List String :=
  r.failures.map (·.path)

end Report

/-- A candidate with what was found wrong with it. -/
structure CheckedFile where
  candidate : Candidate
  fault : Option FileFault

namespace CheckedFile

def ofCandidate [CharacterNames] (fs : FileSystem) (candidate : Candidate) : CheckedFile where
  candidate := candidate
  fault :=
    match checkFile fs candidate.absolute.absoluteText with
    | .error fault => some fault
    | .ok () => none

def outcome (f : CheckedFile) : Outcome where
  path := f.candidate.path.text
  error := f.fault.map FileFault.reported

end CheckedFile

/-- A run over a root directory. -/
structure Run where
  root : Path
  findings : List Finding
  files : List CheckedFile

namespace Run

/-- Go through a root directory and check the candidates. -/
def ofRoot [CharacterNames] (fs : FileSystem) (root : Path) (settings : Settings) : Run :=
  let findings := discover fs root ⟨settings.extension, ⟨settings.ignore⟩⟩
  { root, findings
    files := (Discovered.ofFindings findings).candidates.map (CheckedFile.ofCandidate fs) }

def discovered (r : Run) : Discovered :=
  .ofFindings r.findings

/-- The outcomes of the checks, in the order of the walk. -/
def outcomes (r : Run) : List Outcome :=
  r.files.map CheckedFile.outcome

/-- The events of a run: the numbers of files first, then each file that is checked. -/
def events (r : Run) : List Event :=
  .discovered r.discovered.candidates.length r.discovered.ignored.length ::
    r.outcomes.map .checked

/-- The failure that an outcome is, if it is one. -/
def failure? (o : Outcome) : Option Failure :=
  o.error.map fun message => ⟨o.path, message⟩

def report (r : Run) : Report :=
  let failures := r.outcomes.filterMap failure?
  { root := r.root.absoluteText
    passed := failures.isEmpty
    filesFound := r.discovered.total
    filesChecked := r.discovered.candidates.length
    filesIgnored := r.discovered.ignored.length
    failures }

end Run

/-- A run over the directory that a written path names. -/
def run [CharacterNames] (fs : FileSystem) (root : String) (settings : Settings) :
    Except RootError Run :=
  (resolveRoot fs root).map fun root => Run.ofRoot fs root settings

end SyntaxCheck
