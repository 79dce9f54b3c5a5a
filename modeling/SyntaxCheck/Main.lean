import SyntaxCheck.CommandLine.Program

/-!
# The command line

The outer layer of the program: it copies what a run can reach from the disk into a file tree, and
prints what `execute` makes of it.
-/

namespace SyntaxCheck

/-- A copy of what lies at a path of the disk, with the places outside of it that its links lead to.
Links are kept by where they lead in the end; one that leads in a circle leads to itself, and one
that leads nowhere has nothing written in it. What cannot be read is left out. -/
partial def copyNode (path : String) : IO (Node × List String) := do
  let file := System.mkFilePath [path]
  match (← file.symlinkMetadata).type with
  | .file => return (.file (← IO.FS.readBinFile path).toList, [])
  | .symlink =>
    try
      let _ ← file.metadata
      let target := (← IO.FS.realPath path).toString
      return (.link target, [target])
    catch
      | .noFileOrDirectory .. => return (.link "", [])
      | _ => return (.link path, [])
  | .dir =>
    let mut entries := []
    let mut links := []
    for entry in (← file.readDir) do
      try
        let (node, targets) ← copyNode (path ++ "/" ++ entry.fileName)
        entries := (entry.fileName, node) :: entries
        links := targets ++ links
      catch _ => pure ()
    return (.directory entries, links)
  | .other => return (.directory [], [])

def namesOf (path : String) : Path :=
  (Path.components path).filter (· ≠ "")

/-- Copy what lies at the pending paths, and in the end what links lead to, into a file tree. Paths
below those in `copied` are there already. -/
partial def copyAll (root : Node) (copied : List Path) : List String → IO Node
  | [] => return root
  | path :: rest => do
    let names := namesOf path
    if copied.any (·.isPrefixOf names) then copyAll root copied rest
    else
      try
        let (node, links) ← copyNode path
        copyAll (Node.insert node names root) (names :: copied) (links ++ rest)
      catch _ => copyAll root copied rest

/-- Put a node at a path unless there is one. -/
def addMissing (root : Node) (path : Path) (node : Node) : Node :=
  if (root.at? path).isSome then root else Node.insert node path root

/-- Copy the directories and the links on the way that a written path goes from the directory
`here`. -/
def copyWay (root : Node) (here : String) : List String → IO Node
  | [] => return root
  | part :: rest => do
    let place := here ++ "/" ++ part
    try
      let target := (← IO.FS.realPath place).toString
      let file := System.mkFilePath [place]
      let root := if (← file.metadata).type == .dir then addMissing root (namesOf target) .empty
        else root
      let root ←
        if (← file.symlinkMetadata).type == .symlink then
          pure (addMissing root (namesOf (← IO.FS.realPath here).toString ++ [part]) (.link target))
        else pure root
      copyWay root place rest
    catch _ => return root

/-- The written paths in a command line: the root of the run and the settings file. -/
def writtenPaths (words : List String) : List String :=
  match CommandLine.parseArguments words with
  | .ok (.run options) => options.root :: options.config.toList
  | _ => []

/-- What a run can reach from the working directory. -/
def copyDisk (words : List String) : IO FileSystem := do
  let current := (← IO.FS.realPath (← IO.currentDir)).toString
  let paths := writtenPaths words
  let mut places := []
  for path in paths do
    try places := (← IO.FS.realPath path).toString :: places
    catch _ => pure ()
  let mut root ← copyAll .empty [] places
  root := addMissing root (namesOf current) .empty
  for path in paths do
    root ← copyWay root (if Path.isAbsolute path then "" else current) (Path.components path)
  return ⟨root, namesOf current⟩

/-- The variables of the environment that matter. -/
def environment : IO CommandLine.Environment := do
  let mut found := []
  for name in ["CLICOLOR_FORCE", "RUST_LOG"] do
    if let some value ← IO.getEnv name then found := (name, value) :: found
  return found

end SyntaxCheck

/-- Do what the words of the command line ask for. -/
def main (words : List String) : IO UInt32 := do
  let output := SyntaxCheck.CommandLine.execute (← SyntaxCheck.copyDisk words)
    (← SyntaxCheck.environment) words
  IO.print output.stdout
  IO.eprint output.stderr
  return UInt32.ofNat output.code
