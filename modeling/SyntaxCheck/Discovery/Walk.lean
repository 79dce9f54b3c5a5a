import SyntaxCheck.FileTree.System
import SyntaxCheck.Text.ByteOrder

/-!
# Walks

A walk goes through everything below a directory. The entries of a directory are visited in the
order of their names, and what lies below a directory is visited where the directory stands among
them. Links are followed, except a link to a directory that is open on the way from the root to the
link, which would lead round in a circle.

A walk is a recursion on the nodes of the tree as long as it follows no link. Following a link uses
up one of the links that it may still follow; a walk that may follow as many as there are in the
tree never runs out, because no link is followed twice on one way down.
-/

namespace SyntaxCheck

/-- Why an entry is passed over. -/
inductive WalkFault
  | unresolved (path : Path) (error : SystemError)
  | circle (path ancestor : Path)
deriving DecidableEq

namespace WalkFault

def message : WalkFault → String
  | .unresolved path error =>
    "IO error for operation on " ++ path.absoluteText ++ ": " ++ error.message
  | .circle path ancestor =>
    "File system loop found: " ++ path.absoluteText ++ " points to an ancestor " ++
      ancestor.absoluteText

end WalkFault

/-- What a walk comes upon: a regular file, by the way that led to it, or an entry that it passes
over. -/
inductive Sighting
  | file (path : Path)
  | fault (fault : WalkFault)
deriving DecidableEq

namespace Walk

/-- A directory that is open on the way down: its path without links, and the way that led to it. -/
structure OpenDirectory where
  place : Path
  way : Path
deriving DecidableEq

section Step

variable (fs : FileSystem) (descend : List OpenDirectory → Path → Path → Node → List Sighting)

/-- Visit a link that was reached by `way`. A directory at its end is entered by `descend` unless it
is open already. -/
def visitLink (opened : List OpenDirectory) (way : Path) : List Sighting :=
  match fs.resolvePath way with
  | .error e => [.fault (.unresolved way e)]
  | .ok place =>
    match fs.root.at? place with
    | some (.directory entries) =>
      match opened.find? (·.place == place) with
      | some ancestor => [.fault (.circle way ancestor.way)]
      | none => descend opened place way (.directory entries)
    | some (.file _) => [.file way]
    | _ => []

mutual

/-- Visit a node at `place` that was reached by `way`. -/
def visit (opened : List OpenDirectory) (place way : Path) : Node → List Sighting
  | .file _ => [.file way]
  | .link _ => visitLink fs descend opened way
  | .directory entries =>
    (sortByName (visitEntries (⟨place, way⟩ :: opened) place way entries)).flatMap (·.2)

def visitEntries (opened : List OpenDirectory) (place way : Path) :
    List (String × Node) → List (String × List Sighting)
  | [] => []
  | (name, node) :: rest =>
    (name, visit opened (place ++ [name]) (way ++ [name]) node) ::
      visitEntries opened place way rest

end

end Step

/-- Visit a node and follow at most `n` links on each way down. -/
def visitUpTo (fs : FileSystem) : Nat → List OpenDirectory → Path → Path → Node → List Sighting
  | 0 => visit fs fun _ _ _ _ => []
  | n + 1 => visit fs (visitUpTo fs n)

end Walk

/-- Everything below a directory, in the order of a walk. -/
def FileSystem.sightings (fs : FileSystem) (root : Path) : List Sighting :=
  match fs.root.at? root with
  | some node => Walk.visitUpTo fs fs.root.linkCount [] root root node
  | none => []

end SyntaxCheck
