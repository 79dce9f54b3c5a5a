import SyntaxCheck.FileTree.Path

/-!
# File trees

A node of a file tree is a regular file, a symbolic link or a directory. The names in a directory
differ from each other. `Node.at?` goes down a path without following links.
-/

namespace SyntaxCheck

/-- A node of a file tree. A link holds the path that it points to, as written. -/
inductive Node
  | file (content : List UInt8)
  | link (target : String)
  | directory (entries : List (String × Node))

namespace Node

def empty : Node := .directory []

def isDirectory : Node → Bool
  | .directory _ => true
  | _ => false

/-- The entries of a directory; other nodes have none. -/
def entries : Node → List (String × Node)
  | .directory entries => entries
  | _ => []

def child? (node : Node) (name : String) : Option Node :=
  node.entries.lookup name

def at? (node : Node) : Path → Option Node
  | [] => some node
  | name :: rest =>
    match node.child? name with
    | some child => at? child rest
    | none => none

/-- Give a name a node, in place of the one that it had or after all others. -/
def setEntry (name : String) (child : Node) : List (String × Node) → List (String × Node)
  | [] => [(name, child)]
  | (other, old) :: rest =>
    if other = name then (name, child) :: rest else (other, old) :: setEntry name child rest

/-- Put a node at a path, with directories on the way to it. -/
def insert (child : Node) : Path → Node → Node
  | [], _ => child
  | name :: rest, node =>
    .directory (setEntry name (insert child rest ((node.child? name).getD empty)) node.entries)

mutual

def linkCount : Node → Nat
  | .file _ => 0
  | .link _ => 1
  | .directory entries => linkCountOf entries

def linkCountOf : List (String × Node) → Nat
  | [] => 0
  | (_, node) :: rest => linkCount node + linkCountOf rest

end

end Node

end SyntaxCheck
