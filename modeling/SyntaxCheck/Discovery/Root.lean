import SyntaxCheck.FileTree.System

/-!
# The root of a run

A run starts at a directory. `resolveRoot` finds the path of that directory without links, whatever
way it is written.
-/

namespace SyntaxCheck

/-- Why there is no directory to start at. -/
inductive RootError
  | missing (text : String)
  | notDirectory (path : Path)
deriving DecidableEq

namespace RootError

/-- The wording of an error. A missing root is called as it was written. -/
def message : RootError → String
  | .missing text => "root path does not exist: " ++ text
  | .notDirectory path => "not a directory: " ++ path.absoluteText

end RootError

/-- The path of the directory that a written path names. -/
def resolveRoot (fs : FileSystem) (text : String) : Except RootError Path :=
  match fs.resolve text with
  | .error _ => .error (.missing text)
  | .ok path =>
    if (fs.root.at? path).any Node.isDirectory then .ok path else .error (.notDirectory path)

end SyntaxCheck
