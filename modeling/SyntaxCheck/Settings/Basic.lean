/-!
# Settings

What to look for and what to leave out. Fragments are added one by one: an empty one, which would
match every path, and one that is there already are passed over.
-/

namespace SyntaxCheck

/-- The extension of the files to check, without its dot, and the fragments of paths to ignore. -/
structure Settings where
  extension : String
  ignore : List String
deriving DecidableEq

namespace Settings

/-- The fragments that are ignored unless something else is said. -/
def defaultIgnores : List String :=
  [".git", "__pycache__", ".venv", "venv", "node_modules"]

/-- The settings before anything is said. -/
def default : Settings :=
  ⟨"py", defaultIgnores⟩

def clearIgnores (s : Settings) : Settings :=
  { s with ignore := [] }

/-- Add a fragment to those before it, unless it is empty or there already. -/
def addFragment (fragments : List String) (fragment : String) : List String :=
  if fragment = "" ∨ fragment ∈ fragments then fragments else fragments ++ [fragment]

def extendIgnores (s : Settings) (fragments : List String) : Settings :=
  { s with ignore := fragments.foldl addFragment s.ignore }

/-- Set the extension, which is written with or without dots before it. -/
def setExtension (s : Settings) (text : String) : Settings :=
  { s with extension := String.ofList (text.toList.dropWhile (· == '.')) }

end Settings

end SyntaxCheck
