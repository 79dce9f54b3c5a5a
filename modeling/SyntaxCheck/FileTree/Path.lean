/-!
# Paths

A path is a list of names, read from the directory that it starts in. Paths that start at the top of
the file tree are absolute and are written with a slash in front.
-/

namespace SyntaxCheck

/-- The names on the way from a directory to what lies below it. -/
abbrev Path := List String

namespace Path

/-- The names with slashes between them. -/
def text : Path → String
  | [] => ""
  | [name] => name
  | name :: rest => name ++ "/" ++ text rest

/-- How the path is written if it starts at the top. -/
def absoluteText (path : Path) : String :=
  "/" ++ text path

/-- The parts of a text between slashes. -/
def splitSlashes : List Char → List (List Char)
  | [] => [[]]
  | c :: rest =>
    match splitSlashes rest with
    | [] => [[c]]
    | part :: parts => if c = '/' then [] :: part :: parts else (c :: part) :: parts

/-- The parts of a written path. Empty parts and dots are kept: they ask for a directory. -/
def components (text : String) : List String :=
  (splitSlashes text.toList).map String.ofList

def isAbsolute (text : String) : Bool :=
  text.toList.head? == some '/'

/-- The part of a file name after its last dot. A dot that nothing stands before does not count. -/
def extension? (name : String) : Option String :=
  let tail := (name.toList.reverse.takeWhile (· != '.')).reverse
  let front := (name.toList.reverse.dropWhile (· != '.')).drop 1
  if front.isEmpty then none else some (String.ofList tail)

end Path

end SyntaxCheck
