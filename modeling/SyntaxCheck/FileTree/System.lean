import SyntaxCheck.FileTree.Node
import SyntaxCheck.Text.Location
import SyntaxCheck.Text.Utf8

/-!
# File systems

A file system is a file tree with a working directory. `FileSystem.resolve` finds what a written
path names: the path of a file or a directory on which no link lies. `FileSystem.read` reads what is
there.
-/

namespace SyntaxCheck

/-- Why the system refuses a path. -/
inductive SystemError
  | notFound
  | notDirectory
  | isDirectory
  | tooManyLinks
  | nameTooLong
deriving DecidableEq

namespace SystemError

/-- The wording of an error, with its number. -/
def message : SystemError → String
  | .notFound => "No such file or directory (os error 2)"
  | .notDirectory => "Not a directory (os error 20)"
  | .isDirectory => "Is a directory (os error 21)"
  | .tooManyLinks => "Too many levels of symbolic links (os error 40)"
  | .nameTooLong => "File name too long (os error 36)"

end SystemError

/-- A file tree from its top, with the path of the working directory. -/
structure FileSystem where
  root : Node
  current : Path

namespace FileSystem

/-- The most bytes that a name may take. -/
def nameLimit : Nat := 255

/-- The number of bytes of a written path that is already too long. -/
def pathLimit : Nat := 4096

/-- The most links that lie on the way to what a path names. -/
def linkLimit : Nat := 40

variable (fs : FileSystem)

/-- Where a written path starts: at the top, or in the directory `here`. -/
def startOf (here : Path) (text : String) : Path :=
  if Path.isAbsolute text then [] else here

/-- Go on from the directory `here` through the parts of a path. When a link is met, `follow` goes
on where the link starts, with the parts of its target before those that are left. A link with
nothing written in it leads nowhere. -/
def walk (follow : Path → List String → Except SystemError Path) :
    Path → List String → Except SystemError Path
  | here, [] => .ok here
  | here, part :: rest =>
    match fs.root.at? here with
    | some (.directory entries) =>
      if part = "" ∨ part = "." then walk follow here rest
      else if part = ".." then walk follow here.dropLast rest
      else if nameLimit < Location.width part.toList then .error .nameTooLong
      else
        match entries.lookup part with
        | none => .error .notFound
        | some (.link target) =>
          if target = "" then .error .notFound
          else follow (startOf here target) (Path.components target ++ rest)
        | some _ => walk follow (here ++ [part]) rest
    | _ => .error .notDirectory

/-- Go on through the parts of a path and at most `n` links. -/
def walkUpTo : Nat → Path → List String → Except SystemError Path
  | 0 => fs.walk fun _ _ => .error .tooManyLinks
  | n + 1 => fs.walk (walkUpTo n)

/-- The path of what lies at the end of an absolute path, on which links may lie. -/
def resolvePath (path : Path) : Except SystemError Path :=
  fs.walkUpTo linkLimit [] path

/-- The path of what a written path names. -/
def resolve (text : String) : Except SystemError Path :=
  if text = "" then .error .notFound
  else fs.walkUpTo linkLimit (startOf fs.current text) (Path.components text)

end FileSystem

/-- Why a file cannot be read as a text. -/
inductive ReadError
  | refused (error : SystemError)
  | nulInPath
  | notText
deriving DecidableEq

namespace ReadError

def message : ReadError → String
  | .refused error => error.message
  | .nulInPath => "file name contained an unexpected NUL byte"
  | .notText => "stream did not contain valid UTF-8"

end ReadError

namespace FileSystem

variable (fs : FileSystem)

/-- The bytes of the file that a written path names. -/
def readBytes (text : String) : Except ReadError (List UInt8) :=
  if '\x00' ∈ text.toList then .error .nulInPath
  else if pathLimit ≤ Location.width text.toList then .error (.refused .nameTooLong)
  else
    match fs.resolve text with
    | .error e => .error (.refused e)
    | .ok path =>
      match fs.root.at? path with
      | some (.file content) => .ok content
      | some (.directory _) => .error (.refused .isDirectory)
      | _ => .error (.refused .notFound)

/-- The text of the file that a written path names. -/
def readText (text : String) : Except ReadError (List Char) :=
  match fs.readBytes text with
  | .error e => .error e
  | .ok bytes =>
    match Utf8.decode? bytes with
    | some chars => .ok chars
    | none => .error .notText

end FileSystem

end SyntaxCheck
