import SyntaxCheck.FileTree.System
import SyntaxCheck.Source

/-!
# Checking a file

A file is read as a text and the text is checked. One byte order mark in front of the text is left
out.
-/

namespace SyntaxCheck

/-- Why a file does not pass. -/
inductive FileFault
  | unreadable (error : ReadError)
  | rejected (rejection : Rejection)
deriving DecidableEq

namespace FileFault

def text : FileFault → String
  | .unreadable error => "could not read file: " ++ error.message
  | .rejected r => r.text

/-- The line of a fault, if the file could be read. -/
def line? : FileFault → Option Nat
  | .unreadable _ => none
  | .rejected r => some r.line

/-- The wording of a fault in a report, where it is never empty. -/
def reported (fault : FileFault) : String :=
  if fault.text = "" then "unknown error" else fault.text

end FileFault

def dropByteOrderMark : List Char → List Char
  | [] => []
  | c :: rest => if c = '\ufeff' then rest else c :: rest

/-- Check the file that a written path names. -/
def checkFile [CharacterNames] (fs : FileSystem) (path : String) : Except FileFault Unit :=
  match fs.readText path with
  | .error error => .error (.unreadable error)
  | .ok text =>
    match checkSource (dropByteOrderMark text) with
    | .error r => .error (.rejected r)
    | .ok () => .ok ()

end SyntaxCheck
