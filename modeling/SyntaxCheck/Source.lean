import SyntaxCheck.Grammar.Statement
import SyntaxCheck.Target.Places
import SyntaxCheck.Text.Location

/-!
# Checking a source text

A text is accepted if the grammar makes a module of it in which every target is fit to be one.
Otherwise the rejection tells the first fault and where it is.
-/

namespace SyntaxCheck

/-- Why a text is rejected. -/
inductive SourceFault
  | grammar (fault : Fault)
  | target (fault : TargetFault)
deriving DecidableEq

def SourceFault.message : SourceFault → String
  | .grammar fault => fault.message
  | .target fault => fault.message

/-- A rejected text: the fault, the byte offset where it was found, and what a reader calls the
place. -/
structure Rejection where
  fault : SourceFault
  offset : Nat
  location : Location
deriving DecidableEq

namespace Rejection

def message (r : Rejection) : String := r.fault.message

def line (r : Rejection) : Nat := r.location.line

def column (r : Rejection) : Nat := r.location.column

/-- The message with the place after it. -/
def text (r : Rejection) : String :=
  r.message ++ " (line " ++ toString r.line ++ ", column " ++ toString r.column ++ ")"

end Rejection

def reject (text : List Char) (fault : SourceFault) (offset : Nat) : Rejection :=
  ⟨fault, offset, locate text offset⟩

/-- Check a text: it has to be a module, and the targets in the module have to be fit. -/
def checkSource [CharacterNames] (text : List Char) : Except Rejection Unit :=
  match parseModule text with
  | .error d => .error (reject text (.grammar d.value) d.offset)
  | .ok module =>
    match firstInvalid? module with
    | some d => .error (reject text (.target d.value) d.offset)
    | none => .ok ()

end SyntaxCheck
