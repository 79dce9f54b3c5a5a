/-!
# Locations

A fault is found at a byte offset of a text and is reported at a line and a column. Lines end at
line feeds, columns count characters, both from one. `locate` reads the text once from the front.
-/

namespace SyntaxCheck

/-- A place in a text as a reader names it: both numbers count from one. -/
structure Location where
  line : Nat
  column : Nat
deriving DecidableEq

namespace Location

/-- The number of bytes that a text takes in UTF-8. -/
def width : List Char → Nat
  | [] => 0
  | c :: rest => c.utf8Size + width rest

/-- Walk `offset` bytes into `text`. The walk stands at `line` and `column`, `bytes` bytes after the
start of that line. It stops at the end of the text; inside a character the bytes of the line are
counted instead of its characters. -/
def advance (line column bytes : Nat) : List Char → Nat → Location
  | [], _ => ⟨line, column⟩
  | c :: rest, offset =>
    if offset = 0 then ⟨line, column⟩
    else if offset < c.utf8Size then ⟨line, bytes + offset + 1⟩
    else if c = '\n' then advance (line + 1) 1 0 rest (offset - c.utf8Size)
    else advance line (column + 1) (bytes + c.utf8Size) rest (offset - c.utf8Size)

end Location

/-- The location of a byte offset; offsets past the end stand for the end. -/
def locate (text : List Char) (offset : Nat) : Location :=
  Location.advance 1 1 0 text offset

end SyntaxCheck
