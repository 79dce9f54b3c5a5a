/-!
# Letters

The lexer reads a text as letters: characters that know the byte offsets where they begin and end.
The three ways to end a line, a line feed, a carriage return and the two together, are one letter.
-/

namespace SyntaxCheck

/-- A character of the text, with the byte offsets of its two ends. -/
structure Letter where
  char : Char
  start : Nat
  stop : Nat
deriving DecidableEq

namespace Letter

/-- The letters of a text that begins at the byte offset `origin`. -/
def ofText (origin : Nat) : List Char → List Letter
  | [] => []
  | '\r' :: '\n' :: rest => ⟨'\n', origin, origin + 2⟩ :: ofText (origin + 2) rest
  | '\r' :: rest => ⟨'\n', origin, origin + 1⟩ :: ofText (origin + 1) rest
  | c :: rest => ⟨c, origin, origin + c.utf8Size⟩ :: ofText (origin + c.utf8Size) rest

/-- Where the text goes on: the next letter, or the end of the text. -/
def offset (finish : Nat) : List Letter → Nat
  | [] => finish
  | l :: _ => l.start

/-- The characters of the next `n` letters. -/
def ahead (n : Nat) (text : List Letter) : List Char :=
  (text.take n).map char

/-- What is left after the current line; the line end itself stays. -/
def dropLine (text : List Letter) : List Letter :=
  text.dropWhile (·.char != '\n')

end Letter

end SyntaxCheck
