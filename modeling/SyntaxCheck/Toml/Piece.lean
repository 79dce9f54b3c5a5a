import SyntaxCheck.Toml.Fault

/-!
# The pieces of a settings text

A text is cut into marks, blanks, line ends, comments and raw keys and values. Cutting never fails:
an unfinished string runs to the end of its line or of the text and is found faulty when it is
decoded.
-/

namespace SyntaxCheck.Toml

/-- A key or a value as it is written, quotes and all. -/
structure Raw where
  quoting : Option Quoting
  text : List Char
deriving DecidableEq

namespace Raw

/-- What stands where a key or a value is missing. -/
def missing : Raw := ⟨none, []⟩

end Raw

/-- A piece of a text. A line end is proper unless it is a carriage return alone. -/
inductive Piece
  | dot
  | equals
  | comma
  | openSquare
  | closeSquare
  | openCurly
  | closeCurly
  | blank (text : List Char)
  | comment (text : List Char)
  | lineEnd (proper : Bool)
  | raw (raw : Raw)
deriving DecidableEq

namespace Piece

/-- Whether the character separates pieces on a line. -/
def isBlank (c : Char) : Bool :=
  c == ' ' || c == '\t'

def endsWord (c : Char) : Bool :=
  ['.', '=', ',', '[', ']', '\x7b', '\x7d', ' ', '\t', '#', '\r', '\n'].contains c

/-- The rest of a one-line literal string, with its closing quote if there is one on the line. -/
def takeLiteral : List Char → List Char × List Char
  | [] => ([], [])
  | c :: rest =>
    if c = '\'' then ([c], rest)
    else if c = '\n' then ([], c :: rest)
    else
      let (text, after) := takeLiteral rest
      (c :: text, after)

/-- The rest of a one-line basic string, with its closing quote if there is one on the line. A
backslash before a backslash or a quote takes it along. -/
def takeBasic : List Char → List Char × List Char
  | [] => ([], [])
  | '\\' :: c :: rest =>
    if c = '\\' ∨ c = '"' then
      let (text, after) := takeBasic rest
      ('\\' :: c :: text, after)
    else
      let (text, after) := takeBasic (c :: rest)
      ('\\' :: text, after)
  | c :: rest =>
    if c = '"' then ([c], rest)
    else if c = '\n' then ([], c :: rest)
    else
      let (text, after) := takeBasic rest
      (c :: text, after)

/-- Take up to `n` copies of a character. -/
def takeCopies (q : Char) : Nat → List Char → List Char × List Char
  | n + 1, c :: rest =>
    if c = q then
      let (text, after) := takeCopies q n rest
      (c :: text, after)
    else ([], c :: rest)
  | _, text => ([], text)

/-- The rest of a string in triple quotes, with the closing quotes. Up to two more quotes belong to
the content of the string. In a basic string a backslash takes a backslash or a quote along. -/
def takeMultiline (q : Char) : List Char → List Char × List Char
  | [] => ([], [])
  | '\\' :: c :: rest =>
    if q = '"' ∧ (c = '\\' ∨ c = '"') then
      let (text, after) := takeMultiline q rest
      ('\\' :: c :: text, after)
    else
      let (text, after) := takeMultiline q (c :: rest)
      ('\\' :: text, after)
  | c :: rest =>
    if c = q ∧ rest.take 2 = [q, q] then takeCopies q 5 (c :: rest)
    else
      let (text, after) := takeMultiline q rest
      (c :: text, after)

/-- A quoted piece from its opening quote. -/
def takeQuoted (q : Char) (text : List Char) : Piece × List Char :=
  if text.take 3 = [q, q, q] then
    let (content, after) := takeMultiline q (text.drop 3)
    let quoting := if q = '"' then Quoting.multilineBasic else Quoting.multilineLiteral
    (.raw ⟨some quoting, q :: q :: q :: content⟩, after)
  else if q = '"' then
    let (content, after) := takeBasic (text.drop 1)
    (.raw ⟨some .basic, q :: content⟩, after)
  else
    let (content, after) := takeLiteral (text.drop 1)
    (.raw ⟨some .literal, q :: content⟩, after)

def mark? : Char → Option Piece
  | '.' => some .dot
  | '=' => some .equals
  | ',' => some .comma
  | '[' => some .openSquare
  | ']' => some .closeSquare
  | '\x7b' => some .openCurly
  | '\x7d' => some .closeCurly
  | _ => none

/-- The first piece of a text that begins with `c` and goes on with `rest`. -/
def take (c : Char) (rest : List Char) : Piece × List Char :=
  match mark? c with
  | some piece => (piece, rest)
  | none =>
    if isBlank c then (.blank (c :: rest.takeWhile isBlank), rest.dropWhile isBlank)
    else if c = '#' then
      (.comment (rest.takeWhile fun c => c ≠ '\r' ∧ c ≠ '\n'),
        rest.dropWhile fun c => c ≠ '\r' ∧ c ≠ '\n')
    else if c = '\n' then (.lineEnd true, rest)
    else if c = '\r' then
      if rest.head? = some '\n' then (.lineEnd true, rest.drop 1) else (.lineEnd false, rest)
    else if c = '"' ∨ c = '\'' then takeQuoted c (c :: rest)
    else
      (.raw ⟨none, c :: rest.takeWhile fun c => !endsWord c⟩, rest.dropWhile fun c => !endsWord c)

/-- The pieces of a text, at most `fuel` of them. -/
def cut : Nat → List Char → List Piece
  | 0, _ | _, [] => []
  | fuel + 1, c :: rest =>
    let (piece, after) := take c rest
    piece :: cut fuel after

end Piece

/-- The pieces of a text. Each of them takes a character, so there are no more of them than
characters. A byte order mark in front is passed over. -/
def pieces (text : List Char) : List Piece :=
  let text := if text.head? = some '\ufeff' then text.drop 1 else text
  Piece.cut text.length text

end SyntaxCheck.Toml
