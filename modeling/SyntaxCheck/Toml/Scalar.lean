import SyntaxCheck.Text.Digit
import SyntaxCheck.Toml.DateTime
import SyntaxCheck.Toml.Outline

/-!
# Keys and scalars

What raw keys and scalars stand for. Strings lose their quotes and escapes; numbers keep their
digits, without underscores, because what range they have to be in depends on who reads them.
-/

namespace SyntaxCheck.Toml

/-- A value that is no collection. The digits of an integer may have a sign before them. -/
inductive Scalar
  | text (value : List Char)
  | boolean (value : Bool)
  | integer (radix : Nat) (digits : List Char)
  | float (text : List Char)
  | dateTime
deriving DecidableEq

namespace Decode

/-! ### Strings -/

def unquote (q : Quoting) (text : List Char) : Except Fault (List Char) :=
  let inner := text.drop q.quotes.length
  let inner :=
    if q.isMultiline then
      match inner with
      | '\r' :: '\n' :: rest => rest
      | '\n' :: rest => rest
      | rest => rest
    else inner
  if q.quotes.isSuffixOf inner then .ok (inner.take (inner.length - q.quotes.length))
  else .error (.unterminated q)

def isVisible (q : Quoting) (c : Char) : Bool :=
  c = '\t' || (q.isMultiline && c = '\n') || (0x20 ≤ c.toNat && c.toNat ≠ 0x7F)

/-- Check the content of a literal string. -/
def literal (q : Quoting) : List Char → Except Fault (List Char)
  | [] => .ok []
  | c :: rest =>
    if q.isMultiline ∧ c = '\r' then
      if rest.head? = some '\n' then (literal q rest).map (c :: ·) else .error (.returnInString q)
    else if isVisible q c then (literal q rest).map (c :: ·)
    else .error (.invalidCharacter q)

/-- The character whose number the next `n` characters write. -/
def codePoint (n : Nat) (text : List Char) : Except Fault Char := do
  let digits := (text.take n).map (digit? 16)
  if digits.length < n ∨ digits.contains none then throw .tooFewDigits
  let value := digits.foldl (fun v d => v * 16 + d.getD 0) 0
  if value.isValidChar then return Char.ofNat value else throw .invalidCodePoint

/-- The number of digits after the letter of a numeric escape. -/
def escapeDigits? : Char → Option Nat
  | 'x' => some 2
  | 'u' => some 4
  | 'U' => some 8
  | _ => none

/-- The character that a letter after a backslash stands for. -/
def escaped? : Char → Option Char
  | 'b' => some '\x08'
  | 'e' => some '\x1b'
  | 'f' => some '\x0c'
  | 'n' => some '\n'
  | 'r' => some '\r'
  | 't' => some '\t'
  | '\\' => some '\\'
  | '"' => some '"'
  | _ => none

/-- What an escape stands for, and the number of characters after the backslash that it takes. -/
def escape : List Char → Except Fault (Char × Nat)
  | [] => .error .missingEscape
  | c :: rest =>
    match escapeDigits? c with
    | some n => (codePoint n rest).map (·, n + 1)
    | none =>
      match escaped? c with
      | some value => .ok (value, 1)
      | none => .error .missingEscape

/-- The number of characters that a backslash at the end of a line takes: blanks, a line end, and
all blanks and line ends after it. -/
def continuation (text : List Char) : Except Fault Nat := do
  let rest := text.dropWhile Piece.isBlank
  let afterLine ←
    match rest with
    | '\n' :: rest => pure rest
    | '\r' :: '\n' :: rest => pure rest
    | '\r' :: _ => throw (.returnInString .multilineBasic)
    | _ => throw (.escapedText .multilineBasic)
  let after := afterLine.dropWhile fun c => Piece.isBlank c || c = '\n' || c = '\r'
  return text.length - after.length

/-- Whether a backslash in a string stands at the end of a line. -/
def continues (q : Quoting) (rest : List Char) : Bool :=
  q.isMultiline && rest.head?.any fun c => Piece.isBlank c || c = '\n' || c = '\r'

/-- The content of a basic string. The first `pending` characters belong to an escape that has been
decoded. -/
def basic (q : Quoting) (pending : Nat) : List Char → Except Fault (List Char)
  | [] => .ok []
  | c :: rest =>
    match pending with
    | n + 1 => basic q n rest
    | 0 =>
      if c = '\\' then
        if continues q rest then do basic q (← continuation rest) rest
        else do
          let (value, n) ← escape rest
          return value :: (← basic q n rest)
      else if q.isMultiline ∧ c = '\r' then
        if rest.head? = some '\n' then (basic q 0 rest).map (c :: ·)
        else .error (.returnInString q)
      else if isVisible q c then (basic q 0 rest).map (c :: ·)
      else .error (.invalidCharacter q)

def string (q : Quoting) (text : List Char) : Except Fault (List Char) := do
  let inner ← unquote q text
  match q with
  | .basic | .multilineBasic => basic q 0 inner
  | .literal | .multilineLiteral => literal q inner

/-! ### Keys -/

def isKeyChar (c : Char) : Bool :=
  c.isAlphanum || c = '-' || c = '_'

def key (raw : Raw) : Except Fault String := do
  match raw.quoting with
  | some q =>
    if q.isMultiline then throw (.multilineKey q)
    return String.ofList (← string q raw.text)
  | none =>
    if raw.text.isEmpty then throw .emptyKey
    if !raw.text.all isKeyChar then throw .invalidKey
    return String.ofList raw.text

/-! ### Numbers and words -/

/-- What to say of a scalar that is nothing: its opening quotes may be missing. -/
def invalid {α : Type} (text : List Char) : Except Fault α :=
  let quotes := ["'''", "\"\"\"", "'", "\""]
  match quotes.find? fun q => q.toList.isSuffixOf text with
  | some q => .error (.missingQuote q)
  | none => .error .unquoted

def isDigitOf (radix : Nat) (c : Char) : Bool :=
  (digit? radix c).isSome

/-- Check the part of a number between two underscores, or between one and an end. -/
def checkBetween (radix : Nat) (first last : Bool) (part : List Char) : Except Fault Unit :=
  let begins := first || part.head?.any (isDigitOf radix)
  let ends := last || part.getLast?.any (isDigitOf radix)
  if begins && ends then .ok () else .error .misplacedUnderscore

def splitUnderscores : List Char → List (List Char)
  | [] => [[]]
  | c :: rest =>
    match splitUnderscores rest with
    | [] => [[c]]
    | part :: parts => if c = '_' then [] :: part :: parts else (c :: part) :: parts

/-- Check the parts of a number after the first one. -/
def checkParts (radix : Nat) : List (List Char) → Except Fault Unit
  | [] => .ok ()
  | [part] => checkBetween radix false true part
  | part :: rest => do
    checkBetween radix false false part
    checkParts radix rest

/-- Drop underscores, which have to be between digits. -/
def dropUnderscores (radix : Nat) (text : List Char) : Except Fault (List Char) := do
  match splitUnderscores text with
  | [] | [_] => return text
  | first :: rest =>
    checkBetween radix (!first.isEmpty) false first
    checkParts radix rest
    return (first :: rest).flatten

/-- Take digits and underscores; there has to be a digit. Unless `padded` is set, several digits
cannot begin with a zero. -/
def takeUnsigned (padded : Bool) (part : String) (text : List Char) :
    Except Fault (List Char) := do
  let run := text.takeWhile fun c => c.isDigit || c = '_'
  let count := run.countP Char.isDigit
  if count = 0 then throw (.noDigits part)
  if 1 < count ∧ run.head? = some '0' ∧ !padded then throw .leadingZero
  return text.drop run.length

/-- Take the digits after a mark, if one of the marks comes next; a sign may stand between. -/
def takeAfter (marks : List Char) (signed : Bool) (part : String) (text : List Char) :
    Except Fault (List Char) := do
  match text with
  | [] => return []
  | c :: rest =>
    if !marks.contains c then return text
    let rest := if signed && (rest.head? = some '+' || rest.head? = some '-') then rest.drop 1
      else rest
    takeUnsigned true part rest

/-- Check the form of a float without its sign. -/
def checkFloat (text : List Char) : Except Fault Unit := do
  let rest ← takeUnsigned false "mantissa" text
  let rest ← takeAfter ['.'] false "fraction" rest
  let rest ← takeAfter ['e', 'E'] true "exponent" rest
  if !rest.isEmpty then throw .invalidFloat

/-- A float, with the whole of its text and the text without its sign. -/
def float (whole unsigned : List Char) : Except Fault Scalar := do
  checkFloat unsigned
  return .float (← dropUnderscores 10 whole)

/-- A decimal integer, with the whole of its text and the text without its sign. -/
def integer (whole unsigned : List Char) : Except Fault Scalar := do
  if unsigned.head? = some '0' ∧ unsigned ≠ ['0'] then throw .leadingZero
  return .integer 10 (← dropUnderscores 10 whole)

/-- A date, a time, a float or an integer, which begins with a digit or an underscore. -/
def numeric (whole unsigned : List Char) : Except Fault Scalar := do
  let rest := unsigned.dropWhile Char.isDigit
  match rest.head? with
  | none => integer whole unsigned
  | some c =>
    if c = '-' ∨ c = ':' then
      DateTime.check whole
      return .dateTime
    else if rest.contains ' ' then invalid whole
    else if rest.any fun c => c = '.' ∨ c = 'e' ∨ c = 'E' then float whole unsigned
    else if c = '_' then integer whole unsigned
    else invalid whole

/-- The radix of a number that begins with a zero and a letter, with its name. -/
def radixOf? : Char → Option (Nat × String)
  | 'x' => some (16, "hexadecimal")
  | 'o' => some (8, "octal")
  | 'b' => some (2, "binary")
  | 'd' => some (10, "integer")
  | _ => none

/-- An integer in a radix, from the letter after its zero. -/
def radixed (signed : Bool) (letter : Char) (radix : Nat) (numeral : String) (digits : List Char) :
    Except Fault Scalar := do
  if radix = 10 then throw .decimalRadix
  if signed then throw .signedRadix
  if letter.isUpper then throw (.upperCaseRadix ("0" ++ letter.toLower.toString))
  if digits.head? = some '+' ∨ digits.head? = some '-' then throw .signedRadix
  if !digits.all fun c => isDigitOf radix c || c = '_' then throw (.invalidDigit numeral)
  return .integer radix (← dropUnderscores radix digits)

/-- A word that stands for a value; another scalar that begins as it does is taken for a
misspelling. -/
def word (text expected : List Char) (value : Scalar) (fault : String → Fault) :
    Except Fault Scalar :=
  if text = expected then .ok value
  else if text.contains ' ' then invalid text
  else .error (fault (String.ofList expected))

/-- A number after its sign, if it has one. -/
def number (whole : List Char) (signed : Bool) : List Char → Except Fault Scalar
  | [] => invalid whole
  | c :: rest =>
    if signed ∧ (c = '+' ∨ c = '-') then .error .repeatedSign
    else if c = '0' then
      match rest with
      | letter :: digits =>
        match radixOf? letter.toLower with
        | some (radix, numeral) => radixed signed letter radix numeral digits
        | none => numeric whole (c :: rest)
      | [] => integer whole (c :: rest)
    else if c.isDigit ∨ c = '_' then numeric whole (c :: rest)
    else if c = '.' then float whole (c :: rest)
    else if c = 'i' ∨ c = 'I' then
      word (c :: rest) "inf".toList (.float whole) .invalidFloatWord
    else if c = 'n' ∨ c = 'N' then
      word (c :: rest) "nan".toList (.float whole) .invalidFloatWord
    else invalid whole

def bare (text : List Char) : Except Fault Scalar :=
  match text with
  | [] => invalid text
  | c :: rest =>
    if c = '+' ∨ c = '-' then number text true rest
    else if c = 't' ∨ c = 'T' then word text "true".toList (.boolean true) .invalidBoolean
    else if c = 'f' ∨ c = 'F' then word text "false".toList (.boolean false) .invalidBoolean
    else number text false text

def scalar (raw : Raw) : Except Fault Scalar :=
  match raw.quoting with
  | some q => (string q raw.text).map .text
  | none => bare raw.text

end Decode

end SyntaxCheck.Toml
