import SyntaxCheck.Fault
import SyntaxCheck.Text.Digit
import SyntaxCheck.Text.Identifier
import SyntaxCheck.Text.Letter
import SyntaxCheck.Text.Location

/-!
# From letters to tokens

`lex` reads a text into tokens up to its end or to the first fault. Outside brackets a line that
holds text ends in a `newline` token, and a change of its indentation is told by `indent` and
`dedent` tokens before its first word. Inside brackets lines and their indentation mean nothing.

A fault in the first word of a line comes before the tokens for the indentation of that line.
-/

namespace SyntaxCheck

/-- The tokens of a text up to its end, or up to a fault. -/
structure Lexed where
  lexemes : List Lexeme
  fault : Option Diagnosis
deriving DecidableEq

namespace Lexer

def fail {α : Type} (fault : Fault) (offset : Nat) : Except Diagnosis α :=
  .error ⟨fault, offset⟩

/-! ### Indentation -/

/-- The blanks before the text of a line. -/
structure Indentation where
  tabs : Nat
  spaces : Nat
deriving DecidableEq

/-- Two indentations are ordered only if they are so for every width of a tab. -/
def Indentation.compare? (a b : Indentation) : Option Ordering :=
  if a.tabs < b.tabs then if a.spaces ≤ b.spaces then some .lt else none
  else if b.tabs < a.tabs then if b.spaces ≤ a.spaces then some .gt else none
  else some (compare a.spaces b.spaces)

/-- What the lexer knows between two tokens: the text to come, the indentations of the open blocks
from the innermost outwards, the number of open brackets, and whether a line begins here. -/
structure State where
  text : List Letter
  blocks : List Indentation
  depth : Nat
  lineStart : Bool
deriving DecidableEq

/-- Measure the indentation of the next line that holds text. A comment, a form feed and the end of
a line start the measure again; the end of the text has none. -/
def measure (inComment : Bool) (level : Indentation) :
    List Letter → Except Diagnosis (Indentation × List Letter)
  | [] => .ok (⟨0, 0⟩, [])
  | l :: rest =>
    if l.char = '\n' then measure false ⟨0, 0⟩ rest
    else if inComment then measure true level rest
    else if l.char = ' ' then measure false { level with spaces := level.spaces + 1 } rest
    else if l.char = '\t' then
      if level.spaces = 0 then measure false { level with tabs := level.tabs + 1 } rest
      else fail .tabAfterSpace l.start
    else if l.char = '#' then measure true ⟨0, 0⟩ rest
    else if l.char = '\x0c' then measure false ⟨0, 0⟩ rest
    else .ok (level, l :: rest)

/-- The blocks that stay open at a smaller indentation, with the number of those that it closes. -/
def closeBlocks (level : Indentation) : List Indentation → Except Fault (List Indentation × Nat)
  | [] =>
    match level.compare? ⟨0, 0⟩ with
    | none => .error .inconsistentTabs
    | some .gt => .error .unindent
    | some _ => .ok ([], 0)
  | top :: outer =>
    match level.compare? top with
    | none => .error .inconsistentTabs
    | some .gt => .error .unindent
    | some .eq => .ok (top :: outer, 0)
    | some .lt => (closeBlocks level outer).map fun (open_, n) => (open_, n + 1)

/-- Begin a line: its indentation opens a block, closes some, or changes nothing. -/
def beginLine (finish : Nat) (s : State) : Except Diagnosis (List Lexeme × State) := do
  let (level, rest) ← measure false ⟨0, 0⟩ s.text
  let s := { s with text := rest, lineStart := rest.isEmpty }
  let here := Letter.offset finish rest
  if s.depth ≠ 0 then return ([], s)
  match level.compare? (s.blocks.headD ⟨0, 0⟩) with
  | none => fail .inconsistentTabs here
  | some .eq => return ([], s)
  | some .gt =>
    return ([⟨here - level.tabs - level.spaces, .indent, here⟩],
      { s with blocks := level :: s.blocks })
  | some .lt =>
    match closeBlocks level s.blocks with
    | .error fault => fail fault here
    | .ok (blocks, n) => return (List.replicate n ⟨here, .dedent, here⟩, { s with blocks })

/-! ### Numbers -/

def digitNext (radix : Nat) : List Letter → Bool
  | [] => false
  | l :: _ => (digit? radix l.char).isSome

/-- Take digits, with single underscores before digits, as far as they go. -/
def takeDigits (radix : Nat) : List Letter → List Nat × List Letter
  | [] => ([], [])
  | l :: rest =>
    match digit? radix l.char with
    | some d =>
      let (more, rest) := takeDigits radix rest
      (d :: more, rest)
    | none =>
      if l.char = '_' ∧ digitNext radix rest then takeDigits radix rest else ([], l :: rest)

def valueOf (radix : Nat) (digits : List Nat) : Nat :=
  digits.foldl (fun n d => n * radix + d) 0

/-- Whether an exponent with digits comes next. -/
def exponentNext (text : List Letter) : Bool :=
  match Letter.ahead 3 text with
  | 'e' :: s :: rest | 'E' :: s :: rest =>
    s.isDigit || ((s == '+' || s == '-') && rest.any Char.isDigit)
  | _ => false

/-- Take a fraction: a point and digits, if a point comes next. -/
def takeFraction (text : List Letter) : Except Diagnosis (List Nat × List Letter) :=
  match text with
  | [] => .ok ([], [])
  | l :: rest =>
    if l.char ≠ '.' then .ok ([], text)
    else if Letter.ahead 1 rest = ['_'] then fail .misplacedUnderscore l.start
    else .ok (takeDigits 10 rest)

/-- Take an exponent, if its letter comes next. The numeral is invalid without a digit. -/
def takeExponent (finish : Nat) (text : List Letter) : Except Diagnosis (Int × List Letter) :=
  match text with
  | [] => .ok (0, [])
  | l :: rest => do
    if l.char ≠ 'e' ∧ l.char ≠ 'E' then return (0, text)
    if Letter.ahead 1 rest = ['_'] then fail .misplacedUnderscore l.start
    let signed := Letter.ahead 1 rest = ['+'] ∨ Letter.ahead 1 rest = ['-']
    if signed ∧ Letter.ahead 1 (rest.drop 1) = ['_'] then
      fail .misplacedUnderscore (Letter.offset finish rest)
    let (digits, after) := takeDigits 10 (if signed then rest.drop 1 else rest)
    if digits.isEmpty then fail .invalidDecimal (Letter.offset finish after)
    let size : Int := valueOf 10 digits
    return (if Letter.ahead 1 rest = ['-'] then -size else size, after)

/-- Whether the text goes on with one of two characters; if so, the text after it. -/
def afterEither? (a b : Char) : List Letter → Option (List Letter)
  | [] => none
  | l :: rest => if l.char = a ∨ l.char = b then some rest else none

/-- Read a decimal numeral: an integer, a fraction, or one of them times the imaginary unit. -/
def takeDecimal (finish : Nat) (text : List Letter) : Except Diagnosis (Token × List Letter) := do
  let (whole, rest) := takeDigits 10 text
  if Letter.ahead 1 rest = ['.'] ∨ exponentNext rest then
    let (fraction, rest) ← takeFraction rest
    let (exponent, rest) ← takeExponent finish rest
    let value : Decimal := ⟨valueOf 10 (whole ++ fraction), exponent - fraction.length⟩
    match afterEither? 'j' 'J' rest with
    | some rest => return (.imaginary value, rest)
    | none => return (.float value, rest)
  else
    let value := valueOf 10 whole
    match afterEither? 'j' 'J' rest with
    | some rest => return (.imaginary ⟨value, 0⟩, rest)
    | none =>
      if whole.head? = some 0 ∧ value ≠ 0 then fail .leadingZero (Letter.offset finish rest)
      else return (.integer value, rest)

/-- Read an integer in another radix, after its two leading characters. -/
def takeRadix (radix start : Nat) (text : List Letter) : Except Diagnosis (Token × List Letter) :=
  match takeDigits radix text with
  | ([], _) => fail .noDigits start
  | (digits, rest) => .ok (.integer (valueOf radix digits), rest)

def takeNumber (finish : Nat) (text : List Letter) : Except Diagnosis (Token × List Letter) :=
  let start := Letter.offset finish text
  match Letter.ahead 2 text with
  | ['0', 'x'] | ['0', 'X'] => takeRadix 16 start (text.drop 2)
  | ['0', 'o'] | ['0', 'O'] => takeRadix 8 start (text.drop 2)
  | ['0', 'b'] | ['0', 'B'] => takeRadix 2 start (text.drop 2)
  | _ => takeDecimal finish text

/-! ### Strings, names and signs -/

/-- The content of a string up to its closing quotes. A backslash takes the next character with it.
-/
def takeContent (finish : Nat) (quote : Char) (triple : Bool) :
    List Letter → Except Diagnosis (List Char × List Letter)
  | [] => fail (if triple then .unfinishedText else .unfinishedString) finish
  | l :: rest =>
    if l.char = '\\' then
      match rest with
      | [] => fail (if triple then .unfinishedText else .unfinishedString) finish
      | m :: rest =>
        (takeContent finish quote triple rest).map fun (cs, after) => ('\\' :: m.char :: cs, after)
    else if l.char = '\n' ∧ ¬ triple then fail .lineEndInString l.stop
    else if l.char = quote ∧ ¬ triple then .ok ([], rest)
    else if l.char = quote ∧ Letter.ahead 2 rest = [quote, quote] then .ok ([], rest.drop 2)
    else (takeContent finish quote triple rest).map fun (cs, after) => (l.char :: cs, after)

def isQuote (c : Char) : Bool :=
  c == '\'' || c == '"'

/-- Read a string from its opening quote. -/
def takeString (finish : Nat) (form : StringForm) (text : List Letter) :
    Except Diagnosis (Token × List Letter) := do
  match Letter.ahead 3 text with
  | [] => fail .unfinishedString finish
  | quote :: next =>
    let triple := next == [quote, quote]
    let (content, rest) ← takeContent finish quote triple (text.drop (if triple then 3 else 1))
    return (.string ⟨form, triple, content⟩, rest)

/-- The form of a string whose letters and quote come next, with the number of those letters. -/
def stringNext? (text : List Letter) : Option (StringForm × Nat) :=
  match Letter.ahead 3 text with
  | a :: b :: rest =>
    if isQuote b then (StringForm.ofLetters? [a]).map (·, 1)
    else if rest.any isQuote then (StringForm.ofLetters? [a, b]).map (·, 2)
    else none
  | _ => none

/-- Read a name or a reserved word. -/
def takeWord (text : List Letter) : Token × List Letter :=
  let id := String.ofList ((text.takeWhile fun l => Identifier.isContinue l.char).map Letter.char)
  let token :=
    match Keyword.ofSpelling? id with
    | some k => .keyword k
    | none => .name id
  (token, text.dropWhile fun l => Identifier.isContinue l.char)

/-- Read the longest sign. -/
def takeSign (text : List Letter) : Option (Token × List Letter) :=
  [3, 2, 1].findSome? fun n =>
    (Sign.ofSpelling? (String.ofList (Letter.ahead n text))).map (.sign ·, text.drop n)

def takeToken (finish : Nat) (text : List Letter) : Except Diagnosis (Token × List Letter) :=
  match text with
  | [] => fail .unfinishedText finish
  | l :: rest =>
    if Identifier.isStart l.char then
      match stringNext? text with
      | some (form, n) => takeString finish form (text.drop n)
      | none => .ok (takeWord text)
    else if Identifier.isEmoji l.char then .ok (.name l.char.toString, rest)
    else if l.char.isDigit ∨ (l.char = '.' ∧ digitNext 10 rest) then takeNumber finish text
    else if isQuote l.char then takeString finish .plain text
    else
      match takeSign text with
      | some found => .ok found
      | none => fail (.unexpectedCharacter l.char) (if l.char = '!' then l.start else l.stop)

/-! ### Lines -/

/-- The number of open brackets after a token. -/
def depthAfter (token : Token) (stop depth : Nat) : Except Diagnosis Nat :=
  match token with
  | .sign s =>
    if s.opens then .ok (depth + 1)
    else if s.closes then if depth = 0 then fail .unexpectedNesting stop else .ok (depth - 1)
    else .ok depth
  | _ => .ok depth

/-- Whether the character separates words inside a line. -/
def isBlank (c : Char) : Bool :=
  c == ' ' || c == '\t' || c == '\x0c'

/-- Read one token, or skip what makes none. No state is left after the end of the text, where the
last line and all blocks are closed. -/
def step (finish : Nat) (s : State) : Except Diagnosis (List Lexeme × Option State) :=
  match s.text with
  | [] =>
    if s.depth ≠ 0 then fail .unfinishedText finish
    else
      .ok ((if s.lineStart then [] else [⟨finish, .newline, finish⟩]) ++
        s.blocks.map fun _ => ⟨finish, .dedent, finish⟩, none)
  | l :: rest =>
    if l.char = '\n' then
      if s.depth = 0 then
        .ok ([⟨l.start, .newline, l.stop⟩], some { s with text := rest, lineStart := true })
      else .ok ([], some { s with text := rest })
    else if isBlank l.char then .ok ([], some { s with text := rest })
    else if l.char = '#' then .ok ([], some { s with text := Letter.dropLine rest })
    else if l.char = '\\' then
      if Letter.ahead 1 rest ≠ ['\n'] then fail .lineContinuation l.stop
      else if (rest.drop 1).isEmpty then fail .unfinishedText finish
      else .ok ([], some { s with text := rest.drop 1 })
    else do
      let (token, after) ← takeToken finish s.text
      let stop := Letter.offset finish after
      let depth ← depthAfter token stop s.depth
      return ([⟨l.start, token, stop⟩], some { s with text := after, depth })

/-- Begin a line if one begins here, then read on. -/
def next (finish : Nat) (s : State) : Except Diagnosis (List Lexeme × Option State) := do
  if s.lineStart then
    let (layout, s) ← beginLine finish s
    let (tokens, s) ← step finish s
    return (layout ++ tokens, s)
  else step finish s

/-- Read on for at most `fuel` steps. -/
def run (finish : Nat) : Nat → State → Lexed
  | 0, _ => ⟨[], none⟩
  | fuel + 1, s =>
    match next finish s with
    | .error fault => ⟨[], some fault⟩
    | .ok (tokens, none) => ⟨tokens, none⟩
    | .ok (tokens, some s) =>
      let rest := run finish fuel s
      ⟨tokens ++ rest.lexemes, rest.fault⟩

end Lexer

/-- The tokens of a text that begins at the byte offset `origin`. Every step but the last takes a
letter, so one step more than there are letters is enough. -/
def lex (origin : Nat) (text : List Char) : Lexed :=
  let letters :=
    match Letter.ofText origin text with
    | l :: rest => if l.char = '\ufeff' then rest else l :: rest
    | [] => []
  Lexer.run (origin + Location.width text) (letters.length + 1) ⟨letters, [], 0, true⟩

end SyntaxCheck
