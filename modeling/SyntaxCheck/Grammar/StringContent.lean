import SyntaxCheck.Ast
import SyntaxCheck.Fault
import SyntaxCheck.Text.Blank
import SyntaxCheck.Text.CharacterName
import SyntaxCheck.Text.Digit
import SyntaxCheck.Text.Location

/-!
# The content of strings

Adjacent string literals are one expression. Their contents are checked once they are complete:
escapes, bytes beyond ASCII, and the replacement fields of formatted strings, whose expressions are
parsed as texts of their own, in parentheses.

Offsets are counted from the start of a literal over its letters, its quotes and its content.
-/

namespace SyntaxCheck

variable [CharacterNames]

namespace StringContent

/-- The content still to be read, and its byte offset. -/
structure Cursor where
  rest : List Char
  offset : Nat

/-- A reader of string contents. -/
abbrev Reader (α : Type) := StateT Cursor (Except Diagnosis) α

/-- Stop at a fault at an offset. -/
def failAt {α : Type} (fault : Fault) (offset : Nat) : Reader α := fun _ => .error ⟨fault, offset⟩

def fail {α : Type} (fault : Fault) : Reader α := fun c => .error ⟨fault, c.offset⟩

def peek : Reader (Option Char) := fun c => .ok (c.rest.head?, c)

def take : Reader (Option Char) := fun c =>
  match c.rest with
  | [] => .ok (none, c)
  | x :: rest => .ok (some x, ⟨rest, c.offset + x.utf8Size⟩)

def here : Reader Nat := fun c => .ok (c.offset, c)

def remaining : Reader Nat := fun c => .ok (c.rest.length, c)

/-! ### Escapes -/

/-- Take `n` hexadecimal digits that continue `value`. -/
def hexDigits (origin : Nat) : Nat → Nat → Reader Nat
  | 0, value => return value
  | n + 1, value => do
    match (← take).bind (digit? 16) with
    | some d => hexDigits origin n (value * 16 + d)
    | none => failAt .invalidEscape origin

/-- Read a character number of `n` digits. -/
def numberEscape (n : Nat) : Reader Unit := do
  let origin ← here
  let value ← hexDigits origin n 0
  if 0x10FFFF < value then failAt .invalidEscape origin

/-- The longest character name, in bytes. -/
def maxNameWidth : Nat := 88

/-- Take characters up to a closing brace, for at most `fuel` characters. -/
def untilBrace : Nat → Reader (List Char)
  | 0 => fail .unfinishedString
  | fuel + 1 => do
    match ← take with
    | none => fail .unfinishedString
    | some '\x7d' => return []
    | some c => return c :: (← untilBrace fuel)

/-- Read a character name in braces. -/
def nameEscape : Reader Unit := do
  let origin ← here
  if (← take) ≠ some '\x7b' then failAt .unfinishedString origin
  let origin ← here
  let name ← untilBrace ((← remaining) + 1)
  if maxNameWidth < Location.width name then fail .invalidEscape
  if (CharacterNames.character? name).isNone then failAt .invalidEscape origin

/-- Read an escape, after its backslash. Unknown escapes stand for themselves. -/
def escape (inBytes : Bool) : Reader Unit := do
  match ← take with
  | none => fail .unfinishedString
  | some 'x' => numberEscape 2
  | some c =>
    if inBytes then
      if 0x80 ≤ c.toNat then fail .nonAsciiBytes
    else if c = 'u' then numberEscape 4
    else if c = 'U' then numberEscape 8
    else if c = 'N' then nameEscape

/-- Check the content of a string without fields, for at most `fuel` characters. -/
def plainContent (form : StringForm) : Nat → Reader Unit
  | 0 => return ()
  | fuel + 1 => do
    match ← take with
    | none => return ()
    | some c =>
      if c = '\\' ∧ ¬ form.isRaw then escape form.isBytes
      else if form.isBytes ∧ 0x80 ≤ c.toNat then fail .nonAsciiBytes
      plainContent form fuel

/-! ### Replacement fields -/

/-- How an expression is parsed from its text and the offset of that text. -/
abbrev ParseText := Nat → List Char → Except Diagnosis Expr

/-- A field as far as it is read: the text of its expression from the back, the brackets open in it,
whether an equals sign has ended it, and its format specification. -/
structure FieldDraft where
  textReversed : List Char := []
  brackets : List Char := []
  ended : Bool := false
  spec : Option Expr := none

def FieldDraft.isBlank (d : FieldDraft) : Bool :=
  d.textReversed.all SyntaxCheck.isBlank

def FieldDraft.push (d : FieldDraft) (c : Char) : FieldDraft :=
  { d with textReversed := c :: d.textReversed }

/-- The bracket that a closing bracket closes. -/
def opener : Char → Char
  | ')' => '('
  | ']' => '['
  | _ => '\x7b'

/-- Copy a quoted part of an expression up to its closing quote. -/
def quotedPart (quote : Char) : Nat → FieldDraft → Reader FieldDraft
  | 0, _ => fail (.field .unterminatedString)
  | fuel + 1, d => do
    match ← take with
    | none => fail (.field .unterminatedString)
    | some c => if c = quote then return d.push c else quotedPart quote fuel (d.push c)

/-- Read a conversion, after its exclamation mark. -/
def conversion : Reader Unit := do
  match ← take with
  | none => fail (.field .expectedBrace)
  | some c => if c ≠ 's' ∧ c ≠ 'a' ∧ c ≠ 'r' then fail (.field .invalidConversion)
  match ← peek with
  | some '\x7d' | some ':' => return ()
  | _ => fail (.field .expectedBrace)

/-- Read a format specification, whose fields are read by `nested`. -/
def specification (nested : Reader (List Expr)) : Nat → Reader (List Expr)
  | 0 => return []
  | fuel + 1 => do
    match ← peek with
    | none | some '\x7d' => return []
    | some '\x7b' =>
      let values ← nested
      return values ++ (← specification nested fuel)
    | some _ =>
      let _ ← take
      specification nested fuel

/-- The expression of a field that has been read to its end. A fault in its text is told at the
beginning of the text. -/
def finishField (parse : ParseText) (origin : Nat) (d : FieldDraft) : Reader Expr := do
  if d.isBlank then fail (.field .emptyExpression)
  match parse origin d.textReversed.reverse with
  | .error fault => failAt (.inField fault.value) origin
  | .ok value => return .field origin value d.spec

/-- Read a field, after its opening brace. -/
def fieldFrom (parse : ParseText) (nested : Reader (List Expr)) (origin : Nat) :
    Nat → FieldDraft → Reader Expr
  | 0, _ => fail (.field .expectedBrace)
  | fuel + 1, d => do
    match ← take with
    | none => fail (.field (if d.isBlank then .emptyExpression else .expectedBrace))
    | some c =>
      let more := fieldFrom parse nested origin fuel
      if (c = '!' ∨ c = '=' ∨ c = '<' ∨ c = '>') ∧ (← peek) = some '=' then
        let _ ← take
        more ((d.push c).push '=')
      else if c = '!' ∧ d.brackets.isEmpty then
        if d.isBlank then fail (.field .emptyExpression)
        conversion
        more d
      else if c = '=' ∧ d.brackets.isEmpty then more { d with ended := true }
      else if c = ':' ∧ d.brackets.isEmpty then
        let start ← here
        let values ← specification nested ((← remaining) + 1)
        more { d with spec := some (.formatted start values) }
      else if c = '(' ∨ c = '[' ∨ c = '\x7b' then
        more { d.push c with brackets := c :: d.brackets }
      else if c = '\x7d' ∧ d.brackets.isEmpty then finishField parse origin d
      else if c = ')' ∨ c = ']' ∨ c = '\x7d' then
        match d.brackets with
        | [] => fail (.field (.unmatched c))
        | top :: outer =>
          if top = opener c then more { d.push c with brackets := outer }
          else fail (.field (.mismatched c top))
      else if c = '"' ∨ c = '\'' then more (← quotedPart c fuel (d.push c))
      else if c = '\\' then fail (.field .unterminatedString)
      else if ¬ d.ended then more (d.push c)
      else if c = ' ' then more d
      else fail (.field .expectedBrace)

/-- Read formatted text to its end, or, inside a field, to the brace that ends the field. -/
def formattedFrom (parse : ParseText) (nested : Reader (List Expr)) (raw inField : Bool) :
    Nat → Reader (List Expr)
  | 0 => return []
  | fuel + 1 => do
    let more := formattedFrom parse nested raw inField fuel
    match ← peek with
    | none => return []
    | some '\x7b' =>
      let _ ← take
      let next ← peek
      if ¬ inField ∧ next = some '\x7b' then
        let _ ← take
        more
      else if ¬ inField ∧ next = none then fail (.field .expectedBrace)
      else
        let value ← fieldFrom parse nested (← here) ((← remaining) + 1) {}
        return value :: (← more)
    | some '\x7d' =>
      if inField then return []
      let _ ← take
      if (← peek) = some '\x7d' then
        let _ ← take
        more
      else fail (.field .singleBrace)
    | some '\\' =>
      let _ ← take
      let next ← peek
      if ¬ raw ∧ next ≠ some '\x7b' ∧ next ≠ some '\x7d' then escape false
      more
    | some _ =>
      let _ ← take
      more

/-- Read formatted text in which fields may be nested `levels` deep. -/
def formatted (parse : ParseText) (raw inField : Bool) : Nat → Reader (List Expr)
  | 0 => fail (.field .nestedTooDeeply)
  | levels + 1 => do
    formattedFrom parse (formatted parse raw true levels) raw inField ((← remaining) + 1)

/-- The fields of one string literal that starts at `start`. -/
def fields (parse : ParseText) (start : Nat) (s : StringLiteral) : Except Diagnosis (List Expr) :=
  let cursor : Cursor :=
    ⟨s.content, start + s.form.letters.length + (if s.triple then 3 else 1)⟩
  if s.form.isFormatted then (formatted parse s.form.isRaw false 2 cursor).map (·.1)
  else (plainContent s.form s.content.length cursor).map fun _ => []

end StringContent

/-- The expression that adjacent string literals denote, each given with its offset. -/
def stringExpr (parse : StringContent.ParseText) (parts : List (Nat × StringLiteral)) :
    Except Diagnosis Expr := do
  let start := (parts.head?.map (·.1)).getD 0
  let inBytes := parts.any (·.2.form.isBytes)
  if inBytes && !parts.all (·.2.form.isBytes) then throw ⟨.mixedLiterals, start⟩
  let values ← parts.mapM fun (offset, s) => StringContent.fields parse offset s
  if parts.any (·.2.form.isFormatted) then return .formatted start values.flatten
  else return .literal start (if inBytes then .bytes else .text)

end SyntaxCheck
