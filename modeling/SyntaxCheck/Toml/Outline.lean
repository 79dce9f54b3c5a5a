import SyntaxCheck.Toml.Piece

/-!
# The outline of a settings text

The outline tells which keys have which values in which tables, with keys and scalars as written.
Whatever is wrong with the arrangement of the pieces is found here, before anything is decoded. A
key or a scalar that is missing is put down as an empty one and left to the decoder.
-/

namespace SyntaxCheck.Toml

/-- A value as written. -/
inductive RawValue
  | scalar (raw : Raw)
  | array (elements : List RawValue)
  | table (entries : List (List Raw × RawValue))

/-- A key, which may have dots in it, with its value. -/
structure Assignment where
  key : List Raw
  value : RawValue

/-- A table with its header. The header of an element of an array of tables has double brackets. -/
structure Section where
  ofArray : Bool
  key : List Raw
  assignments : List Assignment

/-- The assignments before the first header, and the tables with headers. -/
structure Outline where
  top : List Assignment
  sections : List Section

namespace Outline

/-- A reader of pieces. -/
abbrev Reader (α : Type) := StateT (List Piece) (Except Fault) α

/-- How deep arrays and inline tables may be nested. -/
def nestingLimit : Nat := 80

def peek : Reader (Option Piece) := return (← get).head?

def skip : Reader Unit := modify (·.drop 1)

/-- Pass over the next piece if it is `p`, and tell whether it was. -/
def skipIf (p : Piece) : Reader Bool := do
  if (← peek) = some p then
    skip
    return true
  else return false

def skipBlank : Reader Unit := do
  if let some (.blank _) ← peek then skip

def isCommentChar (c : Char) : Bool :=
  c = '\t' || (0x20 ≤ c.toNat && c.toNat ≠ 0x7F)

def checkComment (text : List Char) : Reader Unit := do
  if !text.all isCommentChar then throw .invalidComment

def checkLineEnd (proper : Bool) : Reader Unit := do
  if !proper then throw .loneReturn

/-- Repeat a step until it is done, at most `fuel` times. -/
def collect {α : Type} (step : Reader (Option α)) : Nat → Reader (List α)
  | 0 => return []
  | fuel + 1 => do
    match ← step with
    | none => return []
    | some a => return a :: (← collect step fuel)

/-- Repeat a step until it is done. Every step but the last passes over a piece. -/
def collectAll {α : Type} (step : Reader (Option α)) : Reader (List α) := do
  collect step ((← get).length + 1)

/-- Pass over blanks, comments and line ends. -/
def skipTrivia : Reader Unit := do
  let _ ← collectAll do
    match ← peek with
    | some (.blank _) =>
      skip
      return some ()
    | some (.comment text) =>
      checkComment text
      skip
      return some ()
    | some (.lineEnd proper) =>
      checkLineEnd proper
      skip
      return some ()
    | _ => return none

/-! ### Keys -/

/-- The part of a key that comes next, or an empty one. -/
def keyPart : Reader Raw := do
  match ← peek with
  | some (.raw raw) =>
    skip
    return raw
  | _ => return .missing

/-- A key with the blank after it. -/
def key : Reader (List Raw) := do
  let first ← keyPart
  skipBlank
  let rest ← collectAll do
    if ← skipIf .dot then
      skipBlank
      let part ← keyPart
      skipBlank
      return some part
    else return none
  return first :: rest

/-! ### Values -/

/-- Whether an unquoted scalar goes on with the piece. -/
def isBare : Option Piece → Bool
  | some .dot | some (.raw ⟨none, _⟩) => true
  | _ => false

/-- The text of an unquoted scalar. Words with blanks between them are one scalar, as a date and a
time are. -/
def takeBare : List Piece → List Char × List Piece
  | [] => ([], [])
  | .dot :: rest =>
    let (text, after) := takeBare rest
    ('.' :: text, after)
  | .raw ⟨none, word⟩ :: rest =>
    let (text, after) := takeBare rest
    (word ++ text, after)
  | .blank blank :: rest =>
    if isBare rest.head? then
      let (text, after) := takeBare rest
      (blank ++ text, after)
    else ([], .blank blank :: rest)
  | piece :: rest => ([], piece :: rest)

/-- A scalar, which may be missing. -/
def scalar : Reader RawValue := do
  match ← peek with
  | some (.raw ⟨some quoting, text⟩) =>
    skip
    return .scalar ⟨some quoting, text⟩
  | _ =>
    let (text, rest) := takeBare (← get)
    set rest
    return .scalar ⟨none, text⟩

section Nested

variable (value : Reader RawValue)

/-- The next element of an array, with a comma before it if `more` is set. -/
def element? (more : Bool) : Reader (Option RawValue) := do
  skipTrivia
  let comma ← if more then skipIf .comma else pure false
  skipTrivia
  match ← peek with
  | none => throw .unclosedArray
  | some .comma => throw .extraComma
  | some .equals => throw .equalsInArray
  | some .closeSquare =>
    skip
    return none
  | some .closeCurly => throw (if more && !comma then .missingComma else .missingInlineOpen)
  | some _ =>
    if more && !comma then throw .missingComma
    return some (← value)

/-- The rest of an array after its opening bracket. -/
def arrayRest : Reader RawValue := do
  match ← element? value false with
  | none => return .array []
  | some first => return .array (first :: (← collectAll (element? value true)))

/-- Take the equals sign between a key and a value of an inline table. -/
def inlineEquals : Reader Unit := do
  skipTrivia
  match ← peek with
  | none => throw .unclosedInline
  | some .equals => skip
  | some .comma => throw (.extraInlineComma .equals)
  | some .closeSquare => throw (.invalidInlineElement .equals)
  | some _ => throw .missingAssignment

def inlineValue : Reader RawValue := do
  skipTrivia
  match ← peek with
  | none => throw .unclosedInline
  | some .comma => throw (.extraInlineComma .value)
  | some .equals => throw (.extraAssignment .value)
  | some .closeSquare => throw (.invalidInlineElement .value)
  | some .closeCurly => return .scalar .missing
  | some _ => value

/-- The next entry of an inline table, with a comma before it if `more` is set. -/
def inlinePair? (more : Bool) : Reader (Option (List Raw × RawValue)) := do
  skipTrivia
  let comma ← if more then skipIf .comma else pure false
  skipTrivia
  let need : InlineNeed := if more && !comma then .comma else .key
  match ← peek with
  | none => throw .unclosedInline
  | some .closeCurly =>
    skip
    return none
  | some .comma => throw (.extraInlineComma need)
  | some .closeSquare => throw (.invalidInlineElement need)
  | some .openSquare | some .openCurly => throw (.missingInlineKey need)
  | some .equals => if need = .comma then throw (.extraAssignment need)
  | some _ => if need = .comma then throw .missingPairComma
  let key ← key
  inlineEquals
  return some (key, ← inlineValue value)

/-- The rest of an inline table after its opening brace. -/
def inlineRest : Reader RawValue := do
  match ← inlinePair? value false with
  | none => return .table []
  | some first => return .table (first :: (← collectAll (inlinePair? value true)))

end Nested

/-- A value, with given readers for the rest of an array and of an inline table. -/
def valueOf (array table : Reader RawValue) : Reader RawValue := do
  match ← peek with
  | some .equals => throw .extraEquals
  | some .openSquare =>
    skip
    array
  | some .closeSquare => throw .missingArrayOpen
  | some .openCurly =>
    skip
    table
  | some .closeCurly => throw .missingInlineOpen
  | _ => scalar

/-- A value in which values are nested at most `n` deep. -/
def value : Nat → Reader RawValue
  | 0 => valueOf (throw .nestedTooDeeply) (throw .nestedTooDeeply)
  | n + 1 => valueOf (arrayRest (value n)) (inlineRest (value n))

/-! ### Lines -/

/-- Go to the end of a line, where only a comment may stand. -/
def finishLine : Reader Unit := do
  skipBlank
  if let some (.comment text) ← peek then
    checkComment text
    skip
  match ← peek with
  | none => return
  | some (.lineEnd proper) =>
    checkLineEnd proper
    skip
  | some _ => throw .unexpectedAfterValue

def assignment : Reader Assignment := do
  let key ← key
  if !(← skipIf .equals) then throw .keyWithoutValue
  skipBlank
  let value ← value nestingLimit
  finishLine
  return ⟨key, value⟩

def closeHeader (ofArray : Bool) : Reader Unit := do
  match ofArray, ← skipIf .closeSquare with
  | false, true => return
  | false, false => throw .unclosedTable
  | true, false => throw (.unclosedTableArray "]]")
  | true, true => if !(← skipIf .closeSquare) then throw (.unclosedTableArray "]")

/-- The assignments up to the next header or the end of the text. -/
def assignments : Reader (List Assignment) := collectAll do
  skipTrivia
  match ← peek with
  | none | some .openSquare => return none
  | some .closeSquare => throw .missingTableOpen
  | some .comma | some .openCurly | some .closeCurly => throw .invalidPair
  | some _ => return some (← assignment)

/-- A table with its header, if one comes next. -/
def section? : Reader (Option Section) := do
  if ← skipIf .openSquare then
    let ofArray ← skipIf .openSquare
    skipBlank
    let key ← key
    closeHeader ofArray
    finishLine
    return some ⟨ofArray, key, ← assignments⟩
  else return none

def document : Reader Outline := do
  let top ← assignments
  return ⟨top, ← collectAll section?⟩

end Outline

/-- The outline of a text, or the first fault in the arrangement of its pieces. -/
def outline (text : List Char) : Except Fault Outline :=
  (Outline.document (pieces text)).map (·.1)

end SyntaxCheck.Toml
