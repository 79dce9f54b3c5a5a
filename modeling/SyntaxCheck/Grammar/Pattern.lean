import SyntaxCheck.Grammar.Expression

/-!
# The grammar of patterns

The patterns of `case` clauses. `pattern` is given the number of times that patterns may be nested;
each nested pattern follows a token that has been taken.
-/

namespace SyntaxCheck.Grammar

open SyntaxCheck.Parser

variable [CharacterNames] (R : ExpressionRules)

def startsPattern : Token → Bool
  | .name _ | .integer _ | .float _ | .imaginary _ | .string _ => true
  | .keyword k => k = .noneWord || k = .trueWord || k = .falseWord
  | .sign s => s = .minus || s = .star || s = .lparen || s = .lbracket || s = .lbrace
  | _ => false

/-- Whether the token can follow a pattern with a name. -/
def followsPattern : Token → Bool
  | .keyword k => k = .ifWord
  | .sign s => s = .comma || s = .rparen || s = .rbracket || s = .rbrace || s = .colon
  | _ => false

def followsLiteralPattern (t : Token) : Bool :=
  followsPattern t || t = .sign .bar || t = .keyword .asWord

def unsignedNumber : Parser Expr := do
  let start ← here
  match ← peek with
  | some (.integer _) | some (.float _) | some (.imaginary _) =>
    skip
    return .literal start .number
  | _ => refuse

/-- A number, which may be negative. -/
def signedNumber : Parser Expr := do
  let start ← here
  if ← skipIf (.sign .minus) then return .unary start (← unsignedNumber) else unsignedNumber

/-- A number, or the sum or difference of two. -/
def numberPattern : Parser Expr := do
  let start ← here
  let left ← signedNumber
  if (← nextIs (.sign .plus)) || (← nextIs (.sign .minus)) then
    skip
    return .binary start left (← unsignedNumber)
  else return left

def attributes (start : Nat) (base : Expr) : Parser Expr := do
  let names ← many (after? (.sign .dot) name)
  return names.foldl (.attribute start) base

def singleton? : Token → Option Literal
  | .keyword .noneWord => some .none
  | .keyword .trueWord => some .true
  | .keyword .falseWord => some .false
  | _ => none

def mappingKey : Parser Expr := do
  let start ← here
  match ← peek with
  | none => refuse
  | some (.string _) => strings R (· = .sign .colon)
  | some (.name id) =>
    skip
    expect (.sign .dot)
    attributes start (.attribute start (.name start id) (← name))
  | some t =>
    match singleton? t with
    | some value =>
      skip
      return .literal start value
    | none => numberPattern

/-- The name that a capture binds; a lone underscore binds none. -/
def captured (id : String) : Option String :=
  if id = "_" then none else some id

section Nested

variable (pattern : Parser Pattern)

/-- What an entry of a mapping pattern is. -/
inductive MappingEntry
  | pair (key : Expr) (pattern : Pattern)
  | rest (name : String)

/-- Take an entry and the comma after it, if the braces do not close here. -/
def mappingItem? : Parser (Option MappingEntry) := do
  if ← nextIs (.sign .rbrace) then return none
  let entry ← if ← skipIf (.sign .starStar) then MappingEntry.rest <$> name else do
    let key ← mappingKey R
    expect (.sign .colon)
    pure (.pair key (← pattern))
  let comma ← skipIf (.sign .comma)
  let closed ← nextIs (.sign .rbrace)
  let last := match entry with
    | .rest _ => true
    | .pair _ _ => !comma
  if last && !closed then refuse
  return some entry

def mappingPattern : Parser Pattern := do
  expect (.sign .lbrace)
  let entries ← many (mappingItem? R pattern)
  expect (.sign .rbrace)
  let pairs := entries.filterMap fun
    | .pair key p => some (key, p)
    | _ => none
  let rest? := entries.findSome? fun
    | .rest id => some id
    | _ => none
  return .mapping (pairs.map (·.1)) (pairs.map (·.2)) rest?

def keywordPattern : Parser (String × Pattern) := do
  let id ← name
  expect (.sign .equal)
  return (id, ← pattern)

/-- A class pattern after the name of the class: patterns, then patterns with keywords. -/
def classPattern (cls : Expr) : Parser Pattern := do
  expect (.sign .lparen)
  let positional ← many do
    match ← peek, ← peekSecond with
    | some (.sign .rparen), _ | some (.name _), some (.sign .equal) => return none
    | _, _ =>
      let p ← pattern
      if !(← skipIf (.sign .comma)) && !(← nextIs (.sign .rparen)) then refuse
      return some p
  let keywords ← many do
    if ← nextIs (.sign .rparen) then return none
    let k ← keywordPattern pattern
    if !(← skipIf (.sign .comma)) && !(← nextIs (.sign .rparen)) then refuse
    return some k
  expect (.sign .rparen)
  return .class_ cls positional keywords

/-- A pattern that begins with a name: a capture, a value or a class. -/
def namePattern : Parser Pattern := do
  let start ← here
  let id ← name
  let base : Expr := .name start id
  if ← nextIs (.sign .dot) then
    let value ← attributes start base
    if ← nextIs (.sign .lparen) then classPattern pattern value else return .value value
  else if ← nextIs (.sign .lparen) then classPattern pattern base
  else return .capture none (captured id)

/-- A pattern in parentheses, or a sequence of them. -/
def groupPattern : Parser Pattern := do
  expect (.sign .lparen)
  if ← skipIf (.sign .rparen) then return .sequence []
  let (items, trailing) ← commaList startsPattern pattern
  expect (.sign .rparen)
  match items, trailing with
  | [p], false => return p
  | _, _ => return .sequence items

/-- A sequence of patterns in brackets. -/
def listPattern : Parser Pattern := do
  expect (.sign .lbracket)
  if ← skipIf (.sign .rbracket) then return .sequence []
  let (items, _) ← commaList startsPattern pattern
  expect (.sign .rbracket)
  return .sequence items

/-- A pattern without alternatives. -/
def closedPattern : Parser Pattern := do
  match ← peek with
  | none => refuse
  | some (.string _) => return .value (← strings R followsLiteralPattern)
  | some (.name _) => namePattern pattern
  | some (.sign .star) =>
    skip
    return .star (captured (← name))
  | some (.sign .lparen) => groupPattern pattern
  | some (.sign .lbracket) => listPattern pattern
  | some (.sign .lbrace) => mappingPattern R pattern
  | some t =>
    match singleton? t with
    | some value =>
      skip
      return .singleton value
    | none => return .value (← numberPattern)

/-- A pattern with its alternatives and its name. The name cannot be an underscore. -/
def namedPattern : Parser Pattern := do
  let start ← here
  let first ← closedPattern R pattern
  let rest ← many (after? (.sign .bar) (closedPattern R pattern))
  let alternatives := if rest.isEmpty then first else .alternatives (first :: rest)
  match ← after? (.keyword .asWord) name with
  | none => return alternatives
  | some id =>
    if id = "_" then settle followsPattern (.error ⟨.wildcardTarget, start⟩)
    else return .capture (some alternatives) (some id)

end Nested

/-- Patterns nested less than `n` deep. -/
def pattern : Nat → Parser Pattern
  | 0 => refuse
  | n + 1 => namedPattern R (pattern n)

/-- The patterns of a `case` clause, where a sequence needs no brackets. -/
def casePattern (n : Nat) : Parser Pattern := do
  let (items, trailing) ← commaList startsPattern (pattern R n)
  match items, trailing with
  | [p], false => return p
  | _, _ => return .sequence items

end SyntaxCheck.Grammar
