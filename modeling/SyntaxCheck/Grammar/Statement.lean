import SyntaxCheck.Grammar.Pattern
import SyntaxCheck.Grammar.SimpleStatement

/-!
# Statements

Compound statements hold blocks of statements. `block` is given the number of times that blocks may
be nested; each of them follows the colon of its header.
-/

namespace SyntaxCheck.Grammar

open SyntaxCheck.Parser

variable [CharacterNames] (R : ExpressionRules)

/-- Take the colon of a header and the block after it. -/
def headed (block : Parser (List Stmt)) : Parser (List Stmt) := do
  expect (.sign .colon)
  block

section Nested

variable (block : Parser (List Stmt))

/-- The block of a word that may be missing. -/
def optionalBlock (word : Keyword) : Parser (List Stmt) := do
  return (← after? (.keyword word) (headed block)).getD []

/-- Alternatives of an `if` statement, as nested `if` statements. -/
def nestElse (orelse : List Stmt) : List (Expr × List Stmt) → List Stmt
  | [] => orelse
  | (condition, body) :: rest => [.if_ condition body (nestElse orelse rest)]

def ifStatement : Parser Stmt := do
  skip
  let condition ← namedTest R
  let body ← headed block
  let alternatives ← many <| after? (.keyword .elifWord) do
    let condition ← namedTest R
    return (condition, ← headed block)
  let orelse ← optionalBlock block .elseWord
  return .if_ condition body (nestElse orelse alternatives)

def whileStatement : Parser Stmt := do
  skip
  let condition ← namedTest R
  let body ← headed block
  return .while_ condition body (← optionalBlock block .elseWord)

def forStatement (async : Bool) : Parser Stmt := do
  skip
  let start ← here
  let (targets, trailing) ← operandList R
  expect (.keyword .inWord)
  let iterable ← testList R
  let body ← headed block
  return .for_ async (tupleOf start targets trailing) iterable body
    (← optionalBlock block .elseWord)

/-- One clause for exceptions, starred or not. -/
def handler (star : Bool) : Parser Handler := do
  skip
  if star then expect (.sign .star)
  let type ← if star then some <$> R.test else test? R
  let id ← if type.isSome then after? (.keyword .asWord) name else pure none
  return .mk type id (← headed block)

/-- A `try` statement. Its clauses for exceptions are all starred or all plain, as the first is. -/
def tryStatement : Parser Stmt := do
  skip
  let body ← headed block
  if ← nextIs (.keyword .exceptWord) then
    let star := (← peekSecond) == some (.sign .star)
    let handlers ← many do
      if ← nextIs (.keyword .exceptWord) then return some (← handler R block star)
      else return none
    let orelse ← optionalBlock block .elseWord
    return .try_ star body handlers orelse (← optionalBlock block .finallyWord)
  else
    expect (.keyword .finallyWord)
    return .try_ false body [] [] (← headed block)

def withItem : Parser WithItem := do
  let context ← R.test
  return ⟨context, ← after? (.keyword .asWord) R.operand⟩

/-- Whether the parentheses that come next hold items, one of which has a target: expressions
between commas up to the word `as`. -/
def itemsInParentheses : Parser Bool := fun feed =>
  let ahead : Parser Bool := do
    expect (.sign .lparen)
    let _ ← R.test
    let _ ← many (afterComma? startsTest R.test)
    nextIs (.keyword .asWord)
  match ahead feed with
  | .ok (true, _) => .ok (true, feed)
  | _ => .ok (false, feed)

/-- Whether the token can follow a string that begins a `with` statement. -/
def followsItemString : Token → Bool
  | .sign s =>
    followsAtom (.sign s) && !s.isAugmented && s ≠ .semicolon && s ≠ .equal &&
      !s.closes
  | .keyword k =>
    followsAtom (.keyword k) && k ≠ .elseWord && k ≠ .forWord && k ≠ .asyncWord && k ≠ .fromWord
  | _ => false

def isString : Token → Bool
  | .string _ => true
  | _ => false

/-- Refuse the token after strings that begin a `with` statement, if it cannot follow them there. -/
def checkItemString : Parser Unit := do
  let feed ← get
  match feed.lexemes.dropWhile fun l => isString l.token with
  | l :: rest =>
    if (← nextSatisfies isString) && !followsItemString l.token then
      throw ({ feed with lexemes := l :: rest }.surprise false)
  | [] => return ()

def withItems : Parser (List WithItem) := do
  checkItemString
  if ← itemsInParentheses R then
    expect (.sign .lparen)
    let (items, _) ← commaList startsTest (withItem R)
    expect (.sign .rparen)
    return items
  else strictCommaList (withItem R)

def withStatement (async : Bool) : Parser Stmt := do
  skip
  let items ← withItems R
  return .with_ async items (← headed block)

def functionStatement (async : Bool) (decorators : List Expr) : Parser Stmt := do
  skip
  let id ← name
  let typeParameters ← typeParameters R
  expect (.sign .lparen)
  let parameters ← parameterList R true (.sign .rparen)
  expect (.sign .rparen)
  settle (fun t => t = .sign .arrow || t = .sign .colon) (distinctNames parameters)
  let returns ← after? (.sign .arrow) R.test
  let body ← headed block
  return .function ⟨async, id, parameters, decorators, returns, typeParameters⟩ body

def classStatement (decorators : List Expr) : Parser Stmt := do
  skip
  let id ← name
  let typeParameters ← typeParameters R
  let (bases, keywords) ← if ← nextIs (.sign .lparen) then argumentList R else pure ([], [])
  let body ← headed block
  return .class_ ⟨id, bases, keywords, decorators, typeParameters⟩ body

/-- What `async` marks. Only a function can have decorators. -/
def asyncStatement (decorators : List Expr) : Parser Stmt := do
  skip
  match ← peek, decorators with
  | some (.keyword .defWord), _ => functionStatement R block true decorators
  | some (.keyword .forWord), [] => forStatement R block true
  | some (.keyword .withWord), [] => withStatement R block true
  | _, _ => refuse

def decorator : Parser Expr := do
  let value ← namedTest R
  expect .newline
  return value

/-- A definition with decorators. -/
def decorated : Parser Stmt := do
  let decorators ← many (after? (.sign .atSign) (decorator R))
  match ← peek with
  | some (.keyword .defWord) => functionStatement R block false decorators
  | some (.keyword .classWord) => classStatement R block decorators
  | some (.keyword .asyncWord) => asyncStatement R block decorators
  | _ => refuse

def caseClause (depth : Nat) : Parser Case := do
  expect (.keyword .caseWord)
  let pattern ← casePattern R depth
  let guard ← after? (.keyword .ifWord) (namedTest R)
  return .mk pattern guard (← headed block)

def matchStatement (depth : Nat) : Parser Stmt := do
  skip
  let start ← here
  let (subjects, trailing) ← commaList startsElement (starOrNamed R)
  expect (.sign .colon)
  expect .newline
  expectIndent
  let first ← caseClause R block depth
  let rest ← many do
    if ← nextIs (.keyword .caseWord) then return some (← caseClause R block depth)
    else return none
  expect .dedent
  return .match_ (tupleOf start subjects trailing) (first :: rest)

/-- The statements that begin here: one compound statement or a line of simple ones. -/
def statement (depth : Nat) : Parser (List Stmt) := do
  match ← peek with
  | some (.keyword .ifWord) => return [← ifStatement R block]
  | some (.keyword .whileWord) => return [← whileStatement R block]
  | some (.keyword .forWord) => return [← forStatement R block false]
  | some (.keyword .tryWord) => return [← tryStatement R block]
  | some (.keyword .withWord) => return [← withStatement R block false]
  | some (.keyword .defWord) => return [← functionStatement R block false []]
  | some (.keyword .classWord) => return [← classStatement R block []]
  | some (.keyword .asyncWord) => return [← asyncStatement R block []]
  | some (.keyword .matchWord) => return [← matchStatement R block depth]
  | some (.sign .atSign) => return [← decorated R block]
  | _ => simpleLine R

end Nested

/-- Blocks nested less than `n` deep: the rest of the line, or indented lines. -/
def block (depth : Nat) : Nat → Parser (List Stmt)
  | 0 => refuse
  | n + 1 => do
    if ← skipIf .newline then
      expectIndent
      let statement := statement R (block depth n) depth
      let first ← statement
      let rest ← many do if ← nextIs .dedent then return none else return some (← statement)
      expect .dedent
      return (first :: rest).flatten
    else simpleLine R

/-- The statements of a module, up to the end of its tokens. -/
def moduleBody (depth : Nat) : Parser (List Stmt) := do
  let parts ← many do
    match (← get).lexemes with
    | [] => return none
    | l :: _ =>
      if l.token = .newline then
        skip
        return some []
      else return some (← statement R (block R depth depth) depth)
  let feed ← get
  if let some fault := feed.fault then throw fault
  return parts.flatten

end Grammar

/-- The module that a text is, or its first fault. -/
def parseModule [CharacterNames] (text : List Char) : Except Diagnosis (List Stmt) := do
  let lexed := lex 0 text
  let depth := 2 * (Letter.ofText 0 text).length + 2
  let feed : Feed := ⟨SoftKeyword.resolve true lexed.lexemes, lexed.fault, 0⟩
  let (body, _) ← Grammar.moduleBody (ExpressionRules.upTo depth) depth feed
  return body

end SyntaxCheck
