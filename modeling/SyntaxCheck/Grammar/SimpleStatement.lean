import SyntaxCheck.Grammar.Expression

/-!
# Simple statements

Statements without a block. Several of them may stand on one line, between semicolons.
-/

namespace SyntaxCheck.Grammar

open SyntaxCheck.Parser

variable (R : ExpressionRules)

/-- The right side of an assignment. -/
def assigned : Parser Expr := do
  if ← nextIs (.keyword .yieldWord) then yieldExpr R else testList R

/-- A chain of targets with a value, after the first target and before its equals sign. -/
def assignment (first : Expr) : Parser Stmt := do
  let rest ← many (after? (.sign .equal) (assigned R))
  let all := first :: rest
  return .assign all.dropLast (all.getLastD first)

/-- A statement that begins with an expression. Only a single expression can have an annotation. -/
def expressionStatement : Parser Stmt := do
  let start ← here
  let (elements, trailing) ← commaList startsElement (starOr R R.test)
  let target := tupleOf start elements trailing
  match ← peek with
  | some (.sign .equal) => assignment R target
  | some (.sign .colon) =>
    if elements.length = 1 && !trailing && !target.isStarred then
      skip
      let annotation ← R.test
      return .annotate target annotation (← after? (.sign .equal) (assigned R))
    else return .expression target
  | some (.sign s) =>
    if s.isAugmented then
      skip
      return .augment target (← assigned R)
    else return .expression target
  | _ => return .expression target

def test? : Parser (Option Expr) := do
  if ← nextSatisfies startsTest then return some (← R.test) else return none

def returnStatement : Parser Stmt := do
  skip
  if ← nextSatisfies startsElement then return .return_ (some (← testList R))
  else return .return_ none

def raiseStatement : Parser Stmt := do
  skip
  match ← test? R with
  | none => return .raise none none
  | some exception => return .raise (some exception) (← after? (.keyword .fromWord) R.test)

def assertStatement : Parser Stmt := do
  skip
  let condition ← R.test
  return .assert condition (← after? (.sign .comma) R.test)

def dottedName : Parser String := do
  let first ← name
  let rest ← many (after? (.sign .dot) name)
  return ".".intercalate (first :: rest)

/-- A name that may be given another name. -/
def alias_ (plain : Parser String) : Parser String := do
  let id ← plain
  return (← after? (.keyword .asWord) name).getD id

def importDots : Parser (List Unit) := many do
  if (← nextIs (.sign .dot)) || (← nextIs (.sign .ellipsis)) then
    skip
    return some ()
  else return none

def isName : Token → Bool
  | .name _ => true
  | _ => false

def importedNames : Parser (List String) := do
  if ← skipIf (.sign .star) then return ["*"]
  if ← skipIf (.sign .lparen) then
    let (names, _) ← commaList isName (alias_ name)
    expect (.sign .rparen)
    return names
  strictCommaList (alias_ name)

def fromStatement : Parser Stmt := do
  skip
  let dots ← importDots
  if dots.isEmpty || (← nextSatisfies isName) then
    let _ ← dottedName
  expect (.keyword .importWord)
  return .import_ (← importedNames)

def typeParameter : Parser TypeParameter := do
  if (← nextIs (.sign .star)) || (← nextIs (.sign .starStar)) then
    skip
    return ⟨← name, none⟩
  let id ← name
  return ⟨id, ← after? (.sign .colon) R.test⟩

def startsTypeParameter (t : Token) : Bool :=
  isName t || t = .sign .star || t = .sign .starStar

/-- The parameters of a generic definition, if it has any. -/
def typeParameters : Parser (List TypeParameter) := do
  if ← skipIf (.sign .lbracket) then
    let (parameters, _) ← commaList startsTypeParameter (typeParameter R)
    expect (.sign .rbracket)
    return parameters
  else return []

def typeStatement : Parser Stmt := do
  skip
  let start ← here
  let id ← name
  let parameters ← typeParameters R
  expect (.sign .equal)
  return .typeAlias (.name start id) parameters (← R.test)

/-- A statement without a block. -/
def smallStatement : Parser Stmt := do
  match ← peek with
  | some (.keyword .passWord) =>
    skip
    return .pass
  | some (.keyword .breakWord) =>
    skip
    return .break_
  | some (.keyword .continueWord) =>
    skip
    return .continue_
  | some (.keyword .delWord) =>
    skip
    return .delete (← operandList R).1
  | some (.keyword .returnWord) => returnStatement R
  | some (.keyword .raiseWord) => raiseStatement R
  | some (.keyword .assertWord) => assertStatement R
  | some (.keyword .globalWord) =>
    skip
    return .global (← strictCommaList name)
  | some (.keyword .nonlocalWord) =>
    skip
    return .nonlocal (← strictCommaList name)
  | some (.keyword .importWord) =>
    skip
    return .import_ (← strictCommaList (alias_ dottedName))
  | some (.keyword .fromWord) => fromStatement
  | some (.keyword .typeWord) => typeStatement R
  | some (.keyword .yieldWord) => return .expression (← yieldExpr R)
  | _ => expressionStatement R

def simpleLine : Parser (List Stmt) := do
  let first ← smallStatement R
  let rest ← many do
    if (← nextIs (.sign .semicolon)) && !(← peekSecond) == some .newline then
      skip
      return some (← smallStatement R)
    else return none
  let _ ← skipIf (.sign .semicolon)
  expect .newline
  return first :: rest

end SyntaxCheck.Grammar
