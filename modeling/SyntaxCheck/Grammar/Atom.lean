import SyntaxCheck.Grammar.Element

/-!
# Atoms

The expressions that no operator is part of: names, literals, strings, and what stands in brackets.
Strings and parenthesised stars are checked when a token is seen that can follow an operand.
-/

namespace SyntaxCheck.Grammar

open SyntaxCheck.Parser

variable [CharacterNames] (R : ExpressionRules)

def stringPart? : Parser (Option (Nat × StringLiteral)) := do
  let start ← here
  match ← peek with
  | some (.string s) =>
    skip
    return some (start, s)
  | _ => return none

/-- Adjacent strings. They are checked when a token that may follow them is seen. -/
def strings (follows : Token → Bool) : Parser Expr := do
  let parts ← many stringPart?
  settle follows (stringExpr R.field parts)

/-- What parentheses hold, when they are neither empty nor a `yield`. -/
def parenthesized (start : Nat) : Parser Expr := do
  let inner ← here
  let first ← starOrNamed R
  if !first.isStarred && (← clauseNext) then
    let clauses ← clauses R
    expect (.sign .rparen)
    return .generator start first clauses
  let rest ← many (afterComma? startsElement (starOrNamed R))
  let trailing ← skipIf (.sign .comma)
  expect (.sign .rparen)
  if first.isStarred && rest.isEmpty && !trailing then
    settle followsAtom (.error ⟨.starredInParentheses, inner⟩)
  else return tupleOf start (first :: rest) trailing

def parentheses : Parser Expr := do
  let start ← here
  expect (.sign .lparen)
  let inner ← here
  match ← peek with
  | some (.sign .rparen) =>
    skip
    return .tuple start []
  | some (.keyword .yieldWord) =>
    let value ← yieldExpr R
    expect (.sign .rparen)
    return value
  | some (.sign .starStar) =>
    skip
    let _ ← R.operand
    expect (.sign .rparen)
    settle followsAtom (.error ⟨.doubleStarredInParentheses, inner⟩)
  | _ => parenthesized R start

def brackets : Parser Expr := do
  let start ← here
  expect (.sign .lbracket)
  if ← skipIf (.sign .rbracket) then return .list start []
  let first ← starOrNamed R
  if ← clauseNext then
    let clauses ← clauses R
    expect (.sign .rbracket)
    return .listComprehension start first clauses
  let rest ← many (afterComma? startsElement (starOrNamed R))
  let _ ← skipIf (.sign .comma)
  expect (.sign .rbracket)
  return .list start (first :: rest)

/-- An entry of a dictionary display: a key with its value, or an unpacked mapping. -/
def entry : Parser (Option Expr × Expr) := do
  if ← skipIf (.sign .starStar) then return (none, ← R.operand)
  let key ← R.test
  expect (.sign .colon)
  return (some key, ← R.test)

def startsEntry (t : Token) : Bool :=
  startsTest t || t = .sign .starStar

/-- The rest of a dictionary display after its first entry. -/
def dictRest (start : Nat) (first : Option Expr × Expr) : Parser Expr := do
  let rest ← many (afterComma? startsEntry (entry R))
  let _ ← skipIf (.sign .comma)
  expect (.sign .rbrace)
  return .dict start ((first :: rest).map (·.1)) ((first :: rest).map (·.2))

def setRest (start : Nat) (first : Expr) : Parser Expr := do
  if !first.isStarred && (← clauseNext) then
    let clauses ← clauses R
    expect (.sign .rbrace)
    return .setComprehension start first clauses
  let rest ← many (afterComma? startsElement (starOrNamed R))
  let _ ← skipIf (.sign .comma)
  expect (.sign .rbrace)
  return .set start (first :: rest)

def braces : Parser Expr := do
  let start ← here
  expect (.sign .lbrace)
  match ← peek, ← peekSecond with
  | some (.sign .rbrace), _ =>
    skip
    return .dict start [] []
  | some (.sign .starStar), _ => dictRest R start (← entry R)
  | some (.sign .star), _ | some (.name _), some (.sign .walrus) =>
    setRest R start (← starOrNamed R)
  | _, _ =>
    let first ← R.test
    if ← skipIf (.sign .colon) then
      let value ← R.test
      if ← clauseNext then
        let clauses ← clauses R
        expect (.sign .rbrace)
        return .dictComprehension start first value clauses
      dictRest R start (some first, value)
    else setRest R start first

def literal? : Token → Option Literal
  | .integer _ | .float _ | .imaginary _ => some .number
  | .keyword .noneWord => some .none
  | .keyword .trueWord => some .true
  | .keyword .falseWord => some .false
  | .sign .ellipsis => some .ellipsis
  | _ => none

def atom : Parser Expr := do
  let start ← here
  match ← peek with
  | none => refuse
  | some (.name id) =>
    skip
    return .name start id
  | some (.string _) => strings R followsAtom
  | some (.sign .lparen) => parentheses R
  | some (.sign .lbracket) => brackets R
  | some (.sign .lbrace) => braces R
  | some t =>
    match literal? t with
    | some value =>
      skip
      return .literal start value
    | none => refuse

end SyntaxCheck.Grammar
