import SyntaxCheck.Grammar.Element

/-!
# Arguments and subscripts

What stands in brackets after an operand. Arguments may be in any order for the grammar; whether the
order makes sense is checked when the closing parenthesis is seen.
-/

namespace SyntaxCheck.Grammar

open SyntaxCheck.Parser

variable (R : ExpressionRules)

/-! ### Arguments -/

/-- An argument of a call, as written. -/
inductive ArgumentItem
  | positional (value : Expr)
  | keyword (start : Nat) (name : Option String) (value : Expr)

def argument : Parser ArgumentItem := do
  let start ← here
  match ← peek, ← peekSecond with
  | some (.sign .star), _ =>
    skip
    return .positional (.starred start (← R.test))
  | some (.sign .starStar), _ =>
    skip
    return .keyword start none (← R.test)
  | some (.name id), some (.sign .equal) =>
    skip
    skip
    return .keyword start (some id) (← R.test)
  | _, _ =>
    let value ← namedTest R
    if ← clauseNext then return .positional (.generator start value (← clauses R))
    else return .positional value

/-- The first argument out of place: a name given twice, a plain argument after one with a name, or
a starred one after an unpacked mapping. -/
def misplacedArgument? (names : List String) (named unpacked : Bool) :
    List ArgumentItem → Option Diagnosis
  | [] => none
  | .keyword start (some id) _ :: rest =>
    if id ∈ names then some ⟨.repeatedKeyword id, start⟩
    else misplacedArgument? (id :: names) true unpacked rest
  | .keyword _ none _ :: rest => misplacedArgument? names true true rest
  | .positional value :: rest =>
    if named && !value.isStarred then some ⟨.positionalAfterKeyword, value.start⟩
    else if value.isStarred && unpacked then some ⟨.starredAfterUnpacking, value.start⟩
    else misplacedArgument? names named unpacked rest

/-- An argument list in parentheses. -/
def argumentList : Parser (List Expr × List Argument) := do
  expect (.sign .lparen)
  let items ← many do
    if ← nextIs (.sign .rparen) then return none
    let item ← argument R
    if !(← skipIf (.sign .comma)) && !(← nextIs (.sign .rparen)) then refuse
    return some item
  if !(← nextIs (.sign .rparen)) then refuse
  if let some fault := misplacedArgument? [] false false items then blame fault.value fault.offset
  skip
  let positional := items.filterMap fun
    | .positional value => some value
    | _ => none
  let keywords := items.filterMap fun
    | .keyword _ name value => some (Argument.mk name value)
    | _ => none
  return (positional, keywords)

/-! ### Subscripts -/

/-- An optional bound of a slice. -/
def bound : Parser (Option Expr) := do
  if ← nextSatisfies startsTest then return some (← R.test) else return none

/-- A slice from its first colon on. -/
def sliceFrom (start : Nat) (lower : Option Expr) : Parser Expr := do
  expect (.sign .colon)
  let upper ← bound R
  let step ← if ← skipIf (.sign .colon) then bound R else pure none
  return .slice start lower upper step

def subscript : Parser Expr := do
  let start ← here
  match ← peek, ← peekSecond with
  | some (.sign .star), _ | some (.name _), some (.sign .walrus) => starOrNamed R
  | some (.sign .colon), _ => sliceFrom R start none
  | _, _ =>
    let value ← R.test
    if ← nextIs (.sign .colon) then sliceFrom R start (some value) else return value

/-- A subscript list in brackets. -/
def subscriptList : Parser Expr := do
  expect (.sign .lbracket)
  let start ← here
  let (items, trailing) ← commaList startsSubscript (subscript R)
  expect (.sign .rbracket)
  return tupleOf start items trailing

end SyntaxCheck.Grammar
