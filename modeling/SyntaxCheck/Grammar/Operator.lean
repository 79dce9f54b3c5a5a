import SyntaxCheck.Grammar.Argument
import SyntaxCheck.Grammar.Atom

/-!
# Operators

Calls, subscripts and attributes bind closest to an operand. Each further level of precedence is a
parser over the level before it.
-/

namespace SyntaxCheck.Grammar

open SyntaxCheck.Parser

variable [CharacterNames] (R : ExpressionRules)

/-- What can be added after an operand. -/
inductive Trailer
  | call (arguments : List Expr) (keywords : List Argument)
  | index (value : Expr)
  | attribute (name : String)

/-- A call, a subscript or an attribute, if one comes next. -/
def trailer? : Parser (Option Trailer) := do
  match ← peek with
  | some (.sign .lparen) =>
    let (arguments, keywords) ← argumentList R
    return some (.call arguments keywords)
  | some (.sign .lbracket) => return some (.index (← subscriptList R))
  | some (.sign .dot) =>
    skip
    return some (.attribute (← name))
  | _ => return none

def Trailer.apply (start : Nat) (value : Expr) : Trailer → Expr
  | .call arguments keywords => .call start value arguments keywords
  | .index i => .subscript start value i
  | .attribute id => .attribute start value id

/-- An atom with its trailers. -/
def primary : Parser Expr := do
  let start ← here
  let first ← atom R
  let trailers ← many (trailer? R)
  return trailers.foldl (Trailer.apply start) first

/-- An operand of the power operator. -/
def awaited : Parser Expr := do
  let start ← here
  if ← skipIf (.keyword .awaitWord) then return .await start (← primary R) else primary R

def power : Parser Expr := do
  let start ← here
  let base ← awaited R
  match ← after? (.sign .starStar) R.factor with
  | some exponent => return .binary start base exponent
  | none => return base

/-- Signs before an operand. -/
def factor : Parser Expr := do
  let start ← here
  if ← nextSatisfies fun t => t = .sign .plus || t = .sign .minus || t = .sign .tilde then
    skip
    return .unary start (← R.factor)
  else power R

/-- Operands between operators that group to the left. -/
def leftGrouped (operators : List Sign) (operand : Parser Expr) : Parser Expr := do
  let start ← here
  let first ← operand
  let rest ← many do
    if ← nextSatisfies fun t => operators.any fun s => t = .sign s then
      skip
      return some (← operand)
    else return none
  return rest.foldl (.binary start) first

def term : Parser Expr :=
  leftGrouped [.star, .slash, .slashSlash, .percent, .atSign] (factor R)

def sum : Parser Expr := leftGrouped [.plus, .minus] (term R)

def shift : Parser Expr := leftGrouped [.leftShift, .rightShift] (sum R)

/-- The operands of comparisons. -/
def operand : Parser Expr :=
  leftGrouped [.bar] (leftGrouped [.caret] (leftGrouped [.ampersand] (shift R)))

def comparisonOperator? : Parser Bool := do
  match ← peek with
  | some (.sign s) =>
    if s ∈ [.equalEqual, .notEqual, .less, .lessEqual, .greater, .greaterEqual] then
      skip
      return true
    else return false
  | some (.keyword .inWord) =>
    skip
    return true
  | some (.keyword .notWord) =>
    skip
    expect (.keyword .inWord)
    return true
  | some (.keyword .isWord) =>
    skip
    let _ ← skipIf (.keyword .notWord)
    return true
  | _ => return false

/-- Comparisons, which may be chained. -/
def comparison : Parser Expr := do
  let start ← here
  let first ← operand R
  let rest ← many do if ← comparisonOperator? then return some (← operand R) else return none
  return if rest.isEmpty then first else .compare start first rest

def notTest : Parser Expr := do
  let start ← here
  if ← skipIf (.keyword .notWord) then return .unary start (← R.notTest) else comparison R

/-- Operands between one logical operator. -/
def joined (word : Keyword) (operand : Parser Expr) : Parser Expr := do
  let start ← here
  let first ← operand
  let rest ← many (after? (.keyword word) operand)
  return if rest.isEmpty then first else .boolean start (first :: rest)

/-- Disjunctions of conjunctions. -/
def orTest : Parser Expr := joined .orWord (joined .andWord (notTest R))

end SyntaxCheck.Grammar
