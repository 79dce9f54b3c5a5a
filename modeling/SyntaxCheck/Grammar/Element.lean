import SyntaxCheck.Grammar.Parser
import SyntaxCheck.Grammar.StringContent

/-!
# Elements of expressions

Expressions contain expressions, so their parsers take a record of the levels that are used inside
brackets, after prefix operators and in the fields of formatted strings. Every use of the record
follows a token that has been taken.

What several kinds of expressions are made of comes first: the elements between commas, and the
clauses of comprehensions.
-/

namespace SyntaxCheck

/-- The levels of the grammar that occur inside other expressions. -/
structure ExpressionRules where
  test : Parser Expr
  orTest : Parser Expr
  notTest : Parser Expr
  operand : Parser Expr
  factor : Parser Expr
  field : StringContent.ParseText

namespace Grammar

open SyntaxCheck.Parser

variable (R : ExpressionRules)

/-! ### Tokens that begin or follow expressions -/

/-- Whether an expression can begin with the token. -/
def startsTest : Token → Bool
  | .name _ | .integer _ | .float _ | .imaginary _ | .string _ => true
  | .keyword k =>
    k = .noneWord || k = .trueWord || k = .falseWord || k = .notWord || k = .lambdaWord ||
      k = .awaitWord
  | .sign s =>
    s = .lparen || s = .lbracket || s = .lbrace || s = .ellipsis || s = .plus || s = .minus ||
      s = .tilde
  | _ => false

def startsElement (t : Token) : Bool :=
  startsTest t || t = .sign .star

def startsSubscript (t : Token) : Bool :=
  startsElement t || t = .sign .colon

/-- Whether the token can follow an operand somewhere. -/
def followsAtom : Token → Bool
  | .newline => true
  | .keyword k =>
    k = .andWord || k = .orWord || k = .notWord || k = .inWord || k = .isWord || k = .ifWord ||
      k = .elseWord || k = .forWord || k = .asyncWord || k = .asWord || k = .fromWord
  | .sign s =>
    !(s = .walrus || s = .arrow || s = .ellipsis || s = .tilde || s = .lbrace)
  | _ => false

/-- Whether the token can follow an element of an expression list. -/
def followsLambda : Token → Bool
  | .newline => true
  | .keyword k => k = .forWord || k = .asyncWord || k = .asWord || k = .fromWord
  | .sign s =>
    s.isAugmented || s.closes || s = .comma || s = .colon || s = .semicolon || s = .equal
  | _ => false

/-! ### Elements of lists -/

/-- An expression that may be bound to a name in passing. -/
def namedTest : Parser Expr := do
  let start ← here
  match ← peek, ← peekSecond with
  | some (.name id), some (.sign .walrus) =>
    skip
    skip
    return .named start (.name start id) (← R.test)
  | _, _ => R.test

/-- A starred element, or one parsed by `plain`. -/
def starOr (plain : Parser Expr) : Parser Expr := do
  let start ← here
  if ← skipIf (.sign .star) then return .starred start (← R.operand) else plain

/-- An element of a display: starred, named or plain. -/
def starOrNamed : Parser Expr := starOr R (namedTest R)

/-- One element stands for itself; several, or a comma at the end, make a tuple. -/
def tupleOf (start : Nat) (elements : List Expr) (trailing : Bool) : Expr :=
  match elements, trailing with
  | [e], false => e
  | _, _ => .tuple start elements

def testList : Parser Expr := do
  let start ← here
  let (elements, trailing) ← commaList startsElement (starOr R R.test)
  return tupleOf start elements trailing

/-- The targets of `for` and `del`, which stop before `in`. -/
def operandList : Parser (List Expr × Bool) :=
  commaList startsElement (starOr R R.operand)

def yieldExpr : Parser Expr := do
  let start ← here
  expect (.keyword .yieldWord)
  if ← skipIf (.keyword .fromWord) then return .yieldFrom start (← R.test)
  if ← nextSatisfies startsElement then return .yield start (some (← testList R))
  return .yield start none

/-! ### Comprehensions -/

/-- Whether the clauses of a comprehension come next. -/
def clauseNext : Parser Bool :=
  nextSatisfies fun t => t = .keyword .forWord || t = .keyword .asyncWord

def clause : Parser Clause := do
  let _ ← skipIf (.keyword .asyncWord)
  expect (.keyword .forWord)
  let start ← here
  let (targets, trailing) ← operandList R
  expect (.keyword .inWord)
  let iterable ← R.orTest
  let conditions ← many (after? (.keyword .ifWord) R.orTest)
  return .mk (tupleOf start targets trailing) iterable conditions

def clauses : Parser (List Clause) := do
  let first ← clause R
  let rest ← many do if ← clauseNext then return some (← clause R) else return none
  return first :: rest

end Grammar

end SyntaxCheck
