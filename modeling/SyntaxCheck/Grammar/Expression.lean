import SyntaxCheck.Grammar.Operator
import SyntaxCheck.Grammar.Parameter
import SyntaxCheck.Token.SoftKeyword

/-!
# Expressions

Anonymous functions and conditional expressions bind loosest. `ExpressionRules.upTo` ties the knot
between the levels of the grammar a given number of times; as many times as there are letters is
enough.
-/

namespace SyntaxCheck

namespace Grammar

open SyntaxCheck.Parser

variable [CharacterNames] (R : ExpressionRules)

def lambda : Parser Expr := do
  let start ← here
  expect (.keyword .lambdaWord)
  let parameters ← parameterList R false (.sign .colon)
  expect (.sign .colon)
  let body ← R.test
  settle followsLambda (distinctNames parameters)
  return .lambda start parameters body

def test : Parser Expr := do
  let start ← here
  if ← nextIs (.keyword .lambdaWord) then lambda R
  else
    let value ← orTest R
    if ← skipIf (.keyword .ifWord) then
      let condition ← R.orTest
      expect (.keyword .elseWord)
      return .conditional start condition value (← R.test)
    else return value

/-- The expression in a field of a formatted string. Its text begins at `origin` and is parsed as if
it stood in parentheses. -/
def fieldExpr (origin : Nat) (text : List Char) : Except Diagnosis Expr := do
  let lexed := lex (origin - 1) ('(' :: (text ++ [')']))
  let feed : Feed := ⟨SoftKeyword.resolve false lexed.lexemes, lexed.fault, 0⟩
  let (value, feed) ← testList R feed
  match feed.lexemes.dropWhile (·.token == .newline), feed.fault with
  | [], none => return value
  | lexemes, _ => throw ({ feed with lexemes }.surprise false)

end Grammar

/-- The rules of expressions, for expressions nested less than `n` deep. -/
def ExpressionRules.upTo [CharacterNames] : Nat → ExpressionRules
  | 0 =>
    ⟨Parser.refuse, Parser.refuse, Parser.refuse, Parser.refuse, Parser.refuse,
      fun origin _ => .error ⟨.unexpectedEnd, origin⟩⟩
  | n + 1 =>
    let R := upTo n
    ⟨Grammar.test R, Grammar.orTest R, Grammar.notTest R, Grammar.operand R, Grammar.factor R,
      Grammar.fieldExpr R⟩

end SyntaxCheck
