import SyntaxCheck.Token.Lexer

/-!
# Words that are reserved in some places

`match`, `case` and `type` begin statements and are plain names elsewhere. Which of the two they are
is decided by the tokens that follow on the line.
-/

namespace SyntaxCheck.SoftKeyword

/-- Whether a colon that ends a statement header follows on the line. A colon counts outside
brackets only; the one after a `lambda` there does not count, nor does one that comes first. -/
def headerFollows (first inLambda : Bool) (depth : Int) : List Lexeme → Bool
  | [] => false
  | l :: rest =>
    match l.token with
    | .newline => false
    | .keyword .lambdaWord => headerFollows false (inLambda || depth == 0) depth rest
    | .sign s =>
      if s = .colon ∧ depth = 0 then
        if inLambda then headerFollows false false depth rest
        else if first then headerFollows false false depth rest
        else true
      else if s.opens then headerFollows false inLambda (depth + 1) rest
      else if s.closes then headerFollows false inLambda (depth - 1) rest
      else headerFollows false inLambda depth rest
    | _ => headerFollows false inLambda depth rest

/-- Whether an equals sign follows, with at most one bracketed list before it. -/
def equalFollows (depth : Int) : List Lexeme → Bool
  | [] => false
  | l :: rest =>
    match l.token with
    | .newline => false
    | .sign .lbracket => equalFollows (depth + 1) rest
    | .sign .rbracket => equalFollows (depth - 1) rest
    | .sign .equal =>
      if depth = 0 then true else if depth > 0 then equalFollows depth rest else false
    | _ => if depth > 0 then equalFollows depth rest else false

def isNameLike : Token → Bool
  | .name _ => true
  | .keyword k => k.isSoft
  | _ => false

/-- Whether a soft keyword is reserved, given the tokens after it. -/
def isReserved (lineStart : Bool) (word : Keyword) (after : List Lexeme) : Bool :=
  lineStart &&
    match word with
    | .typeWord =>
      match after with
      | l :: rest => isNameLike l.token && equalFollows 0 rest
      | [] => false
    | _ => headerFollows true false 0 after

/-- Whether a statement can begin after the token. -/
def endsLine : Token → Bool
  | .newline | .indent | .dedent => true
  | _ => false

/-- Turn the soft keywords that are not reserved where they stand into names. -/
def resolve (lineStart : Bool) : List Lexeme → List Lexeme
  | [] => []
  | l :: rest =>
    let token :=
      match l.token with
      | .keyword k => if k.isSoft && !isReserved lineStart k rest then .name k.spelling else l.token
      | t => t
    { l with token } :: resolve (endsLine token) rest

end SyntaxCheck.SoftKeyword
