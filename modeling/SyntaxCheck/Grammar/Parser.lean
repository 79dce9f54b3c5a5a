import SyntaxCheck.Token.Lexer

/-!
# Parsers over tokens

A parser takes tokens from the front of a feed. It looks at the next token, seldom at the one after
it, and never goes back, so the token that it refuses is the first one that no module could go on
with. The fault that ends a feed is met only when a token is wanted and none is left.
-/

namespace SyntaxCheck

/-- The tokens to come, the fault that they run into, and the end of the last token taken. -/
structure Feed where
  lexemes : List Lexeme
  fault : Option Diagnosis
  last : Nat

/-- A parser with results of type `α`. -/
abbrev Parser (α : Type) := StateT Feed (Except Diagnosis) α

/-- Why the next token is refused. Where only an indented block may come, any other token is one
that should have been indented. -/
def Feed.surprise (blockOnly : Bool) (feed : Feed) : Diagnosis :=
  match feed.lexemes, feed.fault with
  | l :: _, _ =>
    match l.token with
    | .indent => ⟨.unexpectedIndent, l.start⟩
    | t => ⟨if blockOnly then .expectedBlock else .unexpectedToken t, l.start⟩
  | [], some fault => fault
  | [], none => ⟨if blockOnly then .unindent else .unexpectedEnd, feed.last⟩

namespace Parser

def refuse {α : Type} : Parser α := fun feed => .error (feed.surprise false)

/-- Stop at a fault of the meaning, not of a token. -/
def blame {α : Type} (fault : Fault) (offset : Nat) : Parser α := fun _ => .error ⟨fault, offset⟩

/-- Take the outcome of a computation that needs no tokens. -/
def outcome {α : Type} (result : Except Diagnosis α) : Parser α := fun feed =>
  result.map (·, feed)

def peek : Parser (Option Token) := fun feed => .ok (feed.lexemes.head?.map (·.token), feed)

def peekSecond : Parser (Option Token) := fun feed =>
  .ok (feed.lexemes[1]?.map (·.token), feed)

def here : Parser Nat := fun feed => .ok ((feed.lexemes.head?.map (·.start)).getD feed.last, feed)

def skip : Parser Unit := fun feed =>
  match feed.lexemes with
  | [] => .error (feed.surprise false)
  | l :: rest => .ok ((), { feed with lexemes := rest, last := l.stop })

def nextIs (t : Token) : Parser Bool := return (← peek) == some t

def nextSatisfies (p : Token → Bool) : Parser Bool := return (← peek).any p

/-- Take the token `t` if it is next, and tell whether it was. -/
def skipIf (t : Token) : Parser Bool := do
  if ← nextIs t then
    skip
    return true
  else return false

/-- Take the token `t`, which has to be next. -/
def expect (t : Token) : Parser Unit := do
  if ← nextIs t then skip else refuse

/-- Take the token that opens an indented block, which has to be next. -/
def expectIndent : Parser Unit := do
  if ← nextIs .indent then skip else fun feed => .error (feed.surprise true)

def name : Parser String := do
  match ← peek with
  | some (.name id) =>
    skip
    return id
  | _ => refuse

/-- Take at most `fuel` items for as long as there is one. -/
def manyUpTo {α : Type} (item? : Parser (Option α)) : Nat → Parser (List α)
  | 0 => return []
  | fuel + 1 => do
    match ← item? with
    | none => return []
    | some a => return a :: (← manyUpTo item? fuel)

/-- Take items for as long as there is one. An item takes a token, so there are no more of them than
tokens. -/
def many {α : Type} (item? : Parser (Option α)) : Parser (List α) := do
  match ← item? with
  | none => return []
  | some a =>
    let feed ← get
    return a :: (← manyUpTo item? (feed.lexemes.length + 1))

/-- Take an item after the token `mark`, if that is next. -/
def after? {α : Type} (mark : Token) (item : Parser α) : Parser (Option α) := do
  if ← skipIf mark then return some (← item) else return none

/-- Take an item after a comma, if a comma and the beginning of an item are next. -/
def afterComma? {α : Type} (starts : Token → Bool) (item : Parser α) : Parser (Option α) := do
  if (← nextIs (.sign .comma)) && (← peekSecond).any starts then
    skip
    return some (← item)
  else return none

/-- Take one or more items between commas, and tell whether a comma follows the last. -/
def commaList {α : Type} (starts : Token → Bool) (item : Parser α) : Parser (List α × Bool) := do
  let first ← item
  let rest ← many (afterComma? starts item)
  let trailing ← skipIf (.sign .comma)
  return (first :: rest, trailing)

/-- Take one or more items between commas, without a comma after the last. -/
def strictCommaList {α : Type} (item : Parser α) : Parser (List α) := do
  let first ← item
  return first :: (← many (after? (.sign .comma) item))

/-- The outcome of a check that waits for the token after a construct: it counts only if that token
may stand there. -/
def settle {α : Type} (follows : Token → Bool) (check : Except Diagnosis α) : Parser α := do
  if ← nextSatisfies follows then outcome check else refuse

end Parser

end SyntaxCheck
