import SyntaxCheck.Grammar.Element

/-!
# Parameters

The parameter lists of functions. The order of their entries is checked when the token is seen that
closes the list, and their names when the token after the list is.
-/

namespace SyntaxCheck.Grammar

open SyntaxCheck.Parser

variable (R : ExpressionRules)

/-- How far a parameter list has come: nothing, some positional parameters, those and a slash, a
star, a double star. -/
inductive Stage
  | empty | positional | afterSlash | afterStar | afterDoubleStar
deriving DecidableEq

/-- A parameter list as far as it is read. -/
structure ParameterDraft where
  stage : Stage := .empty
  positionalOnly : List Parameter := []
  positional : List Parameter := []
  star : Option Nat := none
  rest : Option Parameter := none
  keywordOnly : List Parameter := []
  keywordRest : Option Parameter := none

/-- An annotation, where they are allowed. -/
def annotation? (annotated : Bool) (type : Parser Expr) : Parser (Option Expr) := do
  if annotated then after? (.sign .colon) type else return none

def parameter (annotated : Bool) : Parser Parameter := do
  let start ← here
  let id ← name
  let type ← annotation? annotated R.test
  let default ← after? (.sign .equal) R.test
  return .mk start id type default

/-- The name after a star, which may be missing. -/
def starParameter (annotated : Bool) (type : Parser Expr) : Parser (Option Parameter) := do
  let start ← here
  match ← peek with
  | some (.name id) =>
    skip
    return some (.mk start id (← annotation? annotated type) none)
  | _ => return none

/-- Read the next entry of a parameter list. -/
def parameterEntry (annotated : Bool) (d : ParameterDraft) : Parser ParameterDraft := do
  let start ← here
  match ← peek, d.stage with
  | some (.name _), .afterStar =>
    return { d with keywordOnly := d.keywordOnly ++ [← parameter R annotated] }
  | some (.name _), .empty | some (.name _), .positional =>
    return { d with stage := .positional, positional := d.positional ++ [← parameter R annotated] }
  | some (.name _), .afterSlash =>
    return { d with positional := d.positional ++ [← parameter R annotated] }
  | some (.sign .slash), .positional =>
    skip
    return { d with stage := .afterSlash, positionalOnly := d.positional, positional := [] }
  | some (.sign .star), .empty | some (.sign .star), .positional
  | some (.sign .star), .afterSlash =>
    skip
    let rest ← starParameter annotated (starOr R R.test)
    return { d with stage := .afterStar, star := some start, rest }
  | some (.sign .starStar), .empty | some (.sign .starStar), .positional
  | some (.sign .starStar), .afterSlash | some (.sign .starStar), .afterStar =>
    skip
    let keywordRest ← starParameter annotated R.test
    return { d with stage := .afterDoubleStar, keywordRest }
  | _, _ => refuse

/-- Read entries up to the closing token, for at most `fuel` of them. -/
def parameterEntries (annotated : Bool) (closing : Token) :
    Nat → ParameterDraft → Parser ParameterDraft
  | 0, _ => refuse
  | fuel + 1, d => do
    let d ← parameterEntry R annotated d
    if ← skipIf (.sign .comma) then
      if ← nextIs closing then return d else parameterEntries annotated closing fuel d
    else if ← nextIs closing then return d
    else refuse

/-- The first parameter without a default value after one that has one. -/
def missingDefault? (seen : Bool) : List Parameter → Option Parameter
  | [] => none
  | p :: rest =>
    if p.default.isSome then missingDefault? true rest
    else if seen then some p else missingDefault? false rest

/-- Check the order of a parameter list: a bare star needs a parameter after it, and default values
go on once they have begun. -/
def misorderedParameter? (d : ParameterDraft) : Option Diagnosis :=
  let bare :=
    if d.rest.isNone && d.keywordOnly.isEmpty && d.stage = .afterStar then d.star else none
  match bare, missingDefault? false (d.positionalOnly ++ d.positional) with
  | some start, _ => some ⟨.bareStar, start⟩
  | none, some p => some ⟨.defaultOrder, p.start⟩
  | none, none => none

/-- Read a parameter list up to its closing token, which is not taken. -/
def parameterList (annotated : Bool) (closing : Token) : Parser Parameters := do
  let d ← if ← nextIs closing then pure {} else do
    let feed ← get
    parameterEntries R annotated closing (feed.lexemes.length + 1) {}
  if let some fault := misorderedParameter? d then blame fault.value fault.offset
  return .mk d.positionalOnly d.positional d.rest d.keywordOnly d.keywordRest

/-- The first parameter whose name another one before it has. -/
def repeatedName? (seen : List String) : List Parameter → Option Parameter
  | [] => none
  | p :: rest =>
    if p.name ∈ seen then some p else repeatedName? (p.name :: seen) rest

/-- Check that no two parameters have one name. -/
def distinctNames : Parameters → Except Diagnosis Unit
  | .mk positionalOnly positional rest keywordOnly keywordRest =>
    match repeatedName? []
        (positionalOnly ++ positional ++ keywordOnly ++ rest.toList ++ keywordRest.toList) with
    | some p => .error ⟨.duplicateParameter p.name, p.start⟩
    | none => .ok ()

end SyntaxCheck.Grammar
