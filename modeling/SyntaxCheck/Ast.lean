/-!
# Module trees

What the grammar makes of a module. The tree keeps what can be asked about targets: which
expressions stand where, and the byte offset where each of them starts. Names are kept; operators
and the values of literals, which no rule looks at, are not.

The offset of an expression in parentheses is that of the expression inside, except for tuples and
generators, where the parentheses are part of the form.
-/

namespace SyntaxCheck

inductive Literal
  | none
  | true
  | false
  | ellipsis
  | number
  | text
  | bytes
deriving DecidableEq

mutual

/-- Expressions. The first field is the byte offset where the expression starts. -/
inductive Expr
  | literal (start : Nat) (value : Literal)
  | name (start : Nat) (id : String)
  | attribute (start : Nat) (value : Expr) (attr : String)
  | subscript (start : Nat) (value index : Expr)
  | slice (start : Nat) (lower upper step : Option Expr)
  | starred (start : Nat) (value : Expr)
  | tuple (start : Nat) (elements : List Expr)
  | list (start : Nat) (elements : List Expr)
  | set (start : Nat) (elements : List Expr)
  | dict (start : Nat) (keys : List (Option Expr)) (values : List Expr)
  | call (start : Nat) (function : Expr) (arguments : List Expr) (keywords : List Argument)
  | boolean (start : Nat) (operands : List Expr)
  | binary (start : Nat) (left right : Expr)
  | unary (start : Nat) (operand : Expr)
  | compare (start : Nat) (left : Expr) (comparators : List Expr)
  | conditional (start : Nat) (condition thenValue elseValue : Expr)
  | named (start : Nat) (target value : Expr)
  | lambda (start : Nat) (parameters : Parameters) (body : Expr)
  | await (start : Nat) (value : Expr)
  | yield (start : Nat) (value : Option Expr)
  | yieldFrom (start : Nat) (value : Expr)
  | listComprehension (start : Nat) (element : Expr) (clauses : List Clause)
  | setComprehension (start : Nat) (element : Expr) (clauses : List Clause)
  | dictComprehension (start : Nat) (key value : Expr) (clauses : List Clause)
  | generator (start : Nat) (element : Expr) (clauses : List Clause)
  | formatted (start : Nat) (parts : List Expr)
  | field (start : Nat) (value : Expr) (spec : Option Expr)

/-- A `for` clause of a comprehension, with the conditions that follow it. -/
inductive Clause
  | mk (target iterable : Expr) (conditions : List Expr)

/-- A keyword argument; an unpacked mapping has no name. -/
inductive Argument
  | mk (name : Option String) (value : Expr)

/-- A parameter with its annotation and its default value. -/
inductive Parameter
  | mk (start : Nat) (name : String) (type default : Option Expr)

/-- A parameter list by kind: positional-only, positional, `*rest`, keyword-only and `**rest`. -/
inductive Parameters
  | mk (positionalOnly positional : List Parameter) (rest : Option Parameter)
      (keywordOnly : List Parameter) (keywordRest : Option Parameter)

end

namespace Parameter

/-- Where the parameter is written. -/
def start : Parameter → Nat
  | .mk start _ _ _ => start

def name : Parameter → String
  | .mk _ name _ _ => name

def default : Parameter → Option Expr
  | .mk _ _ _ default => default

end Parameter

/-- A parameter of a generic definition, with its bound. -/
structure TypeParameter where
  name : String
  bound : Option Expr

/-- The patterns of a `case`. -/
inductive Pattern
  | value (value : Expr)
  | singleton (value : Literal)
  | sequence (patterns : List Pattern)
  | mapping (keys : List Expr) (patterns : List Pattern) (rest : Option String)
  | class_ (name : Expr) (patterns : List Pattern) (keywords : List (String × Pattern))
  | star (name : Option String)
  | capture (pattern : Option Pattern) (name : Option String)
  | alternatives (patterns : List Pattern)

structure WithItem where
  context : Expr
  target : Option Expr

structure FunctionHead where
  async : Bool
  name : String
  parameters : Parameters
  decorators : List Expr
  returns : Option Expr
  typeParameters : List TypeParameter

structure ClassHead where
  name : String
  bases : List Expr
  keywords : List Argument
  decorators : List Expr
  typeParameters : List TypeParameter

mutual

/-- Statements. A loop, a `with` statement and a function definition may be marked `async`; the
handlers of a `try` statement may be starred. -/
inductive Stmt
  | expression (value : Expr)
  | assign (targets : List Expr) (value : Expr)
  | augment (target value : Expr)
  | annotate (target annotation : Expr) (value : Option Expr)
  | delete (targets : List Expr)
  | return_ (value : Option Expr)
  | raise (exception cause : Option Expr)
  | assert (condition : Expr) (message : Option Expr)
  | pass
  | break_
  | continue_
  | import_ (names : List String)
  | global (names : List String)
  | nonlocal (names : List String)
  | typeAlias (name : Expr) (parameters : List TypeParameter) (value : Expr)
  | function (head : FunctionHead) (body : List Stmt)
  | class_ (head : ClassHead) (body : List Stmt)
  | if_ (condition : Expr) (body orelse : List Stmt)
  | while_ (condition : Expr) (body orelse : List Stmt)
  | for_ (async : Bool) (target iterable : Expr) (body orelse : List Stmt)
  | with_ (async : Bool) (items : List WithItem) (body : List Stmt)
  | try_ (star : Bool) (body : List Stmt) (handlers : List Handler) (orelse finally_ : List Stmt)
  | match_ (subject : Expr) (cases : List Case)

/-- A clause for exceptions. -/
inductive Handler
  | mk (type : Option Expr) (name : Option String) (body : List Stmt)

/-- A clause of a `match`. -/
inductive Case
  | mk (pattern : Pattern) (guard : Option Expr) (body : List Stmt)

end

def Expr.start : Expr → Nat
  | .literal s _ | .name s _ | .attribute s _ _ | .subscript s _ _ | .slice s _ _ _
  | .starred s _ | .tuple s _ | .list s _ | .set s _ | .dict s _ _ | .call s _ _ _
  | .boolean s _ | .binary s _ _ | .unary s _ | .compare s _ _ | .conditional s _ _ _
  | .named s _ _ | .lambda s _ _ | .await s _ | .yield s _ | .yieldFrom s _
  | .listComprehension s _ _ | .setComprehension s _ _ | .dictComprehension s _ _ _
  | .generator s _ _ | .formatted s _ | .field s _ _ => s

def Expr.isStarred : Expr → Bool
  | .starred _ _ => true
  | _ => false

end SyntaxCheck
